import Allotment.Proofs.Disk.Reading

/-!
# What a write leaves alone

A write makes the directories that its path needs and puts one file where the path leads. Nothing
else on the disk changes, whether the write goes through or not, and wherever the path leads.

* `Touches` — two disks differ at most in new directories and in files at the ends of some paths;
* `Touches.trans` — **PROVED**: the frames of several writes make one: a path that led to a place
  still leads there;
* `touches_replace`, `touches_replaceWith_error` — **PROVED**: a write touches only its path, and a
  write that fails touches none;
* `result_replace` — **PROVED**: whether a write goes through does not depend on the bytes;
* `read_of_replace` — **PROVED**: after a write that goes through the file can be read;
* `Takes` — a disk on which a write to a path goes through. `Takes.replace` — **PROVED**: then each
  one does, and what was written is what is read;
* `sameContents_replace_iff` — **PROVED**: a write that goes through changes a file, unless the same
  bytes were there before;
* `tells_store` — **PROVED**: what a fault tells about the path and the text;
* `replace_ne_ok` — **PROVED**: a path with a NUL can never be written;
* `store_ok`, `touches_store_error`, `Takes.store_of_not_encodable` — **PROVED**: a text that is
  written consists of characters, and one that is not written changes no file;
* `locate_child_ne`, `locate_dir_ne` — **PROVED**: a name in a directory never leads where another
  name leads, nor back to the directory.
-/

namespace Allotment

namespace Disk

/-! ### Frames -/

/-- One disk is left by another: some places that were free are directories, and whatever else has
changed is a file at the end of one of some paths. -/
structure Touches (paths : List Path) (d e : Disk) : Prop where
  keeps : KeepsDirs d e
  frame : ∀ loc, e.node? loc ≠ d.node? loc →
    (d.node? loc = none ∧ e.node? loc = some .dir) ∨
      ∃ p ∈ paths, e.locate p = .ok loc ∧ ∃ bytes, e.node? loc = some (.file bytes)

/-- A path that leads somewhere still does when there are more directories. -/
theorem locate_of_keepsDirs {d e : Disk} (h : KeepsDirs d e) {p : Path} {loc : Location}
    (hloc : d.locate p = .ok loc) : e.locate p = .ok loc := by
  unfold locate at hloc ⊢
  split at hloc
  · cases hloc
  · rename_i hshort
    rw [if_neg hshort, start_of_keepsDirs h]
    exact follow_of_keepsDirs h hloc

theorem Touches.refl (paths : List Path) (d : Disk) : Touches paths d d :=
  ⟨.refl d, fun _ hne => absurd rfl hne⟩

/-- What may befall later writes is not on the disk. -/
theorem touches_outages (paths : List Path) (d : Disk) (rest : List (Option Outage)) :
    Touches paths d { d with outages := rest } :=
  ⟨⟨rfl, fun _ hdir => hdir⟩, fun _ hne => absurd rfl hne⟩

theorem Touches.mono {paths more : List Path} {d e : Disk} (h : Touches paths d e)
    (hsub : ∀ p ∈ paths, p ∈ more) : Touches more d e where
  keeps := h.keeps
  frame loc hne := by
    rcases h.frame loc hne with hnew | ⟨p, hp, hfile⟩
    · exact .inl hnew
    · exact .inr ⟨p, hsub p hp, hfile⟩

/-- **The frames of two writes make one.** -/
theorem Touches.trans {paths : List Path} {d e f : Disk} (h1 : Touches paths d e)
    (h2 : Touches paths e f) : Touches paths d f where
  keeps := h1.keeps.trans h2.keeps
  frame loc hne := by
    by_cases hlater : f.node? loc = e.node? loc
    · rw [hlater] at hne ⊢
      rcases h1.frame loc hne with hnew | ⟨p, hp, hloc, hfile⟩
      · exact .inl hnew
      · exact .inr ⟨p, hp, locate_of_keepsDirs h2.keeps hloc, hfile⟩
    · rcases h2.frame loc hlater with ⟨hfree, hdir⟩ | hfile
      · by_cases hfirst : e.node? loc = d.node? loc
        · exact .inl ⟨hfirst.symm.trans hfree, hdir⟩
        · -- what the first write puts somewhere is not free for the second
          rcases h1.frame loc hfirst with ⟨-, hthere⟩ | ⟨p, -, -, bytes, hthere⟩
          · rw [hthere] at hfree
            cases hfree
          · rw [hthere] at hfree
            cases hfree
      · exact .inr hfile

/-! ### Writes -/

/-- A new directory touches no file. -/
theorem touches_put_dir {d : Disk} {loc : Location} (h : d.node? loc = none) :
    Touches [] d (d.put loc .dir) := by
  have hdir : d.node? loc ≠ some .dir := by
    rw [h]
    exact Option.some_ne_none _ |>.symm
  refine ⟨keepsDirs_put hdir .dir, ?_⟩
  intro other hne
  by_cases heq : other = loc
  · subst heq
    exact .inl ⟨h, node?_put_self (not_isPrefixOf_home hdir) .dir⟩
  · exact absurd (node?_put_of_ne heq .dir) hne

theorem touches_makeDirsFrom (d : Disk) (p : Path) (made : Bool) (loc : Location)
    (done rest : List String) : Touches [] d (d.makeDirsFrom p made loc done rest).2 := by
  induction rest generalizing d made loc done with
  | nil => exact .refl [] d
  | cons name rest ih =>
    rw [makeDirsFrom]
    split
    · exact .refl [] d
    · split
      · exact ih d made _ _
      · exact .refl [] d
      · rename_i hfree
        exact (touches_put_dir hfree).trans (ih _ true _ _)

theorem touches_makeDirs (d : Disk) (p : Path) : Touches [] d (d.makeDirs p).2 := by
  rw [makeDirs]
  split
  · exact .refl [] d
  · split
    · exact .refl [] d
    · exact touches_makeDirsFrom d p false _ [] p.names

theorem touches_breakOff (d : Disk) (p : Path) (stage : Stage) :
    Touches [] d (d.breakOff p stage) := by
  cases stage with
  | making names => exact touches_makeDirs d _
  | writing => exact touches_makeDirs d _

theorem touches_place (d : Disk) (p : Path) (added : Nat) : Touches [] d (d.place p added).2 := by
  have hdirs := touches_makeDirs d p.parent
  rw [place]
  split
  · rename_i made
    rwa [made] at hdirs
  · rename_i made
    rw [made] at hdirs
    split
    · exact hdirs
    · split
      · exact hdirs
      · split <;> exact hdirs

/-- A path with a last name is the path of a file in a directory. -/
theorem child_parent {p : Path} {name : String} (h : p.names.getLast? = some name) :
    p.parent.child name = p := by
  obtain ⟨root, names⟩ := p
  obtain ⟨dir, rfl⟩ := List.getLast?_eq_some_iff.1 h
  show (⟨root, (dir ++ [name]).dropLast ++ [name]⟩ : Path) = ⟨root, dir ++ [name]⟩
  rw [List.dropLast_concat]

/-- A file is placed where its path leads, unless there is a directory. -/
theorem locate_of_place {d e : Disk} {p : Path} {added : Nat} {loc : Location}
    (h : d.place p added = (.ok loc, e)) (hshort : p.isTooLong = false)
    (hfile : e.node? loc ≠ some .dir) : e.locate p = .ok loc := by
  cases hlast : p.names.getLast? with
  | none =>
    -- a path without names leads to a directory
    rw [place, hlast] at h
    split at h
    · cases h
    · rename_i made
      simp only [Prod.mk.injEq, Except.ok.injEq] at h
      obtain ⟨rfl, rfl⟩ := h
      exact absurd (leads_makeDirs made).1.dir hfile
  | some name =>
    rw [← child_parent hlast] at h hshort ⊢
    obtain ⟨⟨dir, made, rfl⟩, -, hname⟩ := place_child h
    rw [locate_child (leads_makeDirs made).1, if_neg]
    rw [hshort, hname]
    decide

/-- What a write on a disk that does not fail by itself leaves. -/
theorem touches_install (d : Disk) (p : Path) (content : Except Text.Unencodable (List UInt8))
    (added : Nat) : Touches [p] d (d.install p content added).2 := by
  have hplace : Touches [p] d (d.place p added).2 :=
    (touches_place d p added).mono (List.forall_mem_nil _)
  rcases install_cases d p content added with
    ⟨_, hfault⟩ | ⟨bytes, loc, after, -, placed, hshort, hfree, hok⟩
  · rw [hfault]
    exact hplace
  · have hkeeps := keepsDirs_put hfree (.file bytes)
    rw [placed] at hplace
    rw [hok]
    refine hplace.trans ⟨hkeeps, ?_⟩
    intro other hne
    obtain rfl : other = loc :=
      Classical.byContradiction fun heq => hne (node?_put_of_ne heq _)
    exact .inr ⟨p, List.mem_singleton_self p,
      locate_of_keepsDirs hkeeps (locate_of_place placed hshort hfree), bytes,
      node?_put_self (not_isPrefixOf_home hfree) _⟩

/-- **A write touches only its path,** whether it goes through or not. -/
theorem touches_replaceWith (d : Disk) (p : Path)
    (content : Except Text.Unencodable (List UInt8)) :
    Touches [p] d (d.replaceWith p content).2 := by
  have htape := touches_outages [p] d
  rw [replaceWith]
  split
  · exact touches_install d p content asideLength
  · rename_i rest _
    exact (htape rest).trans (touches_install { d with outages := rest } p content asideLength)
  · rename_i what rest _
    have hbreak := touches_breakOff { d with outages := rest } p what.stage
    exact (htape rest).trans (hbreak.mono (List.forall_mem_nil _))

theorem touches_replace (d : Disk) (p : Path) (bytes : List UInt8) :
    Touches [p] d (d.replace p bytes).2 := touches_replaceWith d p (.ok bytes)

/-- **A write that fails touches no path.** -/
theorem touches_replaceWith_error {d e : Disk} {p : Path}
    {content : Except Text.Unencodable (List UInt8)} {fault : WriteFault}
    (h : d.replaceWith p content = (.error fault, e)) : Touches [] d e := by
  have htouch := touches_replaceWith d p content
  have hfault : (d.replaceWith p content).1 = .error fault := by rw [h]
  have hfiles := replaceWith_error_file hfault
  rw [h] at htouch hfiles
  refine ⟨htouch.keeps, ?_⟩
  intro loc hne
  rcases htouch.frame loc hne with hnew | ⟨-, -, -, found, hfile⟩
  · exact .inl hnew
  · exact absurd (hfile.trans ((hfiles loc found).1 hfile).symm) hne

/-- Whether a write goes through does not depend on the bytes. -/
theorem result_replace (d : Disk) (p : Path) (bytes other : List UInt8) :
    (d.replace p bytes).1 = (d.replace p other).1 := by
  have hinstall : ∀ e : Disk, (e.install p (.ok bytes) asideLength).1 =
      (e.install p (.ok other) asideLength).1 := by
    intro e
    rw [install, install]
    split
    · rfl
    · simp only
      split
      · rfl
      · split <;> rfl
  rw [replace, replace, replaceWith, replaceWith]
  split
  · exact hinstall d
  · exact hinstall _
  · rfl

/-- A write that goes through, on a disk that does not fail by itself. -/
theorem locate_of_install {d e : Disk} {p : Path} {bytes : List UInt8} {added : Nat}
    (h : d.install p (.ok bytes) added = (.ok (), e)) :
    ∃ loc, e.locate p = .ok loc ∧ e.node? loc = some (.file bytes) := by
  rcases install_cases d p (.ok bytes) added with
    ⟨_, hfault⟩ | ⟨found, loc, after, hbytes, placed, hshort, hfree, hok⟩
  · rw [hfault] at h
    cases h
  · obtain rfl := Except.ok.inj hbytes
    obtain rfl := (Prod.mk.inj (hok.symm.trans h)).2
    exact ⟨loc, locate_of_keepsDirs (keepsDirs_put hfree _) (locate_of_place placed hshort hfree),
      node?_put_self (not_isPrefixOf_home hfree) _⟩

/-- **After a write that goes through** the bytes are where the path leads. -/
theorem locate_of_replace {d e : Disk} {p : Path} {bytes : List UInt8}
    (h : d.replace p bytes = (.ok (), e)) :
    ∃ loc, e.locate p = .ok loc ∧ e.node? loc = some (.file bytes) := by
  rw [replace, replaceWith] at h
  split at h
  · exact locate_of_install h
  · exact locate_of_install h
  · cases h

/-- Wherever its path leads, a file that was written can be read. -/
theorem read_of_replace {d e : Disk} {p : Path} {bytes : List UInt8}
    (h : d.replace p bytes = (.ok (), e)) : e.read p = .ok (some bytes) := by
  cases hlast : p.names.getLast? with
  | none =>
    obtain ⟨loc, hloc, hfile⟩ := locate_of_replace h
    have hnul : p.hasNul = false := by
      rw [Path.hasNul, List.getLast?_eq_none_iff.1 hlast]
      rfl
    simp only [read, lookup, hnul, hloc, hfile, Bool.false_eq_true, if_false]
  | some name =>
    have hok := replace_child_ok d p.parent name bytes
    rw [child_parent hlast, h] at hok
    exact (hok rfl).2

/-- A disk takes a file at a path. -/
def Takes (d : Disk) (p : Path) : Prop := (d.replace p []).1 = .ok ()

/-- **Where a disk takes a file, it takes every file,** and it can be read there. -/
theorem Takes.replace {d : Disk} {p : Path} (h : d.Takes p) (bytes : List UInt8) :
    ∃ after, d.replace p bytes = (.ok (), after) ∧ after.read p = .ok (some bytes) := by
  have hok : (d.replace p bytes).1 = .ok () := (result_replace d p bytes []).trans h
  have hwrite : d.replace p bytes = (.ok (), (d.replace p bytes).2) := Prod.ext hok rfl
  exact ⟨_, hwrite, read_of_replace hwrite⟩

/-! ### Files -/

/-- Two disks have the same files, with the same bytes. -/
def SameContents (d e : Disk) : Prop :=
  ∀ loc bytes, e.node? loc = some (.file bytes) ↔ d.node? loc = some (.file bytes)

/-- A file that has changed is where one of the paths leads. -/
theorem Touches.of_changed {paths : List Path} {d e : Disk} (h : Touches paths d e)
    {loc : Location} {bytes : List UInt8}
    (hchanged : ¬(e.node? loc = some (.file bytes) ↔ d.node? loc = some (.file bytes))) :
    ∃ p ∈ paths, e.locate p = .ok loc := by
  have hne : e.node? loc ≠ d.node? loc := by
    intro heq
    rw [heq] at hchanged
    exact hchanged Iff.rfl
  rcases h.frame loc hne with ⟨hfree, hdir⟩ | ⟨p, hp, hloc, -⟩
  · rw [hfree, hdir] at hchanged
    simp at hchanged
  · exact ⟨p, hp, hloc⟩

/-- Where no path is touched, all files are the same. -/
theorem Touches.sameContents {d e : Disk} (h : Touches [] d e) : SameContents d e := by
  intro loc bytes
  apply Classical.byContradiction
  intro hchanged
  obtain ⟨p, hp, -⟩ := h.of_changed hchanged
  cases hp

/-- **A write that goes through changes a file,** unless the same bytes were there before. -/
theorem sameContents_replace_iff {d e : Disk} {p : Path} {bytes : List UInt8}
    (h : d.replace p bytes = (.ok (), e)) :
    SameContents d e ↔ ∃ loc, e.locate p = .ok loc ∧ d.node? loc = some (.file bytes) := by
  have htouch := touches_replace d p bytes
  rw [h] at htouch
  obtain ⟨loc, hloc, hfile⟩ := locate_of_replace h
  constructor
  · intro hsame
    exact ⟨loc, hloc, (hsame loc bytes).1 hfile⟩
  · rintro ⟨loc', hloc', hbefore⟩ other old
    obtain rfl : loc = loc' := Except.ok.inj (hloc.symm.trans hloc')
    apply Classical.byContradiction
    intro hchanged
    obtain ⟨q, hq, hother⟩ := htouch.of_changed hchanged
    obtain rfl := List.mem_singleton.1 hq
    obtain rfl : loc = other := Except.ok.inj (hloc.symm.trans hother)
    rw [hfile, hbefore] at hchanged
    exact hchanged Iff.rfl

/-- Where no path is touched, a file that could be read still reads the same. -/
theorem Touches.read_eq {d e : Disk} (h : Touches [] d e) {p : Path} {bytes : List UInt8}
    (hread : d.read p = .ok (some bytes)) : e.read p = .ok (some bytes) := by
  unfold read lookup at hread ⊢
  split at hread
  · cases hread
  · cases hread
  · rename_i found hlookup
    split at hlookup
    · cases hlookup
    · rename_i hnul
      split at hlookup
      · rename_i loc hloc
        obtain rfl : found = bytes := Option.some.inj (Except.ok.inj hread)
        have hfile := (h.sameContents loc found).2 (Except.ok.inj hlookup)
        rw [if_neg hnul, locate_of_keepsDirs h.keeps hloc]
        simp only [hfile]
      · cases hlookup
      · cases hlookup
  · cases hread

/-! ### What is at fault -/

/-- What a fault tells about the path and about what was to be written there. The other faults are
the disk's. -/
def Tells (p : Path) (content : Option (Except Text.Unencodable (List UInt8))) :
    WriteFault → Prop
  | .nulInPath => p.hasNul = true
  | .numberTooLong => content = none
  | .unencodable what => content = some (.error what)
  | _ => True

/-- A path holds a NUL if its directory does. -/
theorem hasNul_of_parent {p : Path} (h : p.parent.hasNul = true) : p.hasNul = true := by
  obtain ⟨name, hmem, hnul⟩ := List.any_eq_true.1 h
  exact List.any_eq_true.2 ⟨name, List.dropLast_subset p.names hmem, hnul⟩

section Fault

variable {d : Disk} {p : Path} {fault : WriteFault}

theorem tells_makeDirsFrom {q : Path} {made : Bool} {loc : Location} {done rest : List String}
    (h : (d.makeDirsFrom q made loc done rest).1 = .error fault)
    (content : Option (Except Text.Unencodable (List UInt8))) :
    Tells p content fault := by
  induction rest generalizing d made loc done with
  | nil => cases h
  | cons name rest ih =>
    rw [makeDirsFrom] at h
    split at h
    · obtain rfl := Except.error.inj h
      trivial
    · split at h
      · exact ih h
      · obtain rfl := Except.error.inj h
        split <;> trivial
      · exact ih h

theorem tells_makeDirs (h : (d.makeDirs p.parent).1 = .error fault)
    (content : Option (Except Text.Unencodable (List UInt8))) :
    Tells p content fault := by
  rw [makeDirs] at h
  split at h
  · rename_i hnul
    obtain rfl := Except.error.inj h
    exact hasNul_of_parent hnul
  · split at h
    · obtain rfl := Except.error.inj h
      trivial
    · exact tells_makeDirsFrom h content

theorem tells_place {added : Nat} (h : (d.place p added).1 = .error fault)
    (content : Option (Except Text.Unencodable (List UInt8))) :
    Tells p content fault := by
  rw [place] at h
  split at h
  · rename_i fault' after made
    obtain rfl := Except.error.inj h
    exact tells_makeDirs (congrArg Prod.fst made) content
  · split at h
    · cases h
    · rename_i name hlast
      split at h
      · rename_i hnul
        obtain rfl := Except.error.inj h
        exact List.any_eq_true.2 ⟨name, List.mem_of_getLast? hlast, hnul⟩
      · split at h
        · obtain rfl := Except.error.inj h
          trivial
        · cases h

variable {content : Except Text.Unencodable (List UInt8)}

theorem tells_install {added : Nat} (h : (d.install p content added).1 = .error fault) :
    Tells p (some content) fault := by
  rw [install] at h
  split at h
  · rename_i fault' after placed
    obtain rfl := Except.error.inj h
    exact tells_place (congrArg Prod.fst placed) (some content)
  · split at h
    · obtain rfl := Except.error.inj h
      rfl
    · split at h
      · obtain rfl := Except.error.inj h
        trivial
      · split at h
        · obtain rfl := Except.error.inj h
          trivial
        · cases h

theorem tells_replaceWith (h : (d.replaceWith p content).1 = .error fault) :
    Tells p (some content) fault := by
  rw [replaceWith] at h
  split at h
  · exact tells_install h
  · exact tells_install h
  · obtain rfl := Except.error.inj h
    trivial

end Fault

/-- **What is at fault** when a text is not written: the path, a number or a letter in it, or the
disk. -/
theorem tells_store {α : Type} [Text.Letter α] {d e : Disk} {p : Path} {text : Option (List α)}
    {fault : WriteFault} (h : d.store p text = (.error fault, e)) :
    Tells p (text.map Text.encode) fault := by
  cases text with
  | none =>
    obtain rfl := Except.error.inj (Prod.mk.inj h).1
    rfl
  | some t => exact tells_replaceWith (congrArg Prod.fst h)

/-- **A write to a path with a NUL never goes through.** -/
theorem replace_ne_ok {d : Disk} {p : Path} (h : p.hasNul = true) (bytes : List UInt8) :
    (d.replace p bytes).1 ≠ .ok () := by
  intro hok
  have hread : (d.replace p bytes).2.read p = .ok (some bytes) := read_of_replace (Prod.ext hok rfl)
  rw [read, lookup, if_pos h] at hread
  cases hread

/-! ### Texts -/

/-- What has no bytes is never written. -/
theorem replaceWith_error_ne_ok (d : Disk) (p : Path) (what : Text.Unencodable) :
    (d.replaceWith p (.error what)).1 ≠ .ok () := by
  have hinstall : ∀ e : Disk, (e.install p (.error what) asideLength).1 ≠ .ok () := by
    intro e hok
    rcases install_cases e p (.error what) asideLength with
      ⟨_, hfault⟩ | ⟨_, _, _, hbytes, -⟩
    · rw [hfault] at hok
      cases hok
    · cases hbytes
  rw [replaceWith]
  split
  · exact hinstall d
  · exact hinstall _
  · exact fun hok => by cases hok

section Texts

variable {α : Type} [Text.Letter α] {d e : Disk} {p : Path} {text : Option (List α)}

/-- **What is written consists of characters.** -/
theorem store_ok (h : d.store p text = (.ok (), e)) :
    ∃ s : List Char, text = some (Text.spelled s) ∧
      d.replace p (Text.encodeUtf8 s) = (.ok (), e) := by
  cases text with
  | none => cases h
  | some t =>
    by_cases ht : Text.Encodable t
    · obtain ⟨s, rfl⟩ := Text.encodable_iff.1 ht
      rw [store, Text.encode_spelled] at h
      exact ⟨s, rfl, h⟩
    · rw [store, Text.encode_of_not_encodable ht] at h
      exact absurd (congrArg Prod.fst h) (replaceWith_error_ne_ok d p _)

/-- If there can be only one text, it is what is written. -/
theorem replace_of_store {written : Option (List Char)} {s : List Char}
    (honly : ∀ t, written = some t → s = t) (h : d.store p written = (.ok (), e)) :
    d.replace p (Text.encodeUtf8 s) = (.ok (), e) := by
  obtain ⟨t, htext, hwrite⟩ := store_ok h
  rw [Text.spelled_char] at htext
  rw [honly t htext]
  exact hwrite

/-- **A text that is not written touches no path.** -/
theorem touches_store_error {fault : WriteFault} (h : d.store p text = (.error fault, e)) :
    Touches [] d e := by
  cases text with
  | none =>
    obtain rfl := (Prod.mk.inj h).2
    exact .refl [] d
  | some t => exact touches_replaceWith_error h

/-- **Where a disk takes files, only surrogates are at fault** if a text is not written, and all files
are left as they were. -/
theorem Takes.store_of_not_encodable {t : List α} (h : d.Takes p) (ht : ¬Text.Encodable t) :
    ∃ after, d.store p (some t) = (.error (.unencodable (Text.firstSurrogates t)), after) ∧
      SameContents d after := by
  have hinstall : ∀ e : Disk, (e.install p (.ok []) asideLength).1 = .ok () →
      (e.install p (.error (Text.firstSurrogates t)) asideLength).1 =
        .error (.unencodable (Text.firstSurrogates t)) := by
    intro e hok
    rw [install] at hok ⊢
    split at hok
    · cases hok
    · rfl
  have hfault : (d.store p (some t)).1 = .error (.unencodable (Text.firstSurrogates t)) := by
    rw [Takes, Disk.replace, replaceWith] at h
    rw [store, Text.encode_of_not_encodable ht, replaceWith]
    split at h
    · exact hinstall d h
    · exact hinstall _ h
    · cases h
  exact ⟨_, Prod.ext hfault rfl, (touches_store_error (Prod.ext hfault rfl)).sameContents⟩

end Texts

/-! ### Names in a directory -/

/-- Where the path of a file leads, if it leads anywhere: one name on from its directory. -/
theorem step_of_locate_child {d : Disk} {dir : Path} {name : String} {loc : Location}
    (h : d.locate (dir.child name) = .ok loc) :
    ∃ l, d.follow (d.start dir.root) dir.names = .ok l ∧ loc = step l name := by
  rw [locate] at h
  split at h
  · cases h
  · have hfollow : d.follow (d.start dir.root) (dir.names ++ [name]) = .ok loc := h
    rw [follow_append] at hfollow
    cases hdir : d.follow (d.start dir.root) dir.names with
    | error why =>
      rw [hdir] at hfollow
      cases hfollow
    | ok l =>
      rw [hdir] at hfollow
      have hstep : d.follow l [name] = .ok loc := hfollow
      rw [follow] at hstep
      split at hstep
      · cases hstep
      · cases hstep
      · split at hstep
        · cases hstep
        · exact ⟨l, rfl, (Except.ok.inj hstep).symm⟩

/-- A name in a directory never leads to the directory, nor to where another name leads. -/
theorem step_ne {n : String} (hn : n ≠ "..") (loc : Location) :
    step loc n ≠ loc ∧ ∀ m, m ≠ n → step loc n ≠ step loc m := by
  rw [step_of_ne hn]
  refine ⟨fun h => ?_, fun m hm h => ?_⟩
  · have hlength := congrArg List.length h
    simp at hlength
  · by_cases hdots : m = ".."
    · have hlength := congrArg List.length h
      rw [step, if_pos hdots, List.length_append, List.length_dropLast, List.length_singleton]
        at hlength
      omega
    · rw [step_of_ne hdots, List.append_cancel_left_eq] at h
      exact hm (List.singleton_inj.1 h).symm

/-- **Two names in a directory never lead to one place.** -/
theorem locate_child_ne {d : Disk} {dir : Path} {n m : String} (hn : n ≠ "..") (hne : m ≠ n)
    {loc : Location} (h : d.locate (dir.child n) = .ok loc) :
    d.locate (dir.child m) ≠ .ok loc := by
  intro hother
  obtain ⟨l, hl, rfl⟩ := step_of_locate_child h
  obtain ⟨l', hl', heq⟩ := step_of_locate_child hother
  obtain rfl : l = l' := Except.ok.inj (hl.symm.trans hl')
  exact (step_ne hn l).2 m hne heq

/-- Nor does a name in a directory lead to the directory. -/
theorem locate_dir_ne {d : Disk} {dir : Path} {n : String} (hn : n ≠ "..") {loc : Location}
    (h : d.locate (dir.child n) = .ok loc) : d.locate dir ≠ .ok loc := by
  intro hdir
  obtain ⟨l, hl, rfl⟩ := step_of_locate_child h
  rw [locate] at hdir
  split at hdir
  · cases hdir
  · rw [hl] at hdir
    exact (step_ne hn l).1 (Except.ok.inj hdir).symm

end Disk

end Allotment
