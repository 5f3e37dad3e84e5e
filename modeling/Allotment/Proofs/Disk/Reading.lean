import Allotment.Disk

/-!
# What is read after a write

The files of a registry lie side by side in one directory. As soon as a path of directories leads
there, it does so for good, and each file of the directory is read on its own: a write that goes
through is read back and changes no other file, a write that fails changes none.

* `Leads` — a path leads through directories to a directory;
* `KeepsDirs` — whatever is a directory stays one, which every write does;
* `replaceWith_child` — **PROVED**: a write in a directory that a path leads to;
* `replace_child_ok` — **PROVED**: after a write that goes through, the path leads to the directory
  of the file, and the file is read as it was written.

As long as nothing leads to the directory, nothing in it can be read (`leads_of_read`), even if
files lie there: a path may go through a directory that does not exist and come back.
-/

namespace Allotment

/-- The path of a file in a directory. -/
def Path.child (dir : Path) (name : String) : Path := ⟨dir.root, dir.names ++ [name]⟩

theorem Path.parent_child (dir : Path) (name : String) : (dir.child name).parent = dir := by
  simp [Path.parent, Path.child]

theorem Path.getLast?_child (dir : Path) (name : String) :
    (dir.child name).names.getLast? = some name := by
  simp [Path.child]

theorem Path.hasNul_child (dir : Path) (name : String) :
    (dir.child name).hasNul = (dir.hasNul || nameHasNul name) := by
  simp [Path.hasNul, Path.child]

namespace Disk

/-! ### Directories stay -/

/-- Whatever is a directory on one disk is one on another. -/
structure KeepsDirs (d e : Disk) : Prop where
  home : e.home = d.home
  dir : ∀ loc, d.node? loc = some .dir → e.node? loc = some .dir

theorem KeepsDirs.refl (d : Disk) : KeepsDirs d d := ⟨rfl, fun _ h => h⟩

theorem KeepsDirs.trans {d e f : Disk} (h1 : KeepsDirs d e) (h2 : KeepsDirs e f) : KeepsDirs d f :=
  ⟨h2.home.trans h1.home, fun loc h => h2.dir loc (h1.dir loc h)⟩

/-- Putting something where no directory is keeps all directories. -/
theorem keepsDirs_put {d : Disk} {loc : Location} (h : d.node? loc ≠ some .dir) (node : Node) :
    KeepsDirs d (d.put loc node) := by
  refine ⟨rfl, fun other hother => ?_⟩
  have hne : other ≠ loc := by
    intro heq
    exact h (heq ▸ hother)
  rw [node?_put_of_ne hne]
  exact hother

theorem keepsDirs_makeDirsFrom (d : Disk) (p : Path) (made : Bool) (loc : Location)
    (done rest : List String) : KeepsDirs d (d.makeDirsFrom p made loc done rest).2 := by
  induction rest generalizing d made loc done with
  | nil => exact .refl d
  | cons name rest ih =>
    unfold makeDirsFrom
    simp only
    split
    · exact .refl d
    · split
      · exact ih d made _ _
      · exact .refl d
      · rename_i free
        exact (keepsDirs_put (by rw [free]; simp) .dir).trans (ih _ true _ _)

theorem keepsDirs_makeDirs (d : Disk) (p : Path) : KeepsDirs d (d.makeDirs p).2 := by
  unfold makeDirs
  split
  · exact .refl d
  · split
    · exact .refl d
    · exact keepsDirs_makeDirsFrom d p false _ [] p.names

/-! ### Following a path -/

/-- A path leads through directories to a directory. -/
structure Leads (d : Disk) (p : Path) (loc : Location) : Prop where
  follow : d.follow (d.start p.root) p.names = .ok loc
  dir : d.node? loc = some .dir

theorem follow_append (d : Disk) (loc : Location) (names : List String) (name : String) :
    d.follow loc (names ++ [name]) = (d.follow loc names).bind fun l => d.follow l [name] := by
  induction names generalizing loc with
  | nil => rfl
  | cons first rest ih =>
    rw [List.cons_append, follow, follow]
    split
    · rfl
    · rfl
    · split
      · rfl
      · exact ih _

theorem follow_of_keepsDirs {d e : Disk} (h : KeepsDirs d e) {loc l : Location}
    {names : List String} (hd : d.follow loc names = .ok l) : e.follow loc names = .ok l := by
  induction names generalizing loc with
  | nil => exact hd
  | cons name rest ih =>
    rw [follow] at hd ⊢
    split at hd
    · simp at hd
    · simp at hd
    · rename_i hdir
      rw [h.dir loc hdir]
      simp only
      split at hd
      · simp at hd
      · rename_i hshort
        rw [if_neg hshort]
        exact ih hd

theorem start_of_keepsDirs {d e : Disk} (h : KeepsDirs d e) (root : Root) :
    e.start root = d.start root := by
  cases root with
  | here => exact h.home
  | slash => rfl
  | doubleSlash => rfl

/-- A path that leads to a directory does so for good. -/
theorem Leads.of_keepsDirs {d e : Disk} {p : Path} {loc : Location} (hl : Leads d p loc)
    (h : KeepsDirs d e) : Leads e p loc := by
  refine ⟨?_, h.dir loc hl.dir⟩
  rw [start_of_keepsDirs h]
  exact follow_of_keepsDirs h hl.follow

/-- Where the walk along a path starts, there is a directory. -/
theorem node?_start (d : Disk) (root : Root) : d.node? (d.start root) = some .dir := by
  cases root <;> simp [start, node?]

/-- A walk that ends at a directory starts at one. -/
theorem dir_of_follow {d : Disk} {loc l : Location} {names : List String}
    (hf : d.follow loc names = .ok l) (hl : d.node? l = some .dir) :
    d.node? loc = some .dir := by
  cases names with
  | nil =>
    rw [follow] at hf
    simp only [Except.ok.injEq] at hf
    rw [hf]
    exact hl
  | cons name rest =>
    rw [follow] at hf
    split at hf
    · simp at hf
    · simp at hf
    · assumption

/-- The first part of a walk that ends at a directory ends at one, too. -/
theorem follow_prefix {d : Disk} {loc l : Location} {names more : List String}
    (hf : d.follow loc (names ++ more) = .ok l) (hl : d.node? l = some .dir) :
    ∃ m, d.follow loc names = .ok m ∧ d.node? m = some .dir := by
  induction names generalizing loc with
  | nil => exact ⟨loc, rfl, dir_of_follow hf hl⟩
  | cons name rest ih =>
    have hdir := dir_of_follow hf hl
    rw [List.cons_append, follow, hdir] at hf
    rw [follow, hdir]
    simp only at hf ⊢
    split at hf
    · simp at hf
    · rename_i hshort
      rw [if_neg hshort]
      exact ih hf

/-- Following a path whose directories are all there asks for nothing to be made. -/
theorem makeDirsFrom_of_follow {d : Disk} {loc l : Location} {rest : List String}
    (hf : d.follow loc rest = .ok l) (hl : d.node? l = some .dir) (p : Path) (made : Bool)
    (done : List String) : d.makeDirsFrom p made loc done rest = (.ok l, d) := by
  induction rest generalizing loc made done with
  | nil =>
    rw [follow] at hf
    simp only [Except.ok.injEq] at hf
    rw [makeDirsFrom, hf]
  | cons name rest ih =>
    have hdir := dir_of_follow hf hl
    rw [follow, hdir] at hf
    simp only at hf
    split at hf
    · simp at hf
    · rename_i hshort
      rw [makeDirsFrom, if_neg hshort, dir_of_follow hf hl]
      exact ih hf made _

/-- Making directories that are there changes nothing. -/
theorem makeDirs_of_leads {d : Disk} {p : Path} {loc : Location} (h : Leads d p loc) :
    d.makeDirs p = (.ok loc, d) ∨ ∃ fault, d.makeDirs p = (.error fault, d) := by
  unfold makeDirs
  split
  · exact Or.inr ⟨_, rfl⟩
  · split
    · exact Or.inr ⟨_, rfl⟩
    · exact Or.inl (makeDirsFrom_of_follow h.follow h.dir p false [])

theorem follow_makeDirsFrom {d e : Disk} {p : Path} {made : Bool} {loc l : Location}
    {done rest : List String} (hloc : d.node? loc = some .dir)
    (h : d.makeDirsFrom p made loc done rest = (.ok l, e)) :
    e.follow loc rest = .ok l ∧ e.node? l = some .dir := by
  induction rest generalizing d made loc done with
  | nil =>
    simp only [makeDirsFrom, Prod.mk.injEq, Except.ok.injEq] at h
    obtain ⟨rfl, rfl⟩ := h
    exact ⟨rfl, hloc⟩
  | cons name rest ih =>
    have keeps := keepsDirs_makeDirsFrom d p made loc done (name :: rest)
    rw [h] at keeps
    rw [makeDirsFrom] at h
    split at h
    · simp at h
    · rename_i hshort
      rw [follow, keeps.dir loc hloc]
      simp only [if_neg hshort]
      split at h
      · rename_i hdir
        exact ih hdir h
      · simp at h
      · rename_i free
        have hfree : d.node? (step loc name) ≠ some .dir := by simp [free]
        have hprefix := not_isPrefixOf_home hfree
        exact ih (node?_put_self hprefix .dir) h

/-- Once its directories are made, a path leads to the last of them. -/
theorem leads_makeDirs {d e : Disk} {p : Path} {loc : Location} (h : d.makeDirs p = (.ok loc, e)) :
    Leads e p loc ∧ p.hasNul = false := by
  have keeps := keepsDirs_makeDirs d p
  rw [h] at keeps
  unfold makeDirs at h
  split at h
  · simp at h
  · rename_i hnul
    split at h
    · simp at h
    · obtain ⟨hfollow, hdir⟩ := follow_makeDirsFrom (node?_start d p.root) h
      refine ⟨⟨?_, hdir⟩, by simpa using hnul⟩
      rw [start_of_keepsDirs keeps]
      exact hfollow

/-! ### Reading in a directory -/

theorem step_of_ne {name : String} (h : name ≠ "..") (loc : Location) :
    step loc name = loc ++ [name] := by
  rw [step, if_neg h]

/-- Different names in a directory stand for different places. -/
theorem step_ne_step {n m : String} (hn : n ≠ "..") (hm : m ≠ "..") (h : n ≠ m) (loc : Location) :
    step loc n ≠ step loc m := by
  rw [step_of_ne hn, step_of_ne hm]
  simpa using h

/-- The location of a file in a directory. -/
theorem locate_child {d : Disk} {dir : Path} {loc : Location} (h : Leads d dir loc)
    (name : String) :
    d.locate (dir.child name) =
      if (dir.child name).isTooLong ∨ Path.nameTooLong 0 name then .error .tooLong
      else .ok (step loc name) := by
  have hstart : d.start (dir.child name).root = d.start dir.root := rfl
  have hfollow : d.follow (d.start dir.root) (dir.child name).names = d.follow loc [name] := by
    show d.follow _ (dir.names ++ [name]) = _
    rw [follow_append, h.follow]
    rfl
  rw [locate, hstart, hfollow, follow, h.dir]
  simp only [follow]
  by_cases hlong : (dir.child name).isTooLong = true
  · simp [hlong]
  · by_cases hname : Path.nameTooLong 0 name = true
    · simp [hname]
    · simp [hlong, hname]

/-- What is read of a file depends on the place of the file alone. -/
theorem read_child_congr {d e : Disk} {dir : Path} {loc : Location} (hd : Leads d dir loc)
    (he : Leads e dir loc) {name : String}
    (h : e.node? (step loc name) = d.node? (step loc name)) :
    e.read (dir.child name) = d.read (dir.child name) := by
  have hlookup : e.lookup (dir.child name) = d.lookup (dir.child name) := by
    rw [lookup, lookup, locate_child he, locate_child hd]
    by_cases hlong : (dir.child name).isTooLong = true ∨ Path.nameTooLong 0 name = true
    · simp only [if_pos hlong]
    · simp only [if_neg hlong, h]
  rw [read, read, hlookup]

theorem follow_outages (d : Disk) (rest : List (Option Outage)) (loc : Location)
    (names : List String) : ({ d with outages := rest } : Disk).follow loc names = d.follow loc names := by
  induction names generalizing loc with
  | nil => rfl
  | cons name more ih =>
    rw [follow, follow]
    simp only [ih]
    rfl

/-- Reading does not depend on what may befall the writes to come. -/
theorem read_outages (d : Disk) (rest : List (Option Outage)) (p : Path) :
    ({ d with outages := rest } : Disk).read p = d.read p := by
  have hlocate : ({ d with outages := rest } : Disk).locate p = d.locate p := by
    rw [locate, locate, follow_outages]
    rfl
  rw [read, read, lookup, lookup, hlocate]
  rfl

theorem lookup_of_read {d : Disk} {p : Path} {bytes : List UInt8}
    (h : d.read p = .ok (some bytes)) : d.lookup p = .ok (some (.file bytes)) := by
  unfold read at h
  split at h
  · simp at h
  · simp at h
  · rename_i found
    simp only [Except.ok.injEq, Option.some.injEq] at h
    rw [found, h]
  · simp at h

theorem has_of_read {d : Disk} {p : Path} {bytes : Option (List UInt8)}
    (h : d.read p = .ok bytes) : d.has p = .ok bytes.isSome := by
  cases bytes with
  | some bytes => rw [has, lookup_of_read h]; rfl
  | none =>
    unfold read at h
    split at h
    · simp at h
    · rename_i found
      rw [has, found]
      rfl
    · simp at h
    · simp at h

/-- A file that can be read lies in a directory that its path leads to. -/
theorem leads_of_read {d : Disk} {dir : Path} {name : String} {bytes : List UInt8}
    (h : d.read (dir.child name) = .ok (some bytes)) : ∃ loc, Leads d dir loc := by
  have hlookup := lookup_of_read h
  rw [lookup] at hlookup
  split at hlookup
  · simp at hlookup
  · split at hlookup
    · rename_i place located
      rw [locate] at located
      split at located
      · simp at located
      · have hfollow : d.follow (d.start dir.root) (dir.names ++ [name]) = .ok place := located
        rw [follow_append] at hfollow
        cases hdir : d.follow (d.start dir.root) dir.names with
        | error why =>
          rw [hdir] at hfollow
          simp [Except.bind] at hfollow
        | ok loc =>
          rw [hdir] at hfollow
          refine ⟨loc, hdir, ?_⟩
          have hstep : d.follow loc [name] = .ok place := hfollow
          rw [follow] at hstep
          split at hstep
          · simp at hstep
          · simp at hstep
          · assumption
    · simp at hlookup
    · simp at hlookup

/-- A file is read if its name is one that the disk can hold. -/
theorem read_child_of_file {d : Disk} {dir : Path} {loc : Location} (h : Leads d dir loc)
    {name : String} {bytes : List UInt8} (hnul : (dir.child name).hasNul = false)
    (hlong : (dir.child name).isTooLong = false) (hname : Path.nameTooLong 0 name = false)
    (hfile : d.node? (step loc name) = some (.file bytes)) :
    d.read (dir.child name) = .ok (some bytes) := by
  rw [read, lookup, locate_child h]
  simp [hnul, hlong, hname, hfile]

/-! ### Writing in a directory -/

theorem nameTooLong_zero {added : Nat} {name : String} (h : Path.nameTooLong added name = false) :
    Path.nameTooLong 0 name = false := by
  simp only [Path.nameTooLong, decide_eq_false_iff_not, Nat.not_lt] at h ⊢
  omega

/-- Where a file is placed, its directory is there and its name can be held. -/
theorem place_child {d e : Disk} {dir : Path} {name : String} {added : Nat} {place : Location}
    (h : d.place (dir.child name) added = (.ok place, e)) :
    (∃ loc, d.makeDirs dir = (.ok loc, e) ∧ place = step loc name) ∧
      (dir.child name).hasNul = false ∧ Path.nameTooLong 0 name = false := by
  rw [Disk.place, Path.parent_child, Path.getLast?_child] at h
  split at h
  · simp at h
  · rename_i loc after made
    simp only at h
    split at h
    · simp at h
    · rename_i hnul
      split at h
      · simp at h
      · rename_i hfits
        simp only [Prod.mk.injEq, Except.ok.injEq] at h
        obtain ⟨rfl, rfl⟩ := h
        simp only [overlong, Bool.or_eq_true, not_or, Bool.not_eq_true] at hfits
        refine ⟨⟨loc, made, rfl⟩, ?_, nameTooLong_zero hfits.1⟩
        rw [Path.hasNul_child, (leads_makeDirs made).2]
        simpa using hnul

/-- A write that goes through, on a disk that does not fail by itself. -/
theorem install_child_ok {d : Disk} {dir : Path} {name : String} {bytes : List UInt8} {added : Nat}
    (h : (d.install (dir.child name) (.ok bytes) added).1 = .ok ()) :
    (∃ loc, Leads (d.install (dir.child name) (.ok bytes) added).2 dir loc) ∧
      (d.install (dir.child name) (.ok bytes) added).2.read (dir.child name) =
        .ok (some bytes) := by
  rcases install_cases d (dir.child name) (.ok bytes) added with
    ⟨_, hfault⟩ | ⟨found, place, after, hbytes, placed, hlong, free, hok⟩
  · rw [hfault] at h
    cases h
  · obtain rfl := Except.ok.inj hbytes
    obtain ⟨⟨loc, made, rfl⟩, hnul, hname⟩ := place_child placed
    have hleads := (leads_makeDirs made).1.of_keepsDirs (keepsDirs_put free (.file bytes))
    rw [hok]
    exact ⟨⟨loc, hleads⟩, read_child_of_file hleads hnul hlong hname
      (node?_put_self (not_isPrefixOf_home free) _)⟩

/-- **After a write that goes through,** the path leads to the directory of the file, and the file
is read as it was written. -/
theorem replace_child_ok (d : Disk) (dir : Path) (name : String) (bytes : List UInt8)
    (h : (d.replace (dir.child name) bytes).1 = .ok ()) :
    (∃ loc, Leads (d.replace (dir.child name) bytes).2 dir loc) ∧
      (d.replace (dir.child name) bytes).2.read (dir.child name) = .ok (some bytes) := by
  unfold replace replaceWith at h ⊢
  split at h
  · exact install_child_ok h
  · exact install_child_ok h
  · cases h

/-- What a write in a directory that a path leads to may do: the directory stays, the other files
stay, and a write that fails leaves its own file, too. -/
structure WritesChild (d e : Disk) (dir : Path) (loc : Location) (name : String)
    (result : Except WriteFault Unit) : Prop where
  leads : Leads e dir loc
  others : ∀ other, step loc other ≠ step loc name →
    e.read (dir.child other) = d.read (dir.child other)
  failed : ∀ fault, result = .error fault → ∀ other,
    e.read (dir.child other) = d.read (dir.child other)

theorem WritesChild.of_node? {d e : Disk} {dir : Path} {loc : Location} {name : String}
    {result : Except WriteFault Unit} (hd : Leads d dir loc) (he : Leads e dir loc)
    (others : ∀ other, other ≠ step loc name → e.node? other = d.node? other)
    (failed : ∀ fault, result = .error fault → ∀ other, e.node? other = d.node? other) :
    WritesChild d e dir loc name result where
  leads := he
  others _ hne := read_child_congr hd he (others _ hne)
  failed fault hfault _ := read_child_congr hd he (failed fault hfault _)

/-- The directories on the way to one that a path leads to are there. -/
theorem makeDirs_take_of_leads {d : Disk} {p : Path} {loc : Location} (h : Leads d p loc)
    (count : Nat) : (d.makeDirs ⟨p.root, p.names.take count⟩).2 = d := by
  have hcut : p.names.take count ++ p.names.drop count = p.names := List.take_append_drop _ _
  obtain ⟨l, hl, hdir⟩ := follow_prefix (hcut ▸ h.follow) h.dir
  rcases makeDirs_of_leads (p := ⟨p.root, p.names.take count⟩) ⟨hl, hdir⟩ with made | ⟨_, made⟩
  · rw [made]
  · rw [made]

/-- A write that the disk breaks off leaves a directory that a path leads to as it was. -/
theorem breakOff_child {d : Disk} {dir : Path} {loc : Location} (h : Leads d dir loc)
    (name : String) (stage : Stage) : d.breakOff (dir.child name) stage = d := by
  cases stage with
  | making names =>
    rw [breakOff, Path.parent_child]
    exact makeDirs_take_of_leads h names
  | writing =>
    rw [breakOff, Path.parent_child]
    rcases makeDirs_of_leads h with made | ⟨_, made⟩
    · rw [made]
    · rw [made]

theorem install_child {d : Disk} {dir : Path} {loc : Location} (h : Leads d dir loc)
    (name : String) (content : Except Text.Unencodable (List UInt8)) (added : Nat) :
    WritesChild d (d.install (dir.child name) content added).2 dir loc name
      (d.install (dir.child name) content added).1 := by
  have hsame : ∀ result, WritesChild d d dir loc name result :=
    fun result => .of_node? h h (fun _ _ => rfl) (fun _ _ _ => rfl)
  have hplace : (∃ fault, d.place (dir.child name) added = (.error fault, d)) ∨
      d.place (dir.child name) added = (.ok (step loc name), d) := by
    rw [Disk.place, Path.parent_child, Path.getLast?_child]
    rcases makeDirs_of_leads h with made | ⟨fault, made⟩
    · rw [made]
      simp only
      split
      · exact Or.inl ⟨_, rfl⟩
      · split
        · exact Or.inl ⟨_, rfl⟩
        · exact Or.inr rfl
    · rw [made]
      exact Or.inl ⟨fault, rfl⟩
  have hafter : (d.place (dir.child name) added).2 = d := by
    rcases hplace with ⟨_, placed⟩ | placed <;> rw [placed]
  rcases install_cases d (dir.child name) content added with
    ⟨_, hfault⟩ | ⟨bytes, place, after, -, placed, -, free, hok⟩
  · rw [hfault, hafter]
    exact hsame _
  · rcases hplace with ⟨_, hblocked⟩ | hstep
    · rw [hblocked] at placed
      cases placed
    · rw [hstep] at placed
      cases placed
      rw [hok]
      refine .of_node? h (h.of_keepsDirs (keepsDirs_put free _)) ?_ (fun fault hfault => ?_)
      · intro other hne
        exact node?_put_of_ne hne _
      · cases hfault

/-- **A write in a directory that a path leads to** changes at most its own file, and a write that
fails changes none. -/
theorem replaceWith_child {d : Disk} {dir : Path} {loc : Location} (h : Leads d dir loc)
    (name : String) (content : Except Text.Unencodable (List UInt8)) :
    WritesChild d (d.replaceWith (dir.child name) content).2 dir loc name
      (d.replaceWith (dir.child name) content).1 := by
  have htape : ∀ rest, Leads { d with outages := rest } dir loc :=
    fun _ => h.of_keepsDirs ⟨rfl, fun _ hdir => hdir⟩
  have hread : ∀ rest other, ({ d with outages := rest } : Disk).read (dir.child other)
      = d.read (dir.child other) := fun rest other => read_outages d rest (dir.child other)
  unfold replaceWith
  split
  · exact install_child h name content asideLength
  · rename_i rest _
    have writes := install_child (htape rest) name content asideLength
    refine ⟨writes.leads, fun other hne => ?_, fun fault hfault other => ?_⟩
    · rw [writes.others other hne, hread]
    · rw [writes.failed fault hfault other, hread]
  · rename_i what rest _
    simp only [breakOff_child (htape rest)]
    exact ⟨htape rest, fun other _ => hread rest other, fun _ _ other => hread rest other⟩

theorem replace_child {d : Disk} {dir : Path} {loc : Location} (h : Leads d dir loc)
    (name : String) (bytes : List UInt8) :
    WritesChild d (d.replace (dir.child name) bytes).2 dir loc name
      (d.replace (dir.child name) bytes).1 := replaceWith_child h name (.ok bytes)

theorem store_child {α : Type} [Text.Letter α] {d : Disk} {dir : Path} {loc : Location}
    (h : Leads d dir loc) (name : String) (text : Option (List α)) :
    WritesChild d (d.store (dir.child name) text).2 dir loc name
      (d.store (dir.child name) text).1 := by
  cases text with
  | none => exact .of_node? h h (fun _ _ => rfl) fun _ _ _ => rfl
  | some text => exact replaceWith_child h name (Text.encode text)

end Disk

end Allotment
