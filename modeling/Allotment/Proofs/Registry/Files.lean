import Allotment.Proofs.Disk.Reading
import Allotment.Proofs.Ledger.Copy
import Allotment.Proofs.Registry.Act
import Allotment.Proofs.Registry.Lawful

/-!
# What the files of a registry say

The ledger and the rosters lie side by side in one directory. A registry that starts sees of the
disk only what the files say: a table, and for each registrant some named ids.

* `Layout.Plain` — the names of the files are names of files, and no paths;
* `Layout.tableAt`, `Layout.listedAt` — the table that the ledger settles to, and the entries of a
  roster;
* `Layout.OnFile` — an id is in its roster, and the count in the ledger is past it;
* `tableAt_of_saved`, `listedIn_of_saved` — **PROVED**: a write of the ledger or of a roster puts there
  exactly what the registry has in mind, and leaves the other files;
* `SameFiles` — two disks on which all files say the same, which is what a failed write leaves
  (`sameFiles_of_failed`).
-/

namespace Allotment

open Disk (Leads)
open Desk (linesOf)

/-! ### Names of files -/

/-- A name without a slash, read from a directory, is a name in it. -/
theorem Path.join_of_flat (dir : Path) {name : String} (hflat : '/' ∉ name.toList)
    (hempty : name ≠ "") (hdot : name ≠ ".") : dir.join name = dir.child name := by
  have hne : name.toList ≠ [] := by simpa using hempty
  have hroot : rootOf name.toList = .here := by
    obtain ⟨first, rest, hlist⟩ := List.exists_cons_of_ne_nil hne
    have hfirst : first ≠ '/' := by
      rintro rfl
      exact hflat (by rw [hlist]; exact List.mem_cons_self)
    rw [rootOf, hlist, List.takeWhile_cons_of_neg (by simpa using hfirst)]
    rfl
  have hnames : namesOf name.toList = [name] := by
    have hsplit : name.toList.splitOn '/' = [name.toList] := List.splitOn_eq_singleton hflat
    have hkeep : (name.toList != [] && name.toList != ['.']) = true := by
      have hdot' : name.toList ≠ ['.'] := fun heq => hdot (String.toList_injective heq)
      simp [hne, hdot']
    rw [namesOf, hsplit, List.filter_cons, if_pos hkeep]
    simp
  have hstring : ofString name = ⟨.here, [name]⟩ := by rw [ofString, hroot, hnames]
  rw [join, hstring]
  rfl

theorem Path.child_injective {dir : Path} {n m : String} (h : dir.child n = dir.child m) :
    n = m := by
  simpa [Path.child] using h

namespace Layout

/-- The files have names without slashes, and the ledger's is no name with a meaning in paths. -/
structure Plain (l : Layout) : Prop where
  ledger_flat : '/' ∉ l.ledgerName.toList
  ledger_ne : l.ledgerName ≠ "" ∧ l.ledgerName ≠ "." ∧ l.ledgerName ≠ ".."
  suffix_flat : '/' ∉ l.rosterSuffix.toList

/-- The usual names of the files are plain. -/
theorem plain_usual (dir : Path) : ({ dir } : Layout).Plain where
  ledger_flat := by
    show '/' ∉ "!reservations.cfg".toList
    decide
  ledger_ne := by
    show "!reservations.cfg" ≠ "" ∧ "!reservations.cfg" ≠ "." ∧ "!reservations.cfg" ≠ ".."
    decide
  suffix_flat := by
    show '/' ∉ ".cfg".toList
    decide

/-- The name of a registrant's roster. -/
def rosterName (l : Layout) (registrant : String) : String := registrant ++ l.rosterSuffix

theorem rosterName_injective {l : Layout} {k j : String} (h : l.rosterName k = l.rosterName j) :
    k = j := by
  have hlist := congrArg String.toList h
  simp only [rosterName, String.toList_append] at hlist
  exact String.toList_injective (List.append_cancel_right hlist)

/-- The name of a roster is no name with a meaning in paths. -/
theorem rosterName_ne {l : Layout} {k : String} (hk : Registrant.IsKey k) :
    l.rosterName k ≠ "" ∧ l.rosterName k ≠ "." ∧ l.rosterName k ≠ ".." := by
  obtain ⟨first, rest, hlist⟩ := List.exists_cons_of_ne_nil hk.ne_nil
  have htext : (l.rosterName k).toList = first :: (rest ++ l.rosterSuffix.toList) := by
    simp [rosterName, hlist]
  have hdot : k.toList ≠ ['.'] := fun heq => hk.ne_dots.1 (String.toList_injective heq)
  have hdots : k.toList ≠ ['.', '.'] := fun heq => hk.ne_dots.2 (String.toList_injective heq)
  refine ⟨?_, ?_, ?_⟩
  · intro heq
    rw [heq] at htext
    simp at htext
  · intro heq
    rw [heq] at htext
    have htext : ['.'] = first :: (rest ++ l.rosterSuffix.toList) := htext
    simp only [List.cons.injEq, List.nil_eq, List.append_eq_nil_iff] at htext
    exact hdot (by rw [hlist, ← htext.1, htext.2.1])
  · intro heq
    rw [heq] at htext
    have htext : ['.', '.'] = first :: (rest ++ l.rosterSuffix.toList) := htext
    rw [List.cons.injEq] at htext
    cases rest with
    | nil => exact hdot (by rw [hlist, ← htext.1])
    | cons second more =>
      rw [List.cons_append, List.cons.injEq, List.nil_eq, List.append_eq_nil_iff] at htext
      exact hdots (by rw [hlist, ← htext.1, ← htext.2.1, htext.2.2.1])

/-- A roster lies in the directory, under its own name. -/
theorem rosterPath_of_flat {l : Layout} (hsuffix : '/' ∉ l.rosterSuffix.toList) {k : String}
    {p : Path} (hk : Registrant.IsKey k) (hp : l.rosterPath k = .ok p) :
    p = l.dir.child (l.rosterName k) ∧ l.dir.child (l.rosterName k) ≠ l.ledgerPath := by
  have hflat : '/' ∉ (l.rosterName k).toList := by
    have hslash : '/' ∉ k.toList := hk.not_mem (by decide)
    simp [rosterName, hslash, hsuffix]
  have hjoin := Path.join_of_flat l.dir hflat (rosterName_ne hk).1 (rosterName_ne hk).2.1
  have hne := rosterPath_ne_ledgerPath hp
  unfold Layout.rosterPath at hp
  simp only at hp
  split at hp
  · cases hp
  · obtain rfl := Except.ok.inj hp
    rw [← hjoin]
    exact ⟨rfl, hne⟩

section Plain

variable {l : Layout} (h : l.Plain)
include h

theorem Plain.ledgerPath : l.ledgerPath = l.dir.child l.ledgerName :=
  Path.join_of_flat l.dir h.ledger_flat h.ledger_ne.1 h.ledger_ne.2.1

theorem Plain.rosterPath {k : String} {p : Path} (hk : Registrant.IsKey k)
    (hp : l.rosterPath k = .ok p) :
    p = l.dir.child (l.rosterName k) ∧ l.rosterName k ≠ l.ledgerName := by
  obtain ⟨hchild, hne⟩ := rosterPath_of_flat h.suffix_flat hk hp
  refine ⟨hchild, fun heq => hne ?_⟩
  rw [h.ledgerPath, heq]

end Plain

/-- With the usual names every registrant has a roster: no key starts with an exclamation mark. -/
theorem rosterPath_usual (dir : Path) {k : String} (hk : Registrant.IsKey k) :
    ∃ p, ({ dir } : Layout).rosterPath k = .ok p := by
  have hplain := plain_usual dir
  unfold Layout.rosterPath
  simp only
  split
  · rename_i heq
    have hflat : '/' ∉ (k ++ ".cfg").toList := by
      have hslash : '/' ∉ k.toList := hk.not_mem (by decide)
      have hsuffix : '/' ∉ ".cfg".toList := by decide
      rw [String.toList_append, List.mem_append, not_or]
      exact ⟨hslash, hsuffix⟩
    have hne := rosterName_ne (l := { dir }) hk
    rw [hplain.ledgerPath, Path.join_of_flat dir hflat hne.1 hne.2.1] at heq
    have hname := congrArg (fun name => name.toList.head?) (Path.child_injective heq)
    obtain ⟨first, rest, hlist⟩ := List.exists_cons_of_ne_nil hk.ne_nil
    have hledger : "!reservations.cfg".toList.head? = some '!' := by decide
    have hmark : first = '!' := by
      rw [String.toList_append, hlist, hledger] at hname
      exact Option.some.inj hname
    have hok := hk.acceptable
    rw [hlist, hmark] at hok
    simp [Registrant.isAcceptable] at hok
  · exact ⟨_, rfl⟩

/-! ### Reading the files -/

/-- The table that the ledger settles to. -/
def tableAt (l : Layout) (disk : Disk) : List (String × Holding) :=
  match disk.read l.ledgerPath with
  | .ok bytes => (Ledger.settle (Ledger.entries (Ledger.read (linesOf bytes)))).1
  | .error _ => []

/-- The entries of a registrant's roster. -/
def listedAt (l : Layout) (disk : Disk) (registrant : String) : List Roster.Entry :=
  match l.rosterPath registrant with
  | .ok p =>
    match disk.read p with
    | .ok bytes => Roster.entries (Roster.read (linesOf bytes))
    | .error _ => []
  | .error _ => []

/-- An id is on file: it is in the roster under its name, and the count in the ledger is past it. -/
def OnFile (l : Layout) (disk : Disk) (registrant : String) (space : Space) (name : String)
    (id : Int) : Prop :=
  (name, id) ∈ Roster.listedIn (l.listedAt disk registrant) space ∧
    ∃ h, Assoc.get? registrant (l.tableAt disk) = some h ∧ (h.get space).Covers id

/-- A path leads to the directory of the files. -/
def Placed (l : Layout) (disk : Disk) : Prop := ∃ loc, Leads disk l.dir loc

/-- Whatever the ledger holds, it settles to a table without conflicts. -/
theorem consistent_tableAt (l : Layout) (disk : Disk) : Ledger.Consistent (l.tableAt disk) := by
  unfold tableAt
  split
  · exact Ledger.consistent_settle Ledger.parsed_of_mem_entries
  · exact Ledger.consistent_nil

/-- Whatever a roster holds, its names can be written again. -/
theorem storable_of_mem_listedAt {l : Layout} {disk : Disk} {registrant : String} :
    ∀ e ∈ l.listedAt disk registrant, IdName.Storable e.name := by
  intro e he
  unfold listedAt at he
  split at he
  · split at he
    · rename_i bytes _
      cases bytes with
      | none => simp [linesOf, Roster.read, Text.significant, Text.significantFrom,
          Roster.readFrom, Roster.entries] at he
      | some bytes => exact Roster.storable_of_mem_entries e he
    · simp at he
  · simp at he

/-- A table that is not empty comes from a ledger that can be read. -/
theorem read_of_get?_tableAt {l : Layout} {disk : Disk} {registrant : String} {h : Holding}
    (hget : Assoc.get? registrant (l.tableAt disk) = some h) :
    ∃ bytes, disk.read l.ledgerPath = .ok (some bytes) := by
  unfold tableAt at hget
  cases hread : disk.read l.ledgerPath with
  | error f =>
    rw [hread] at hget
    cases hget
  | ok bytes =>
    cases bytes with
    | none =>
      rw [hread] at hget
      cases hget
    | some bytes => exact ⟨bytes, rfl⟩

theorem Plain.placed {l : Layout} (h : l.Plain) {disk : Disk} {bytes : List UInt8}
    (hread : disk.read l.ledgerPath = .ok (some bytes)) : l.Placed disk := by
  rw [h.ledgerPath] at hread
  exact Disk.leads_of_read hread

/-- Where no path leads to the directory, the ledger settles to nothing. -/
theorem Plain.tableAt_of_not_placed {l : Layout} (h : l.Plain) {disk : Disk}
    (hplaced : ¬l.Placed disk) : l.tableAt disk = [] := by
  cases htable : l.tableAt disk with
  | nil => rfl
  | cons x rest =>
    have hget : Assoc.get? x.1 (l.tableAt disk) = some x.2 := by
      rw [htable]
      simp [Assoc.get?]
    obtain ⟨bytes, hread⟩ := read_of_get?_tableAt hget
    exact absurd (h.placed hread) hplaced

theorem Plain.placed_of_onFile {l : Layout} (h : l.Plain) {disk : Disk} {registrant : String}
    {space : Space} {name : String} {id : Int} (hf : l.OnFile disk registrant space name id) :
    l.Placed disk := by
  obtain ⟨-, holding, hget, -⟩ := hf
  obtain ⟨bytes, hread⟩ := read_of_get?_tableAt hget
  exact h.placed hread

end Layout

/-! ### Disks on which the files say the same -/

/-- All files of a layout can be read on one disk as on another. -/
structure SameFiles (l : Layout) (d e : Disk) : Prop where
  ledger : e.read l.ledgerPath = d.read l.ledgerPath
  rosters : ∀ k p, Registrant.IsKey k → l.rosterPath k = .ok p → e.read p = d.read p

theorem SameFiles.refl (l : Layout) (d : Disk) : SameFiles l d d := ⟨rfl, fun _ _ _ _ => rfl⟩

theorem SameFiles.tableAt {l : Layout} {d e : Disk} (h : SameFiles l d e) :
    l.tableAt e = l.tableAt d := by
  rw [Layout.tableAt, Layout.tableAt, h.ledger]

theorem listedAt_congr {l : Layout} {d e : Disk} {k : String}
    (h : ∀ p, l.rosterPath k = .ok p → e.read p = d.read p) :
    l.listedAt e k = l.listedAt d k := by
  unfold Layout.listedAt
  cases hp : l.rosterPath k with
  | error f => rfl
  | ok p =>
    simp only
    rw [h p hp]

theorem SameFiles.listedAt {l : Layout} {d e : Disk} (h : SameFiles l d e) {k : String}
    (hk : Registrant.IsKey k) : l.listedAt e k = l.listedAt d k :=
  listedAt_congr fun p hp => h.rosters k p hk hp

/-! ### Writing the files -/

section Writing

variable {l : Layout} (hl : l.Plain) {d e : Disk} {text : List Char}
include hl


/-- In a directory that a path leads to, a write of one file changes no other, and a failed write
changes none. -/
theorem sameFiles_of_failed {name : String} {fault : WriteFault} (hplaced : l.Placed d)
    {text : Option (List Char)} (h : d.store (l.dir.child name) text = (.error fault, e)) :
    SameFiles l d e := by
  obtain ⟨loc, hleads⟩ := hplaced
  have hwrites := Disk.store_child hleads name text
  rw [h] at hwrites
  refine ⟨?_, ?_⟩
  · rw [hl.ledgerPath]
    exact hwrites.failed fault rfl _
  · intro k p hk hp
    rw [(hl.rosterPath hk hp).1]
    exact hwrites.failed fault rfl _

/-- After a write of the ledger it can be read, and the rosters are as before. -/
theorem read_of_savedLedger
    (h : d.replace l.ledgerPath (Text.encodeUtf8 text) = (.ok (), e)) :
    e.read l.ledgerPath = .ok (some (Text.encodeUtf8 text)) ∧
      (l.Placed d → ∀ k p, Registrant.IsKey k → l.rosterPath k = .ok p → e.read p = d.read p) := by
  rw [hl.ledgerPath] at h ⊢
  have hok := Disk.replace_child_ok d l.dir l.ledgerName (Text.encodeUtf8 text)
  rw [h] at hok
  refine ⟨(hok rfl).2, ?_⟩
  rintro ⟨loc, hleads⟩ k p hk hp
  have hwrites := Disk.replace_child hleads l.ledgerName (Text.encodeUtf8 text)
  rw [h] at hwrites
  obtain ⟨rfl, hne⟩ := hl.rosterPath hk hp
  exact hwrites.others _
    (Disk.step_ne_step (Layout.rosterName_ne hk).2.2 hl.ledger_ne.2.2 hne loc)

/-- After a write of a roster it can be read, and the other files are as before. -/
theorem read_of_savedRoster {k : String} {p : Path} (hk : Registrant.IsKey k)
    (hp : l.rosterPath k = .ok p) (hplaced : l.Placed d)
    (h : d.replace p (Text.encodeUtf8 text) = (.ok (), e)) :
    e.read p = .ok (some (Text.encodeUtf8 text)) ∧ e.read l.ledgerPath = d.read l.ledgerPath ∧
      ∀ j q, Registrant.IsKey j → j ≠ k → l.rosterPath j = .ok q → e.read q = d.read q := by
  obtain ⟨rfl, hne⟩ := hl.rosterPath hk hp
  obtain ⟨loc, hleads⟩ := hplaced
  have hok := Disk.replace_child_ok d l.dir (l.rosterName k) (Text.encodeUtf8 text)
  have hwrites := Disk.replace_child hleads (l.rosterName k) (Text.encodeUtf8 text)
  rw [h] at hok hwrites
  have hdots := (Layout.rosterName_ne (l := l) hk).2.2
  refine ⟨(hok rfl).2, ?_, ?_⟩
  · rw [hl.ledgerPath]
    exact hwrites.others _ (Disk.step_ne_step hl.ledger_ne.2.2 hdots hne.symm loc)
  · intro j q hj hjk hq
    rw [(hl.rosterPath hj hq).1]
    exact hwrites.others _ (Disk.step_ne_step (Layout.rosterName_ne hj).2.2 hdots
      (fun heq => hjk (Layout.rosterName_injective heq)) loc)

end Writing

/-! ### What a registry writes -/

namespace Registry

variable {r : Registry} {d e : Disk}

/-- **A ledger that is written** says what the table says. -/
theorem tableAt_of_saved (h : r.Lawful) (hl : r.layout.Plain)
    (hwrite : d.replace r.layout.ledgerPath (Text.encodeUtf8 (Ledger.write r.ledger)) = (.ok (), e)) :
    r.layout.tableAt e = r.entries := by
  have hread := (read_of_savedLedger hl hwrite).1
  have hsettle := Ledger.settle_read_write h.consistent
  have hledger : r.ledger = Ledger.describe r.entries := rfl
  rw [Layout.tableAt, hread]
  simp only [linesOf]
  rw [hledger, hsettle]

/-- There is a text of the ledger if all its numbers can be written. -/
theorem ledgerText_eq_some_iff {s : List Char} : r.ledgerText = some s ↔
    (∀ x ∈ r.ledger, ∀ n ∈ x.numbers, Text.Readable n) ∧ Ledger.write r.ledger = s := by
  rw [ledgerText, Ledger.text_eq_some_iff, List.forall_mem_map]
  rfl

/-- **The ledger of a lawful registry has a text:** the zones are small. -/
theorem ledgerText_of_lawful (h : r.Lawful) : r.ledgerText = some (Ledger.write r.ledger) :=
  ledgerText_eq_some_iff.2 ⟨fun x hx => (h.consistent.storable x hx).readable, rfl⟩

/-- A ledger that has a text has one after counts moved forward, if they are within the sizes. -/
theorem ledgerText_of_advances {s : List Char} (h : r.ledgerText = some s) {number : Nat}
    {later : Holding} (hadv : (r.holding number).Advances later)
    (hused : ∀ s, ((r.holding number).get s).used ≤ ((r.holding number).get s).size) :
    (r.modifyHolding number fun _ => later).ledgerText =
      some (Ledger.write (r.modifyHolding number fun _ => later).ledger) := by
  refine ledgerText_eq_some_iff.2 ⟨fun x hx => ?_, rfl⟩
  obtain ⟨⟨name, holding⟩, hentry, rfl⟩ := List.mem_map.1 hx
  obtain ⟨⟨name, other⟩, hmem, heq⟩ := List.mem_map.1 hentry
  obtain ⟨rfl, rfl⟩ := Prod.mk.inj heq
  have hold : ∀ n ∈ (Ledger.Entry.ofHolding name (r.holding other)).numbers, Text.Readable n :=
    (ledgerText_eq_some_iff.1 h).1 _
      (List.mem_map.2 ⟨(name, r.holding other), List.mem_map.2 ⟨(name, other), hmem, rfl⟩, rfl⟩)
  rcases r.holding_modifyHolding number other fun _ => later with hsame | ⟨rfl, hchanged⟩
  · rw [hsame]
    exact hold
  · rw [hchanged]
    simp only [Ledger.Entry.ofHolding, Ledger.EntryOf.numbers, List.forall_mem_cons,
      List.not_mem_nil, false_implies, implies_true, and_true] at hold ⊢
    obtain ⟨haStart, haSize, hbStart, hbSize, haUsed, hbUsed⟩ := hold
    have ha := hadv .a
    have hb := hadv .b
    exact ⟨ha.start ▸ haStart, ha.size ▸ haSize, hb.start ▸ hbStart, hb.size ▸ hbSize,
      Text.readable_of_between haUsed haSize ha.used_le (ha.within (hused .a)),
      Text.readable_of_between hbUsed hbSize hb.used_le (hb.within (hused .b))⟩

/-- There is a text of a roster if all its numbers can be written. -/
theorem rosterText_eq_some_iff {al : Allocator} {s : List Char} : al.rosterText r = some s ↔
    (∀ n ∈ Roster.numbers (al.bounds r) al.ids, Text.Readable n) ∧ al.roster r = s := by
  rw [Allocator.rosterText, Roster.text_eq_some_iff, Roster.numbers_spelledIds]
  rfl

/-- The ids of an allocator can be written: the zones are small. -/
theorem writable_ids (h : r.Lawful) {al : Allocator} {k : String} (hal : al.Lawful r k)
    (s : Space) : Roster.Writable s (al.ids.get s) := by
  intro x hx
  refine ⟨hal.storable s x hx, Text.readable_of_lt ?_⟩
  have hbounds := (h.fits hal.holding s).bounds
  obtain ⟨hlow, hhigh⟩ := (hal.bound s).within x hx
  simp only [Reservation.window, Window.stop] at hlow hhigh
  have hzone : 0 ≤ s.zone.lower ∧ s.zone.upper < 50000 ∧ 0 ≤ s.zone.displayOffset ∧
      s.zone.displayOffset < 50000 := by cases s <;> decide
  unfold Zone.toDisplay
  omega

theorem oneLine_registrant (h : r.Lawful) {al : Allocator} {k : String} (hal : al.Lawful r k) :
    Text.OneLine al.registrant.toList :=
  hal.registrant_eq ▸ (h.isKey hal.holding).oneLine

/-- A printed roster lists the ids of the allocator, lowest first. -/
theorem listedIn_roster (h : r.Lawful) {al : Allocator} {k : String} (hal : al.Lawful r k)
    (s : Space) : Roster.listedIn (Roster.entries (Roster.read
      (Text.fileLines (Text.encodeUtf8 (al.roster r))))) s = Roster.inOrder (al.ids.get s) :=
  Roster.listedIn_read_write (oneLine_registrant h hal) (al.bounds r) (writable_ids h hal) s

/-- Nothing is wrong with a printed roster. -/
theorem issues_roster (h : r.Lawful) {al : Allocator} {k : String} (hal : al.Lawful r k)
    (source : String) (owner : Option String) : Roster.issues source owner (Roster.read
      (Text.fileLines (Text.encodeUtf8 (al.roster r)))) = [] :=
  Roster.issues_read_write (oneLine_registrant h hal) (al.bounds r) (writable_ids h hal) source owner

/-- **A roster that is written** lists the ids of the allocator, lowest first. -/
theorem listedIn_of_saved (h : r.Lawful) (hl : r.layout.Plain) {al : Allocator} {k : String}
    (hal : al.Lawful r k) (hplaced : r.layout.Placed d)
    (hwrite : d.replace al.path (Text.encodeUtf8 (al.roster r)) = (.ok (), e)) (s : Space) :
    Roster.listedIn (r.layout.listedAt e k) s = Roster.inOrder (al.ids.get s) := by
  have hread := (read_of_savedRoster hl (h.isKey hal.holding) hal.path hplaced hwrite).1
  rw [Layout.listedAt, hal.path]
  simp only [hread, linesOf]
  exact listedIn_roster h hal s

/-- After a write of the ledger, every id whose roster has it is on file. -/
theorem onFile_of_covers (h : r.Lawful) {al : Allocator} {k : String}
    (hal : r.allocator? k = some al) (htable : r.layout.tableAt e = r.entries) {s : Space}
    {name : String} {id : Int} (hmem : (name, id) ∈ al.ids.get s)
    (hlisted : (name, id) ∈ Roster.listedIn (r.layout.listedAt e k) s) :
    r.layout.OnFile e k s name id := by
  have hlawful := h.allocators k al hal
  refine ⟨hlisted, r.holding al.holding, ?_, hlawful.covers s (name, id) hmem⟩
  rw [htable, get?_entries, hlawful.holding]
  rfl

end Registry

end Allotment
