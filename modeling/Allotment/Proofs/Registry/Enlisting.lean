import Allotment.Proofs.Registry.Isolation
import Allotment.Proofs.Roster.Admitting

/-!
# An allocator is made from a roster

When an allocator is made, its registrant's roster is read, the entries are admitted to the holding,
and if a count has moved the ledger is saved. All this is told here in terms of the roster's entries and
of the registry as it was.

* `Desk.Enlists` — what an allocator is that was made, and what is left behind;
* `enlists_of_admitted` — **PROVED**: this follows from the admission and the outcome of the write;
* `exists_enlists` — **PROVED**: wherever the roster can be read and the ledger can be written as it is,
  the allocator is made, and it is so;
* `enlists_crossed` — a roster in which an entry is in the way of the next but one.
-/

namespace Allotment

open FirstCome
open Disk (touches_replace result_replace)

namespace Registry

/-- Putting a holding where it is changes nothing. -/
theorem modifyHolding_holding (r : Registry) (number : Nat) :
    (r.modifyHolding number fun _ => r.holding number) = r := by
  have hsame : r.holdings.modify number (fun _ => r.holding number) = r.holdings := by
    apply List.ext_getElem?
    intro i
    rw [List.getElem?_modify]
    by_cases hi : number = i
    · subst hi
      cases hget : r.holdings[number]? with
      | none => rfl
      | some h => simp [holding, List.getD_eq_getElem?_getD, hget]
    · simp [hi]
  rw [modifyHolding, hsame]

end Registry

namespace Desk

/-- What an allocator is that was made from a roster, and what is left behind. The roster's entries
are the only thing that it is made of, and `kept` says which of them are. -/
structure Enlists (d : Desk) (registrant : String) (number : Nat) (path : Path)
    (bytes : Option (List UInt8)) (kept : Nat → Bool) (al : Allocator) (e : Desk) : Prop where
  /-- An entry is kept just if its id is in the window of its space, and no entry that was kept before
  in that space has its name or its id. -/
  rule : Serves (Roster.Entry.Sits (d.registry.holding number)) Roster.Entry.Repeats
    (Roster.entries (Roster.read (linesOf bytes))) kept
  /-- Nothing else could be kept by this rule. -/
  only : ∀ other, Serves (Roster.Entry.Sits (d.registry.holding number)) Roster.Entry.Repeats
    (Roster.entries (Roster.read (linesOf bytes))) other →
    ∀ i < (Roster.entries (Roster.read (linesOf bytes))).length, kept i = other i
  /-- The allocator is the registrant's, and has the holding that it was made for. -/
  named : al.registrant = registrant ∧ al.holding = number ∧ al.path = path
  /-- Its ids are those of the entries that are kept. -/
  ids : ∀ s, al.ids.get s =
    Roster.listedIn (pick kept (Roster.entries (Roster.read (linesOf bytes)))) s
  /-- Its report has the issues of the reader, and one for each entry that is not kept. -/
  report : al.report =
    { source := path.text
      issues := Roster.issues path.text (some registrant) (Roster.read (linesOf bytes)) ++
        (pick (fun i => !kept i) (Roster.entries (Roster.read (linesOf bytes)))).map fun entry =>
          (Roster.discarded (d.registry.holding number) entry).issue path.text registrant }
  /-- Of the holding only the counts change. -/
  same : ∀ s, (e.registry.holding number).get s =
    { (d.registry.holding number).get s with used := ((e.registry.holding number).get s).used }
  /-- A count is the old one, or covers the highest id that is kept, whichever is more. -/
  used : ∀ s, IsGreatest (insert ((d.registry.holding number).get s).used
      {n | ∃ x ∈ al.ids.get s, n = x.2 - ((d.registry.holding number).get s).start + 1})
    ((e.registry.holding number).get s).used
  /-- It never exceeds the size. -/
  within : ∀ s, ((e.registry.holding number).get s).used ≤
    ((d.registry.holding number).get s).size
  /-- Nothing else of the registry changes. -/
  others : e.registry = d.registry.modifyHolding number fun _ => e.registry.holding number
  /-- If no count changed, nothing is written. -/
  stayed : (∀ s, ((e.registry.holding number).get s).used =
    ((d.registry.holding number).get s).used) → e.disk = d.disk
  /-- If a count changed, the ledger is written, and nothing else. -/
  moved : (∃ s, ((e.registry.holding number).get s).used ≠
    ((d.registry.holding number).get s).used) →
    d.disk.replace d.registry.layout.ledgerPath
      (Text.encodeUtf8 (Ledger.write e.registry.ledger)) = (.ok (), e.disk)
  /-- The ledger is not the roster. -/
  apart : path ≠ d.registry.layout.ledgerPath
  /-- Nor is it at the same place, if the names of the files have no slashes; so whatever file is where
  the roster should be, it is as it was. -/
  untouched : '/' ∉ d.registry.layout.ledgerName.toList →
    '/' ∉ d.registry.layout.rosterSuffix.toList → Registrant.IsKey registrant →
    ∀ loc, e.disk.locate path = .ok loc → ∀ file,
      e.disk.node? loc = some (.file file) ↔ d.disk.node? loc = some (.file file)

section Enlists

variable {d : Desk} {registrant : String} {number : Nat} {path : Path}
  {bytes : Option (List UInt8)} {kept : Nat → Bool}

/-- **What was admitted makes the allocator,** and the outcome of the write is all that was written. -/
theorem enlists_of_admitted (hlt : number < d.registry.holdings.length)
    (hpath : d.registry.layout.rosterPath registrant = .ok path)
    (hused : ∀ s, ((d.registry.holding number).get s).used ≤
      ((d.registry.holding number).get s).size)
    (hkept : Serves (Roster.Entry.Sits (d.registry.holding number)) Roster.Entry.Repeats
      (Roster.entries (Roster.read (linesOf bytes))) kept) {e : Desk}
    (hregistry : e.registry = d.registry.modifyHolding number fun _ =>
      (d.admission number bytes).holding)
    (hstayed : (d.admission number bytes).holding = d.registry.holding number → e.disk = d.disk)
    (hmoved : (d.admission number bytes).holding ≠ d.registry.holding number →
      d.disk.replace d.registry.layout.ledgerPath
        (Text.encodeUtf8 (Ledger.write e.registry.ledger)) = (.ok (), e.disk)) :
    Enlists d registrant number path bytes kept (d.made registrant number path bytes) e := by
  have hadmits := Roster.admits_receive (d.registry.holding number) hkept
  have hholding : e.registry.holding number = (d.admission number bytes).holding := by
    rw [hregistry]
    exact Registry.holding_modifyHolding_self hlt _
  have hadv := Roster.advances_receive (d.registry.holding number)
    (Roster.entries (Roster.read (linesOf bytes)))
  have hsame : ∀ s, (e.registry.holding number).get s =
      { (d.registry.holding number).get s with
        used := ((e.registry.holding number).get s).used } := by
    rw [hholding]
    exact hadmits.same
  -- the counts are all that can tell the new holding from the old one
  have hcounts : (∀ s, ((e.registry.holding number).get s).used =
      ((d.registry.holding number).get s).used) →
      (d.admission number bytes).holding = d.registry.holding number := by
    intro hall
    rw [← hholding]
    apply Both.ext_get
    intro s
    rw [hsame s, hall s]
  have hchanged : ∀ loc file, ¬(e.disk.node? loc = some (.file file) ↔
      d.disk.node? loc = some (.file file)) →
      e.disk.locate d.registry.layout.ledgerPath = .ok loc := by
    intro loc file hne
    by_cases hstay : (d.admission number bytes).holding = d.registry.holding number
    · rw [hstayed hstay] at hne
      exact absurd Iff.rfl hne
    · have htouch := touches_replace d.disk d.registry.layout.ledgerPath
        (Text.encodeUtf8 (Ledger.write e.registry.ledger))
      rw [hmoved hstay] at htouch
      obtain ⟨p, hp, hloc⟩ := htouch.of_changed hne
      rwa [List.mem_singleton.1 hp] at hloc
  refine
    { rule := hkept
      only := fun other hother => hkept.unique hother
      named := ⟨rfl, rfl, rfl⟩
      ids := hadmits.ids
      report := ?_
      same := hsame
      used := by rw [hholding]; exact hadmits.used
      within := ?_
      others := by rw [hholding]; exact hregistry
      stayed := fun hall => hstayed (hcounts hall)
      moved := ?_
      apart := Layout.rosterPath_ne_ledgerPath hpath
      untouched := ?_ }
  · rw [made, admission, hadmits.findings, List.map_map]
    rfl
  · intro s
    rw [hholding]
    exact (hadv s).within (hused s)
  · rintro ⟨s, hne⟩
    refine hmoved fun hstay => hne ?_
    rw [hholding, hstay]
  · intro hledger hsuffix hkey loc hloc file
    apply Classical.byContradiction
    intro hne
    exact Layout.locate_ledgerPath_ne hledger hsuffix hkey hpath hloc (hchanged loc file hne)

end Enlists

/-- **Making an allocator from a roster.** Wherever the roster can be read and the ledger can be
written as it is, a registry that is not closed makes the allocator of a registrant with any holding
whose counts are within the sizes, and nothing but the entries of the roster decides what it is. -/
theorem exists_enlists {d : Desk} (hclosed : d.registry.closed = false) {registrant : String}
    {number : Nat} (hlt : number < d.registry.holdings.length) {path : Path}
    (hpath : d.registry.layout.rosterPath registrant = .ok path)
    {bytes : Option (List UInt8)} (hread : d.disk.read path = .ok bytes)
    (hused : ∀ s, ((d.registry.holding number).get s).used ≤
      ((d.registry.holding number).get s).size)
    (hwrite : (d.disk.store d.registry.layout.ledgerPath d.registry.ledgerText).1 = .ok ()) :
    ∃ al e kept, loadAllocator registrant number d = .ok al e ∧
      Enlists d registrant number path bytes kept al e := by
  obtain ⟨kept, hkept⟩ := exists_serves (Roster.Entry.Sits (d.registry.holding number))
    Roster.Entry.Repeats (Roster.entries (Roster.read (linesOf bytes)))
  obtain ⟨s, htext, hstored⟩ := Disk.store_ok (Prod.ext hwrite rfl)
  rw [Text.spelled_char] at htext
  have hempty : (d.disk.replace d.registry.layout.ledgerPath []).1 = .ok () := by
    rw [result_replace d.disk _ [] (Text.encodeUtf8 s), hstored]
  have hends : Ends d (loadAllocator registrant number)
      (fun al e => Enlists d registrant number path bytes kept al e) fun _ _ => False := by
    refine ends_loadAllocator hclosed hpath hread ?_ ?_
    · intro hsame notices
      refine enlists_of_admitted hlt hpath hused hkept ?_ (fun _ => rfl) (absurd hsame)
      rw [hsame]
      exact (d.registry.modifyHolding_holding number).symm
    · intro hmoved notices
      refine ends_saveLedger_of_writable (d := ⟨d.registry.modifyHolding number fun _ =>
        (d.admission number bytes).holding, d.disk, notices⟩)
        (Registry.ledgerText_of_advances htext (Roster.advances_receive _ _) hused) hempty ?_
      intro disk hsaved
      exact enlists_of_admitted hlt hpath hused hkept rfl (fun hsame => absurd hsame hmoved)
        fun _ => hsaved
  obtain ⟨al, e, hact, henlists⟩ := hends.exists_ok
  exact ⟨al, e, kept, hact, henlists⟩

/-- A registry with a holding of `alpha`, whose roster was edited by hand. -/
def crossed : Desk :=
  history {} 2 { nodes := [(["tmp", "work", "config"], .dir),
    (["tmp", "work", "config", "id"], .dir),
    (["tmp", "work", "config", "id", "alpha.cfg"], .file (Text.encodeUtf8 (Text.unlines
      (["[space_a]", "first=2860", "first=2857", "second=2857", "third=7", "fourth=x"].map
        String.toList))))] }
    [.asked (.getOrCreate (.text "alpha") .null .null)]

/-- The second entry has the name of the first and is discarded, so the third may have its id. -/
theorem enlists_crossed : ∃ path bytes, crossed.registry.closed = false ∧
    0 < crossed.registry.holdings.length ∧
    crossed.registry.layout.rosterPath "alpha" = .ok path ∧
    crossed.disk.read path = .ok bytes ∧
    (∀ s, ((crossed.registry.holding 0).get s).used ≤ ((crossed.registry.holding 0).get s).size) ∧
    (crossed.disk.store crossed.registry.layout.ledgerPath crossed.registry.ledgerText).1 = .ok () ∧
    ∃ al e kept, loadAllocator "alpha" 0 crossed = .ok al e ∧
      Enlists crossed "alpha" 0 path bytes kept al e ∧
      al.ids.a = [("first", 2860), ("second", 2857)] ∧ al.report.issues.length = 3 ∧
      (crossed.registry.holding 0).a.used = 0 ∧ (e.registry.holding 0).a.used = 5 := by
  have hclosed : crossed.registry.closed = false := by decide +kernel
  have hlt : 0 < crossed.registry.holdings.length := by decide +kernel
  have hpath : crossed.registry.layout.rosterPath "alpha" =
      .ok ⟨.here, ["config", "id", "alpha.cfg"]⟩ := by decide +kernel
  have hread : (crossed.disk.read ⟨.here, ["config", "id", "alpha.cfg"]⟩).toOption.isSome = true := by
    decide +kernel
  have hused : ∀ s, ((crossed.registry.holding 0).get s).used ≤
      ((crossed.registry.holding 0).get s).size := by
    intro s
    cases s <;> decide +kernel
  have hwrite : (crossed.disk.store crossed.registry.layout.ledgerPath
      crossed.registry.ledgerText).1 = .ok () := by
    decide +kernel
  have hreturns : crossed.returns (loadAllocator "alpha" 0) (fun al e =>
      decide (al.ids.a = [("first", 2860), ("second", 2857)] ∧ al.report.issues.length = 3 ∧
        (e.registry.holding 0).a.used = 5)) = true := by
    decide +kernel
  have hbefore : (crossed.registry.holding 0).a.used = 0 := by decide +kernel
  generalize crossed = d at *
  cases hbytes : d.disk.read ⟨.here, ["config", "id", "alpha.cfg"]⟩ with
  | error f =>
    rw [hbytes] at hread
    cases hread
  | ok bytes =>
    obtain ⟨al, e, kept, hact, henlists⟩ := exists_enlists hclosed hlt hpath hbytes hused hwrite
    rw [returns, hact] at hreturns
    obtain ⟨hids, hissues, hafter⟩ := of_decide_eq_true hreturns
    exact ⟨_, bytes, hclosed, hlt, hpath, hbytes, hused, hwrite, al, e, kept, hact, henlists, hids,
      hissues, hbefore, hafter⟩

end Desk

end Allotment
