import Allotment.Ledger.Settlement
import Allotment.Proofs.Naming
import Allotment.Proofs.Reservation
import Mathlib.Data.List.Nodup

/-!
# Tables without conflicts

A table gives each registrant a holding. It is consistent if each registrant is there once and
under the key, if each holding fits its spaces, and if no two windows of a space overlap.

* `Ledger.Consistent` — what a table of holdings should be;
* `consistent_settle` — **PROVED**: settling the entries of any file gives a consistent table;
* `settle_describe` — **PROVED**: settling the entries that describe a consistent table gives the
  table and finds nothing.
-/

namespace Allotment

namespace Ledger

/-- A table of holdings without conflicts. -/
structure Consistent (table : List (String × Holding)) : Prop where
  nodup : (Assoc.keys table).Nodup
  isKey : ∀ x ∈ table, Registrant.IsKey x.1
  fits : ∀ x ∈ table, x.2.Fits x.1
  apart : ∀ x ∈ table, ∀ y ∈ table, x.1 ≠ y.1 → x.2.Apart y.2

theorem consistent_nil : Consistent [] := ⟨List.nodup_nil, by simp, by simp, by simp⟩

theorem keys_append (table more : List (String × Holding)) :
    Assoc.keys (table ++ more) = Assoc.keys table ++ Assoc.keys more := by
  simp [Assoc.keys]

/-- A newcomer that fits and overlaps nobody may join a table. -/
theorem Consistent.append {table : List (String × Holding)} (h : Consistent table) {name : String}
    {holding : Holding} (hnew : name ∉ Assoc.keys table) (hkey : Registrant.IsKey name)
    (hfits : holding.Fits name) (hapart : ∀ x ∈ table, holding.Apart x.2) :
    Consistent (table ++ [(name, holding)]) where
  nodup := by
    rw [keys_append]
    refine List.nodup_append'.2 ⟨h.nodup, by simp [Assoc.keys], ?_⟩
    simpa [Assoc.keys] using hnew
  isKey x hx := by
    rcases List.mem_append.1 hx with hx | hx
    · exact h.isKey x hx
    · exact List.mem_singleton.1 hx ▸ hkey
  fits x hx := by
    rcases List.mem_append.1 hx with hx | hx
    · exact h.fits x hx
    · exact List.mem_singleton.1 hx ▸ hfits
  apart x hx y hy hne := by
    rcases List.mem_append.1 hx with hx | hx <;> rcases List.mem_append.1 hy with hy | hy
    · exact h.apart x hx y hy hne
    · exact List.mem_singleton.1 hy ▸ (hapart x hx).symm
    · exact List.mem_singleton.1 hx ▸ hapart y hy
    · exact absurd (by rw [List.mem_singleton.1 hx, List.mem_singleton.1 hy]) hne

/-- **An id belongs to one registrant and one space.** -/
theorem Consistent.eq_of_has {table : List (String × Holding)} (h : Consistent table)
    {x y : String × Holding} (hx : x ∈ table) (hy : y ∈ table) {s t : Space} {id : Int}
    (hid : (x.2.get s).window.Has id) (hid' : (y.2.get t).window.Has id) : x.1 = y.1 ∧ s = t := by
  have hfits := h.fits x hx s
  have hfits' := h.fits y hy t
  obtain rfl := hfits.space_eq_of_has hfits' hid hid'
  refine ⟨?_, rfl⟩
  apply Classical.byContradiction
  intro hne
  have hover := (Window.overlaps_iff hfits.bounds.1 hfits'.bounds.1).2 ⟨id, hid, hid'⟩
  rw [h.apart x hx y hy hne s] at hover
  cases hover

/-! ### Judging an entry -/

/-- An entry as a reader of lines makes it: the name is in normal form, no number is negative. -/
structure Entry.Parsed (e : Entry) : Prop where
  name : ∃ raw, e.registrant = String.ofList (Registrant.normal raw)
  nonneg : ∀ n ∈ e.numbers, 0 ≤ n

theorem any_owner_iff {accepted : List (String × Holding)} {name : String} :
    (accepted.any fun (owner, _) => decide (owner = name)) = true ↔
      name ∈ Assoc.keys accepted := by
  simp [Assoc.keys]

theorem spacesLeft_eq_nil_iff {h : Holding} :
    spacesLeft h = [] ↔ ∀ s, (h.get s).inBounds = true := by
  simp only [spacesLeft, List.filter_eq_nil_iff, Bool.not_eq_true, Bool.not_eq_false']
  exact ⟨fun hall s => hall s (Space.mem_all s), fun hall s _ => hall s⟩

theorem clash?_eq_none_iff {accepted : List (String × Holding)} {h : Holding} :
    clash? accepted h = none ↔
      ∀ x ∈ accepted, ∀ s, (h.get s).overlaps (x.2.get s) = false := by
  simp only [clash?, List.findSome?_eq_none_iff, Option.map_eq_none_iff, List.find?_eq_none,
    Bool.not_eq_true]
  exact ⟨fun hall x hx s => hall x hx s (Space.mem_all s), fun hall x hx s _ => hall x hx s⟩

/-- What it takes to be accepted, and what is accepted then. -/
theorem judge_eq_some_iff {accepted : List (String × Holding)} {e : Entry} {h : Holding} :
    (judge accepted e).2 = some h ↔
      h = e.settled ∧ Registrant.accepts e.registrant = true ∧
      e.registrant ∉ Assoc.keys accepted ∧ (∀ s, (e.holding.get s).inBounds = true) ∧
      ∀ x ∈ accepted, ∀ s, (e.settled.get s).overlaps (x.2.get s) = false := by
  unfold judge
  split
  · rename_i hname
    simp only [Bool.not_eq_true'] at hname
    simp [hname]
  · rename_i hname
    simp only [Bool.not_eq_true', Bool.not_eq_false] at hname
    split
    · rename_i hdup
      rw [any_owner_iff] at hdup
      simp [hdup]
    · rename_i hdup
      rw [any_owner_iff] at hdup
      split
      · rename_i s more hleft
        have hout : ¬∀ s, (e.holding.get s).inBounds = true := by
          rw [← spacesLeft_eq_nil_iff, hleft]
          simp
        simp [hout]
      · rename_i hleft
        rw [spacesLeft_eq_nil_iff] at hleft
        split
        · rename_i owner s hclash
          have hover : ¬∀ x ∈ accepted, ∀ s, (e.settled.get s).overlaps (x.2.get s) = false := by
            rw [← clash?_eq_none_iff, hclash]
            simp
          constructor
          · intro h
            cases h
          · rintro ⟨-, -, -, -, hnone⟩
            exact absurd hnone hover
        · rename_i hclash
          rw [clash?_eq_none_iff] at hclash
          simp only [Option.some.injEq]
          exact ⟨fun heq => ⟨heq.symm, hname, hdup, hleft, hclash⟩, fun hall => hall.1.symm⟩

/-- The settled reservations of an entry are in order if the entry is accepted. -/
theorem Entry.fits_settled {e : Entry} (he : e.Parsed)
    (hbounds : ∀ s, (e.holding.get s).inBounds = true) : e.settled.Fits e.registrant := by
  intro s
  have hused : 0 ≤ (e.holding.get s).used ∧ (e.holding.get s).owner = e.registrant ∧
      (e.holding.get s).space = s := by
    cases s with
    | a => exact ⟨he.nonneg e.aUsed (by simp [EntryOf.numbers]), rfl, rfl⟩
    | b => exact ⟨he.nonneg e.bUsed (by simp [EntryOf.numbers]), rfl, rfl⟩
  obtain ⟨hused, howner, hspace⟩ := hused
  have hsize : 1 ≤ (e.holding.get s).size := ((Zone.contains_iff _).1 (hbounds s)).1
  rw [Entry.settled, Both.get_map]
  refine ⟨howner, hspace, hbounds s, ?_, ?_⟩
  · show 0 ≤ min (e.holding.get s).used (e.holding.get s).size
    omega
  · show min (e.holding.get s).used (e.holding.get s).size ≤ (e.holding.get s).size
    omega

/-- An accepted entry joins a consistent table. -/
theorem Consistent.judge {accepted : List (String × Holding)} (h : Consistent accepted)
    {e : Entry} (he : e.Parsed) {holding : Holding} (hj : (judge accepted e).2 = some holding) :
    Consistent (accepted ++ [(e.registrant, holding)]) := by
  obtain ⟨rfl, hname, hnew, hbounds, hclash⟩ := judge_eq_some_iff.1 hj
  have hfits := e.fits_settled he hbounds
  obtain ⟨raw, hraw⟩ := he.name
  refine h.append hnew ?_ hfits ?_
  · rw [hraw] at hname ⊢
    exact Registrant.isKey_of_accepts hname
  · intro x hx s
    rw [← Reservation.overlaps_of_fits (hfits s) (h.fits x hx s)]
    exact hclash x hx s

/-! ### Settling a file -/

/-- A table with whoever is accepted by a verdict. -/
def join (accepted : List (String × Holding)) (name : String) : Option Holding →
    List (String × Holding)
  | some h => accepted ++ [(name, h)]
  | none => accepted

theorem settleFrom_cons (accepted : List (String × Holding)) (e : Entry) (rest : List Entry) :
    settleFrom accepted (e :: rest) =
      ((settleFrom (join accepted e.registrant (judge accepted e).2) rest).1,
        (judge accepted e).1 ++
          (settleFrom (join accepted e.registrant (judge accepted e).2) rest).2) := by
  rw [settleFrom]
  cases hj : judge accepted e with
  | mk found verdict => cases verdict <;> rfl

theorem consistent_settleFrom {accepted : List (String × Holding)} (h : Consistent accepted)
    {entries : List Entry} (hall : ∀ e ∈ entries, e.Parsed) :
    Consistent (settleFrom accepted entries).1 := by
  induction entries generalizing accepted with
  | nil => exact h
  | cons e rest ih =>
    rw [settleFrom_cons]
    refine ih ?_ fun other hother => hall other (List.mem_cons_of_mem e hother)
    cases hj : (judge accepted e).2 with
    | none => exact h
    | some holding => exact h.judge (hall e List.mem_cons_self) hj

/-- **Settling gives a table without conflicts,** whatever the entries say. -/
theorem consistent_settle {entries : List Entry} (h : ∀ e ∈ entries, e.Parsed) :
    Consistent (settle entries).1 :=
  consistent_settleFrom consistent_nil h

/-! ### Settling what a table says -/

/-- Entries with the numbers of their lines. -/
def numberedFrom {ν : Type} (number : Int) : List (EntryOf ν) → List (EntryOf ν)
  | [] => []
  | e :: rest => { e with lineNo := some number } :: numberedFrom (number + 1) rest

/-- The entries that describe a table. -/
def describe (table : List (String × Holding)) : List Entry :=
  table.map fun (name, h) => Entry.ofHolding name h

theorem holding_ofHolding {name : String} {h : Holding} (hfits : h.Fits name)
    (lineNo : Option Int) :
    Entry.holding { Entry.ofHolding name h with lineNo } = h ∧
      Entry.settled { Entry.ofHolding name h with lineNo } = h := by
  have hholding : Entry.holding { Entry.ofHolding name h with lineNo } = h := by
    have ha := (hfits .a).eta
    have hb := (hfits .b).eta
    obtain ⟨a, b⟩ := h
    exact congrArg₂ Both.mk ha hb
  refine ⟨hholding, ?_⟩
  rw [Entry.settled, hholding]
  apply Both.ext_get
  intro s
  rw [Both.get_map, Reservation.clamped, Int.min_eq_left (hfits s).used_le]

/-- What becomes of an entry whose name is usable and new. -/
theorem judge_of_new {accepted : List (String × Holding)} {e : Entry}
    (hname : Registrant.accepts e.registrant = true) (hnew : e.registrant ∉ Assoc.keys accepted) :
    judge accepted e = match spacesLeft e.holding with
      | s :: more => ([.dropped e (.outOfBounds (s :: more))], none)
      | [] => match clash? accepted e.settled with
        | some (owner, s) => (clamps e ++ [.dropped e (.overlap s owner)], none)
        | none => (clamps e, some e.settled) := by
  have hdup : ¬(accepted.any fun (owner, _) => decide (owner = e.registrant)) = true := by
    rw [any_owner_iff]
    exact hnew
  have hkept : ¬(!Registrant.accepts e.registrant) = true := by simp [hname]
  unfold judge
  exact (if_neg hkept).trans (if_neg hdup)

/-- What becomes of an entry to which there is no objection. -/
theorem judge_of_accepted {accepted : List (String × Holding)} {e : Entry}
    (hname : Registrant.accepts e.registrant = true) (hnew : e.registrant ∉ Assoc.keys accepted)
    (hleft : spacesLeft e.holding = []) (hclash : clash? accepted e.settled = none) :
    judge accepted e = (clamps e, some e.settled) := by
  rw [judge_of_new hname hnew, hleft]
  simp only [hclash]

/-- An entry that describes a newcomer of a consistent table is accepted, and nothing is found. -/
theorem judge_describe {table rest : List (String × Holding)} {name : String} {h : Holding}
    (hc : Consistent (table ++ (name, h) :: rest)) (lineNo : Option Int) :
    judge table { Entry.ofHolding name h with lineNo } = ([], some h) := by
  have hmem : (name, h) ∈ table ++ (name, h) :: rest := by simp
  have hfits : h.Fits name := hc.fits (name, h) hmem
  have hkey : Registrant.IsKey name := hc.isKey (name, h) hmem
  obtain ⟨hholding, hsettled⟩ := holding_ofHolding hfits lineNo
  have hnew : name ∉ Assoc.keys table := by
    have hnodup := hc.nodup
    rw [keys_append] at hnodup
    intro hin
    exact (List.nodup_append'.1 hnodup).2.2 hin (by simp [Assoc.keys])
  have hclash : clash? table h = none := by
    rw [clash?_eq_none_iff]
    intro x hx s
    have hx' : x ∈ table ++ (name, h) :: rest := List.mem_append_left _ hx
    have hne : name ≠ x.1 := fun heq => hnew (heq ▸ List.mem_map_of_mem hx)
    rw [Reservation.overlaps_of_fits (hfits s) (hc.fits x hx' s)]
    exact hc.apart (name, h) hmem x hx' hne s
  have hleft : spacesLeft h = [] := spacesLeft_eq_nil_iff.2 fun s => (hfits s).inBounds
  have hclamps : clamps { Entry.ofHolding name h with lineNo } = [] := by
    unfold clamps
    rw [hholding, List.filterMap_eq_nil_iff]
    intro x hx
    obtain ⟨s, -, rfl⟩ := List.mem_map.1 hx
    have hle := (hfits s).used_le
    simp only
    rw [if_neg (by omega)]
  have hjudge := judge_of_accepted (e := { Entry.ofHolding name h with lineNo }) hkey.accepts hnew
    (by rw [hholding]; exact hleft) (by rw [hsettled]; exact hclash)
  rw [hjudge, hclamps, hsettled]

theorem settleFrom_describe {table rest : List (String × Holding)}
    (hc : Consistent (table ++ rest)) (number : Int) :
    settleFrom table (numberedFrom number (describe rest)) = (table ++ rest, []) := by
  induction rest generalizing table number with
  | nil => simp [describe, numberedFrom, settleFrom]
  | cons x rest ih =>
    obtain ⟨name, h⟩ := x
    have hstep := judge_describe hc (some number)
    have hnext : Consistent ((table ++ [(name, h)]) ++ rest) := by
      rw [List.append_assoc]
      exact hc
    show settleFrom table (_ :: numberedFrom (number + 1) (describe rest)) = _
    rw [settleFrom_cons, hstep]
    show ((settleFrom (table ++ [(name, h)]) _).1, _ ++ (settleFrom (table ++ [(name, h)]) _).2) = _
    rw [ih hnext]
    simp

/-- **Settling what a consistent table says** gives the table and finds nothing. -/
theorem settle_describe {table : List (String × Holding)} (h : Consistent table) (number : Int) :
    settle (numberedFrom number (describe table)) = (table, []) := by
  have hc : Consistent ([] ++ table) := h
  exact settleFrom_describe hc number

end Ledger

end Allotment
