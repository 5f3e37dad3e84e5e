import Allotment.Proofs.Ledger.Table
import Allotment.Proofs.Roster.Receiving
import Allotment.Registry.Basic

/-!
# What is true of every registry

* `Registry.Lawful` — the table is without conflicts, every holding in it was issued, every
  allocator has the holding of its registrant, and the ids of an allocator are covered by the counts;
* `Lawful.isSound` — **PROVED**: so the check of a registrant's holding always succeeds;
* `Lawful.adopt`, `Lawful.issue`, `Lawful.advance`, `Lawful.enlist`, `Lawful.grant` — **PROVED**: each
  change of a registry keeps this.
-/

namespace Allotment

open Ledger (Consistent)

namespace Assoc

variable {α : Type}

theorem mem_of_get? {key : String} {table : List (String × α)} {value : α}
    (h : get? key table = some value) : (key, value) ∈ table := by
  induction table with
  | nil => simp [get?] at h
  | cons entry rest ih =>
    obtain ⟨k, v⟩ := entry
    rw [get?] at h
    split at h
    · rename_i hk
      rw [hk, Option.some.inj h]
      exact List.mem_cons_self
    · exact List.mem_cons_of_mem _ (ih h)

theorem get?_of_mem {key : String} {table : List (String × α)} {value : α}
    (hn : (keys table).Nodup) (h : (key, value) ∈ table) : get? key table = some value := by
  induction table with
  | nil => simp at h
  | cons entry rest ih =>
    obtain ⟨k, v⟩ := entry
    rw [keys_cons, List.nodup_cons] at hn
    rw [get?]
    rcases List.mem_cons.1 h with heq | hrest
    · rw [Prod.mk.injEq] at heq
      rw [if_pos heq.1.symm, heq.2]
    · have hne : k ≠ key := by
        rintro rfl
        exact hn.1 (List.mem_map.2 ⟨(k, value), hrest, rfl⟩)
      rw [if_neg hne]
      exact ih hn.2 hrest

/-- The order of the entries does not matter to what a key stands for. -/
theorem get?_of_perm {table other : List (String × α)} (hn : (keys table).Nodup)
    (hperm : other.Perm table) (key : String) : get? key other = get? key table := by
  have hn' : (keys other).Nodup := (hperm.map Prod.fst).nodup_iff.2 hn
  ext value
  constructor
  · exact fun hget => get?_of_mem hn (hperm.mem_iff.1 (mem_of_get? hget))
  · exact fun hget => get?_of_mem hn' (hperm.mem_iff.2 (mem_of_get? hget))

theorem get?_map {β : Type} (key : String) (f : α → β) (table : List (String × α)) :
    get? key (table.map fun (k, v) => (k, f v)) = (get? key table).map f := by
  induction table with
  | nil => rfl
  | cons entry rest ih =>
    obtain ⟨k, v⟩ := entry
    rw [List.map_cons, get?, get?, ih]
    split <;> rfl

end Assoc

/-! ### Lawful registries -/

/-- The allocator of a registrant is as it should be. -/
structure Allocator.Lawful (al : Allocator) (r : Registry) (registrant : String) : Prop where
  registrant_eq : al.registrant = registrant
  holding : Assoc.get? registrant r.table = some al.holding
  path : r.layout.rosterPath registrant = .ok al.path
  bound : ∀ s, Roster.Bound ((r.holding al.holding).get s).window (al.ids.get s)
  covers : ∀ s, ∀ x ∈ al.ids.get s, ((r.holding al.holding).get s).Covers x.2
  storable : ∀ s, ∀ x ∈ al.ids.get s, IdName.Storable x.1

/-- No name has the next id yet: it is not covered by the count. -/
theorem Allocator.Lawful.ne_nextId {al : Allocator} {r : Registry} {registrant : String}
    (h : al.Lawful r registrant) {s : Space} {x : String × Int} (hx : x ∈ al.ids.get s) :
    x.2 ≠ ((r.holding al.holding).get s).nextId := by
  intro hid
  have hcovers := h.covers s x hx
  rw [hid] at hcovers
  exact Reservation.not_covers_nextId _ hcovers

/-- What is true of every registry, whatever its files say and whatever has been asked of it. -/
structure Registry.Lawful (r : Registry) : Prop where
  consistent : Consistent r.entries
  issued : ∀ x ∈ r.table, x.2 < r.holdings.length
  allocators : ∀ registrant al, r.allocator? registrant = some al → al.Lawful r registrant
  unopened : r.opened = false → r.table = [] ∧ r.allocators = []

namespace Registry

/-- A registry that was just made is lawful. -/
theorem lawful_fresh (layout : Layout) (passes : Int) : ({ layout, passes } : Registry).Lawful where
  consistent := Ledger.consistent_nil
  issued := by simp
  allocators := by simp [allocator?, Assoc.get?]
  unopened _ := ⟨rfl, rfl⟩

theorem keys_entries (r : Registry) : Assoc.keys r.entries = Assoc.keys r.table := by
  simp [Assoc.keys, entries]

/-- The table by value answers as the table by number does. -/
theorem get?_entries (r : Registry) (registrant : String) :
    Assoc.get? registrant r.entries = (Assoc.get? registrant r.table).map r.holding :=
  Assoc.get?_map registrant r.holding r.table

theorem mem_entries {r : Registry} {registrant : String} {number : Nat}
    (hget : Assoc.get? registrant r.table = some number) :
    (registrant, r.holding number) ∈ r.entries := by
  apply Assoc.mem_of_get?
  rw [get?_entries, hget]
  rfl

namespace Lawful

variable {r : Registry} (h : r.Lawful)
include h

theorem fits {registrant : String} {number : Nat}
    (hget : Assoc.get? registrant r.table = some number) : (r.holding number).Fits registrant :=
  h.consistent.fits (registrant, r.holding number) (mem_entries hget)

theorem isKey {registrant : String} {number : Nat}
    (hget : Assoc.get? registrant r.table = some number) : Registrant.IsKey registrant :=
  h.consistent.isKey (registrant, r.holding number) (mem_entries hget)

theorem lt_of_get? {registrant : String} {number : Nat}
    (hget : Assoc.get? registrant r.table = some number) : number < r.holdings.length :=
  h.issued (registrant, number) (Assoc.mem_of_get? hget)

theorem nodup : (Assoc.keys r.table).Nodup := by
  rw [← keys_entries]
  exact h.consistent.nodup

/-- Only an open registry has anybody in its table. -/
theorem opened_of_get? {registrant : String} {number : Nat}
    (hget : Assoc.get? registrant r.table = some number) : r.opened = true := by
  cases hopen : r.opened with
  | true => rfl
  | false =>
    rw [(h.unopened hopen).1] at hget
    cases hget

/-- So only an open registry has an allocator. -/
theorem opened_of_allocator? {registrant : String} {al : Allocator}
    (hal : r.allocator? registrant = some al) : r.opened = true :=
  h.opened_of_get? (h.allocators registrant al hal).holding

/-- **The check of a holding in the table always succeeds.** -/
theorem isSound {registrant : String} {number : Nat}
    (hget : Assoc.get? registrant r.table = some number) :
    r.isSound registrant (r.holding number) = true := by
  have hmem := mem_entries hget
  have hfits := h.fits hget
  rw [Registry.isSound, List.all_eq_true]
  intro s _
  rw [Bool.and_eq_true, List.all_eq_true]
  refine ⟨(hfits s).inBounds, ?_⟩
  intro x hx
  obtain ⟨hx, hne⟩ := List.mem_filter.1 hx
  have hne : registrant ≠ x.1 := fun heq => absurd heq.symm (of_decide_eq_true hne)
  have hover := Reservation.overlaps_of_fits (hfits s) (h.consistent.fits x hx s)
  have hapart := h.consistent.apart (registrant, r.holding number) hmem x hx hne s
  simp only [hover, hapart, Bool.not_false]

end Lawful

/-! ### Changes of the table -/

/-- Taking over a settled table gives that table. -/
theorem entries_adopt (r : Registry) (settled : List (String × Holding)) :
    (r.adopt settled).entries = settled := by
  have hzip : ∀ (rest before : List (String × Holding)) (old : List Holding),
      settled = before ++ rest →
      (((rest.map Prod.fst).zipIdx (old.length + before.length)).map fun x =>
        (x.1, (old ++ settled.map Prod.snd).getD x.2 Holding.vacant)) = rest := by
    intro rest
    induction rest with
    | nil => intros; rfl
    | cons x rest ih =>
      intro before old hsettled
      obtain ⟨name, holding⟩ := x
      have hrest := ih (before ++ [(name, holding)]) old (by simp [hsettled])
      have hvalue : (old ++ settled.map Prod.snd).getD (old.length + before.length)
          Holding.vacant = holding := by
        rw [hsettled]
        simp [List.getD]
      rw [List.length_append, List.length_singleton, ← Nat.add_assoc] at hrest
      rw [List.map_cons, List.zipIdx_cons, List.map_cons, hrest]
      show (name, (old ++ settled.map Prod.snd).getD (old.length + before.length) _) :: rest = _
      rw [hvalue]
  exact hzip settled [] r.holdings rfl

theorem Lawful.adopt {r : Registry} (h : r.Lawful) (hopen : r.opened = false)
    {settled : List (String × Holding)} (hs : Consistent settled) (report : Report) :
    ({ r.adopt settled with report, opened := true } : Registry).Lawful where
  consistent := by
    have hentries := r.entries_adopt settled
    show Consistent (r.adopt settled).entries
    rwa [hentries]
  issued x hx := by
    have hlt := (List.mem_zipIdx hx).2.1
    show x.2 < (r.holdings ++ settled.map Prod.snd).length
    simpa using hlt
  allocators registrant al hal := by
    have hnone := (h.unopened hopen).2
    have hal : Assoc.get? registrant r.allocators = some al := hal
    rw [hnone] at hal
    cases hal
  unopened hclosed := by cases hclosed

/-- A holding that was issued stays when another is added. -/
theorem holding_append {r : Registry} {more : List Holding} {number : Nat}
    (hlt : number < r.holdings.length) (table : List (String × Nat)) :
    ({ r with holdings := r.holdings ++ more, table } : Registry).holding number =
      r.holding number := by
  simp [holding, List.getD, List.getElem?_append_left hlt]

/-- The new holding itself. -/
theorem holding_issue_self (r : Registry) (registrant : String) (holding : Holding) :
    (r.issue registrant holding).holding r.holdings.length = holding := by
  simp [issue, Registry.holding, List.getD]

/-- The table after a new holding is issued. -/
theorem entries_issue {r : Registry} (hissued : ∀ x ∈ r.table, x.2 < r.holdings.length)
    {registrant : String} (hnew : Assoc.get? registrant r.table = none) (holding : Holding) :
    (r.issue registrant holding).entries = r.entries ++ [(registrant, holding)] := by
  have hput := Assoc.put_of_not_mem (Assoc.get?_eq_none_iff.1 hnew) r.holdings.length
  have hold : ∀ x ∈ r.table, (r.issue registrant holding).holding x.2 = r.holding x.2 :=
    fun x hx => holding_append (hissued x hx) _
  have htable : (r.issue registrant holding).table = r.table ++ [(registrant, r.holdings.length)] :=
    hput
  have hmap : (r.table.map fun x => (x.1, (r.issue registrant holding).holding x.2)) =
      r.entries := by
    apply List.map_congr_left
    intro x hx
    show (x.1, (r.issue registrant holding).holding x.2) = (x.1, r.holding x.2)
    rw [hold x hx]
  show ((r.issue registrant holding).table.map fun x =>
    (x.1, (r.issue registrant holding).holding x.2)) = _
  rw [htable, List.map_append, hmap]
  show r.entries ++ [(registrant, (r.issue registrant holding).holding r.holdings.length)] = _
  rw [holding_issue_self]

theorem get?_issue_of_some {r : Registry} {registrant other : String} {number : Nat}
    (hnew : Assoc.get? registrant r.table = none)
    (hother : Assoc.get? other r.table = some number) (holding : Holding) :
    Assoc.get? other (r.issue registrant holding).table = some number := by
  have hne : other ≠ registrant := by
    rintro rfl
    rw [hnew] at hother
    cases hother
  rw [issue, Assoc.get?_put_of_ne hne, hother]

/-- A new registrant may have a holding that fits and overlaps nobody's. -/
theorem Lawful.issue {r : Registry} (h : r.Lawful) (hopen : r.opened = true) {registrant : String}
    (hnew : Assoc.get? registrant r.table = none) (hkey : Registrant.IsKey registrant)
    {holding : Holding} (hfits : holding.Fits registrant)
    (hapart : ∀ x ∈ r.entries, holding.Apart x.2) : (r.issue registrant holding).Lawful where
  consistent := by
    rw [entries_issue h.issued hnew]
    refine h.consistent.append ?_ hkey hfits hapart
    rw [keys_entries]
    exact Assoc.get?_eq_none_iff.1 hnew
  issued x hx := by
    have hx : x ∈ Assoc.put registrant r.holdings.length r.table := hx
    have hlength : (r.issue registrant holding).holdings.length = r.holdings.length + 1 := by
      simp [Registry.issue]
    rw [Assoc.put_of_not_mem (Assoc.get?_eq_none_iff.1 hnew)] at hx
    rcases List.mem_append.1 hx with hx | hx
    · have := h.issued x hx
      omega
    · rw [List.mem_singleton.1 hx]
      omega
  allocators other al hal := by
    have hlawful := h.allocators other al hal
    have hsame : (r.issue registrant holding).holding al.holding = r.holding al.holding :=
      holding_append (h.lt_of_get? hlawful.holding) _
    exact ⟨hlawful.registrant_eq, get?_issue_of_some hnew hlawful.holding holding, hlawful.path,
      by rw [hsame]; exact hlawful.bound, by rw [hsame]; exact hlawful.covers, hlawful.storable⟩
  unopened hclosed := by
    have hclosed : r.opened = false := hclosed
    rw [hopen] at hclosed
    cases hclosed

/-! ### Changes of holdings -/

theorem holding_modifyHolding (r : Registry) (number other : Nat) (f : Holding → Holding) :
    (r.modifyHolding number f).holding other = r.holding other ∨
      other = number ∧ (r.modifyHolding number f).holding other = f (r.holding number) := by
  unfold modifyHolding holding List.getD
  simp only [List.getElem?_modify]
  by_cases hsame : number = other
  · subst hsame
    cases hget : r.holdings[number]? with
    | none => exact Or.inl (by simp)
    | some old => exact Or.inr ⟨rfl, by simp⟩
  · exact Or.inl (by simp [hsame])

/-- The changed holding itself. -/
theorem holding_modifyHolding_self {r : Registry} {number : Nat}
    (hlt : number < r.holdings.length) (f : Holding → Holding) :
    (r.modifyHolding number f).holding number = f (r.holding number) := by
  simp [modifyHolding, holding, List.getD, List.getElem?_eq_getElem hlt]

section Advance

variable {r : Registry} {number : Nat} {f : Holding → Holding}

theorem advances_modifyHolding (hf : (r.holding number).Advances (f (r.holding number)))
    (other : Nat) : (r.holding other).Advances ((r.modifyHolding number f).holding other) := by
  rcases r.holding_modifyHolding number other f with hsame | ⟨rfl, hchanged⟩
  · rw [hsame]
    exact Holding.Advances.refl _
  · rw [hchanged]
    exact hf

/-- Moving counts forward keeps a table without conflicts. -/
theorem consistent_modifyHolding (h : Consistent r.entries)
    (hf : (r.holding number).Advances (f (r.holding number))) :
    Consistent (r.modifyHolding number f).entries := by
  have hback : ∀ x ∈ (r.modifyHolding number f).entries,
      ∃ y ∈ r.entries, y.1 = x.1 ∧ y.2.Advances x.2 := by
    intro x hx
    obtain ⟨⟨name, other⟩, hmem, rfl⟩ := List.mem_map.1 hx
    exact ⟨(name, r.holding other), List.mem_map.2 ⟨(name, other), hmem, rfl⟩, rfl,
      advances_modifyHolding hf other⟩
  refine ⟨?_, ?_, ?_, ?_⟩
  · rw [keys_entries]
    have hnodup := h.nodup
    rwa [keys_entries] at hnodup
  · intro x hx
    obtain ⟨y, hy, hname, -⟩ := hback x hx
    exact hname ▸ h.isKey y hy
  · intro x hx
    obtain ⟨y, hy, hname, hadv⟩ := hback x hx
    exact hname ▸ (h.fits y hy).advances hadv
  · intro x hx z hz hne
    obtain ⟨y, hy, hname, hadv⟩ := hback x hx
    obtain ⟨w, hw, hname', hadv'⟩ := hback z hz
    have hapart := h.apart y hy w hw (by rw [hname, hname']; exact hne)
    exact ((hapart.advances hadv).symm.advances hadv').symm

/-- An allocator stays as it should be when counts move forward. -/
theorem allocatorLawful_modifyHolding {al : Allocator} {registrant : String}
    (h : al.Lawful r registrant) (hf : (r.holding number).Advances (f (r.holding number))) :
    al.Lawful (r.modifyHolding number f) registrant where
  registrant_eq := h.registrant_eq
  holding := h.holding
  path := h.path
  bound s := by
    rw [(advances_modifyHolding hf al.holding s).window]
    exact h.bound s
  covers s x hx := (h.covers s x hx).advances (advances_modifyHolding hf al.holding s)
  storable := h.storable

/-- Moving counts forward keeps a registry lawful. -/
theorem Lawful.advance (h : r.Lawful)
    (hf : (r.holding number).Advances (f (r.holding number))) :
    (r.modifyHolding number f).Lawful where
  consistent := consistent_modifyHolding h.consistent hf
  issued x hx := by
    have hlength : (r.modifyHolding number f).holdings.length = r.holdings.length := by
      simp [modifyHolding]
    rw [hlength]
    exact h.issued x hx
  allocators registrant al hal := allocatorLawful_modifyHolding (h.allocators registrant al hal) hf
  unopened := h.unopened

end Advance

/-! ### Changes of allocators -/

/-- The allocator that is taken in is the registrant's. -/
theorem allocator?_setAllocator_self (r : Registry) (al : Allocator) :
    (r.setAllocator al).allocator? al.registrant = some al := Assoc.get?_put_self _ _ _

theorem allocator?_setAllocator_of_ne (r : Registry) (al : Allocator) {other : String}
    (hne : other ≠ al.registrant) : (r.setAllocator al).allocator? other = r.allocator? other :=
  Assoc.get?_put_of_ne hne _ _

/-- An allocator that is as it should be may be taken in, or take the place of one. -/
theorem Lawful.enlist {r : Registry} (h : r.Lawful) {al : Allocator}
    (hal : al.Lawful r al.registrant) : (r.setAllocator al).Lawful where
  consistent := h.consistent
  issued := h.issued
  allocators registrant other hother := by
    by_cases hsame : registrant = al.registrant
    · subst hsame
      obtain rfl : al = other :=
        Option.some.inj ((r.allocator?_setAllocator_self al).symm.trans hother)
      exact ⟨hal.registrant_eq, hal.holding, hal.path, hal.bound, hal.covers, hal.storable⟩
    · rw [allocator?_setAllocator_of_ne r al hsame] at hother
      have hlawful := h.allocators registrant other hother
      exact ⟨hlawful.registrant_eq, hlawful.holding, hlawful.path, hlawful.bound, hlawful.covers,
        hlawful.storable⟩
  unopened hclosed := by
    have hnone := (h.unopened hclosed).1
    have hholding := hal.holding
    rw [hnone] at hholding
    cases hholding

section Grant

/-- An allocator after the next id of a space is bound to a name. -/
def grantee (r : Registry) (al : Allocator) (space : Space) (name : String) : Allocator :=
  { al with
    ids := al.ids.modify space (Assoc.put name ((r.holding al.holding).get space).nextId) }

/-- The registry after the next id of a space is handed out under a name. -/
def granted (r : Registry) (al : Allocator) (space : Space) (name : String) : Registry :=
  (r.modifyHolding al.holding fun h => h.modify space Reservation.bump).setAllocator
    (r.grantee al space name)

variable {r : Registry} {al : Allocator} {registrant : String} {space : Space} {name : String}

/-- A new name is listed behind the others. -/
theorem grantee_ids_self (hnew : Assoc.get? name (al.ids.get space) = none) :
    (r.grantee al space name).ids.get space =
      al.ids.get space ++ [(name, ((r.holding al.holding).get space).nextId)] := by
  rw [grantee, Both.get_modify_self]
  exact Assoc.put_of_not_mem (Assoc.get?_eq_none_iff.1 hnew) _

theorem grantee_ids_of_ne {s : Space} (hs : s ≠ space) :
    (r.grantee al space name).ids.get s = al.ids.get s := by
  rw [grantee, Both.get_modify_of_ne hs]

theorem mem_grantee (hnew : Assoc.get? name (al.ids.get space) = none) {s : Space}
    {x : String × Int} : x ∈ (r.grantee al space name).ids.get s ↔
      x ∈ al.ids.get s ∨ s = space ∧ x = (name, ((r.holding al.holding).get space).nextId) := by
  by_cases hs : s = space
  · subst hs
    rw [grantee_ids_self hnew, List.mem_append, List.mem_singleton]
    simp
  · rw [grantee_ids_of_ne hs]
    simp [hs]

theorem get?_grantee_self : Assoc.get? name ((r.grantee al space name).ids.get space) =
    some ((r.holding al.holding).get space).nextId := by
  rw [grantee, Both.get_modify_self, Assoc.get?_put_self]

/-- The allocator that has handed out an id. -/
theorem allocator?_granted_self (hregistrant : al.registrant = registrant) :
    (r.granted al space name).allocator? registrant = some (r.grantee al space name) := by
  subst hregistrant
  exact allocator?_setAllocator_self _ (r.grantee al space name)

/-- Names that were bound before stay bound. -/
theorem get?_grantee_of_some (hnew : Assoc.get? name (al.ids.get space) = none) {s : Space}
    {other : String} {id : Int} (hget : Assoc.get? other (al.ids.get s) = some id) :
    Assoc.get? other ((r.grantee al space name).ids.get s) = some id := by
  by_cases hs : s = space
  · subst hs
    have hne : other ≠ name := by
      rintro rfl
      rw [hnew] at hget
      cases hget
    rw [grantee, Both.get_modify_self, Assoc.get?_put_of_ne hne]
    exact hget
  · rw [grantee_ids_of_ne hs]
    exact hget

/-- What is bound after the next id of a space is handed out under a name that was new. -/
theorem get?_grantee_iff (hnew : Assoc.get? name (al.ids.get space) = none) {s : Space}
    {other : String} {id : Int} : Assoc.get? other ((r.grantee al space name).ids.get s) = some id ↔
      Assoc.get? other (al.ids.get s) = some id ∨
        s = space ∧ other = name ∧ id = ((r.holding al.holding).get space).nextId := by
  refine ⟨fun hget => ?_, ?_⟩
  · by_cases hs : s = space
    · subst hs
      by_cases hname : other = name
      · subst hname
        exact .inr ⟨rfl, rfl, Option.some.inj (hget.symm.trans get?_grantee_self)⟩
      · rw [grantee, Both.get_modify_self, Assoc.get?_put_of_ne hname] at hget
        exact .inl hget
    · rw [grantee_ids_of_ne hs] at hget
      exact .inl hget
  · rintro (hget | ⟨rfl, rfl, rfl⟩)
    · exact get?_grantee_of_some hnew hget
    · exact get?_grantee_self

/-- The next id of a space with room lies in its window, and no name has it. -/
theorem Lawful.grantee_bound (h : r.Lawful) (hal : al.Lawful r registrant)
    (hnew : Assoc.get? name (al.ids.get space) = none)
    (hroom : ((r.holding al.holding).get space).isFull = false) (s : Space) :
    Roster.Bound ((r.holding al.holding).get s).window ((r.grantee al space name).ids.get s) := by
  by_cases hs : s = space
  · subst hs
    have hfree : ((r.holding al.holding).get s).nextId ∉ (al.ids.get s).map Prod.snd := by
      intro hmem
      obtain ⟨x, hx, hid⟩ := List.mem_map.1 hmem
      exact hal.ne_nextId hx hid
    have hhas := Reservation.has_window_nextId hroom (h.fits hal.holding s).used_nonneg
    rw [grantee_ids_self hnew]
    exact (hal.bound s).append
      (Roster.clashes_eq_false_iff.2 ⟨Assoc.get?_eq_none_iff.1 hnew, hfree⟩) hhas
  · rw [grantee_ids_of_ne hs]
    exact hal.bound s

/-- **Handing out the next id** under a new name keeps a registry lawful. -/
theorem Lawful.grant (h : r.Lawful) (hal : r.allocator? registrant = some al)
    (hname : IdName.Storable name) (hnew : Assoc.get? name (al.ids.get space) = none)
    (hroom : ((r.holding al.holding).get space).isFull = false) :
    (r.granted al space name).Lawful := by
  have hlawful := h.allocators registrant al hal
  have hadv : (r.holding al.holding).Advances ((r.holding al.holding).modify space
      Reservation.bump) := Holding.advances_modify (Reservation.advances_bump hroom)
  have hself : (r.modifyHolding al.holding fun h => h.modify space Reservation.bump).holding
      al.holding = (r.holding al.holding).modify space Reservation.bump :=
    holding_modifyHolding_self (h.lt_of_get? hlawful.holding) _
  have hold := allocatorLawful_modifyHolding (f := fun h => h.modify space Reservation.bump) hlawful hadv
  refine (h.advance hadv).enlist ⟨rfl, hlawful.registrant_eq ▸ hold.holding,
    hlawful.registrant_eq ▸ hold.path, ?_, ?_, ?_⟩
  · intro s
    have hbound := h.grantee_bound hlawful hnew hroom s
    rw [← (hadv s).window, ← hself] at hbound
    exact hbound
  · intro s x hx
    rcases (mem_grantee hnew).1 hx with hx | ⟨rfl, rfl⟩
    · exact hold.covers s x hx
    · show Reservation.Covers (((r.modifyHolding _ _).holding al.holding).get s) _
      rw [hself, Both.get_modify_self]
      exact Reservation.covers_bump (h.fits hlawful.holding s).used_nonneg
  · intro s x hx
    rcases (mem_grantee hnew).1 hx with hx | ⟨rfl, rfl⟩
    · exact hlawful.storable s x hx
    · exact hname

end Grant

end Registry

end Allotment
