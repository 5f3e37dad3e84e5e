import Allotment.Proofs.Registry.Refusal

/-!
# Numbers of holdings

The table has a number for each registrant, and the allocator of a registrant has one of its own: the
number that the table had when the allocator was made. As long as both are the same, both speak of the
same holding, whatever is assigned to it. They part when the registrant is placed anew, for then the
table gets a new number, and the allocator keeps the old one.

* `Incident`, `Desk.chronicle` — what befalls a desk if holdings are assigned, too;
* `Registry.Linked` — every number in use is one of a holding that was issued;
* `Registry.Continues` — what a step does to numbers: allocators keep theirs, numbers in the table are
  old ones or new ones, a new allocator has the number of the table, and the number of a registrant
  with an allocator stays unless it is lost;
* `continues_issue`, `continues_modifyHolding`, `continues_setAllocator` and the others — **PROVED**: each
  change of a registry does so;
* `carries_getOrCreate`, `carries_allocatorFor`, `carries_allocate` and the others — **PROVED**: and so
  does each action. A call for a holding loses the number that it reassigns, and nothing else does;
* `Desk.Makes`, `Desk.Grants` — what a call leaves that makes an allocator, and one that hands out an id;
* `ends_allocate_linked`, `allocate_of_unbound` — **PROVED**: an id under a new name is the next one of
  the holding that the allocator has the number of;
* `continues_befall`, `linked_chronicle` — **PROVED**: so the numbers in use are always those of holdings.
-/

namespace Allotment

/-- What befalls a desk whose holdings are not left alone. -/
inductive Incident where
  | event (event : Event)
  /-- Whoever has the number of a holding assigns a part of it. -/
  | assigned (number : Nat) (space : Space) (field : Reservation.Field)

namespace Registry

/-! ### Numbers in use -/

/-- Every number in use is one of a holding that was issued. -/
structure Linked (r : Registry) : Prop where
  issued : ∀ k n, Assoc.get? k r.table = some n → n < r.holdings.length
  allocators : ∀ k al, r.allocator? k = some al → al.registrant = k ∧
    al.holding < r.holdings.length
  unopened : r.opened = false → r.table = [] ∧ r.allocators = []

theorem linked_fresh (layout : Layout) (passes : Int) : ({ layout, passes } : Registry).Linked where
  issued k n hget := by cases hget
  allocators k al hal := by cases hal
  unopened _ := ⟨rfl, rfl⟩

/-- What a step does to the numbers of holdings. The registrants whose numbers are lost had another
number in the table before than after. -/
structure Continues (lost : String → Prop) (r later : Registry) : Prop where
  linked : later.Linked
  layout : later.layout = r.layout
  length_le : r.holdings.length ≤ later.holdings.length
  opened : r.opened = true → later.opened = true
  allocators : ∀ k al, r.allocator? k = some al →
    ∃ al', later.allocator? k = some al' ∧ al'.holding = al.holding
  table : ∀ k n, Assoc.get? k later.table = some n →
    Assoc.get? k r.table = some n ∨ r.holdings.length ≤ n
  stays : ∀ k n, ¬lost k → (r.allocator? k).isSome = true → Assoc.get? k r.table = some n →
    Assoc.get? k later.table = some n
  gone : ∀ k n, lost k → Assoc.get? k r.table = some n → Assoc.get? k later.table ≠ some n
  made : ∀ k al, ¬lost k → r.allocator? k = none → later.allocator? k = some al →
    Assoc.get? k later.table = some al.holding

/-- Nobody's number is lost. -/
def Nobody : String → Prop := fun _ => False

theorem Continues.refl {r : Registry} (h : r.Linked) : r.Continues Nobody r where
  linked := h
  layout := rfl
  length_le := Nat.le_refl _
  opened := id
  allocators _ al hal := ⟨al, hal, rfl⟩
  table _ _ hget := .inl hget
  stays _ _ _ _ hget := hget
  gone _ _ hlost := hlost.elim
  made k al _ hnone hal := by
    rw [hnone] at hal
    cases hal

theorem Continues.isSome {lost : String → Prop} {r later : Registry} (h : r.Continues lost later)
    {k : String} (hal : (r.allocator? k).isSome = true) : (later.allocator? k).isSome = true := by
  obtain ⟨al, hal⟩ := Option.isSome_iff_exists.1 hal
  obtain ⟨al', hal', -⟩ := h.allocators k al hal
  rw [hal']
  rfl

/-- A number that an allocator has and that is not in the table any more does not come back. -/
theorem Continues.ne_of_ne {lost : String → Prop} {r later : Registry}
    (h : r.Continues lost later) {k : String} {n : Nat} (hlt : n < r.holdings.length)
    (hne : Assoc.get? k r.table ≠ some n) : Assoc.get? k later.table ≠ some n := by
  intro hget
  rcases h.table k n hget with hold | hnew
  · exact hne hold
  · omega

/-- A step that loses nobody's number may come before another step. -/
theorem Continues.trans {lost : String → Prop} {r s t : Registry} (h1 : r.Continues Nobody s)
    (h2 : s.Continues lost t) (hlost : ∀ k n, lost k → Assoc.get? k r.table = some n →
      Assoc.get? k s.table = some n) : r.Continues lost t where
  linked := h2.linked
  layout := h2.layout.trans h1.layout
  length_le := Nat.le_trans h1.length_le h2.length_le
  opened hopen := h2.opened (h1.opened hopen)
  allocators k al hal := by
    obtain ⟨al', hal', hsame⟩ := h1.allocators k al hal
    obtain ⟨al'', hal'', hsame'⟩ := h2.allocators k al' hal'
    exact ⟨al'', hal'', hsame'.trans hsame⟩
  table k n hget := by
    rcases h2.table k n hget with hold | hnew
    · exact h1.table k n hold
    · exact .inr (Nat.le_trans h1.length_le hnew)
  stays k n hnot hal hget := h2.stays k n hnot (h1.isSome hal) (h1.stays k n id hal hget)
  gone k n hk hget := h2.gone k n hk (hlost k n hk hget)
  made k al hnot hnone hal := by
    cases hmid : s.allocator? k with
    | none => exact h2.made k al hnot hmid hal
    | some mid =>
      obtain ⟨al', hal', hsame⟩ := h2.allocators k mid hmid
      obtain rfl : al' = al := Option.some.inj (hal'.symm.trans hal)
      rw [hsame]
      exact h2.stays k mid.holding hnot (by rw [hmid]; rfl) (h1.made k mid id hnone hmid)

theorem Continues.trans_nobody {r s t : Registry} (h1 : r.Continues Nobody s)
    (h2 : s.Continues Nobody t) : r.Continues Nobody t := h1.trans h2 fun _ _ hk => hk.elim

/-- Which numbers are lost may be said in other words. -/
theorem Continues.congr {lost lost' : String → Prop} {r later : Registry}
    (h : r.Continues lost later) (hsame : ∀ k, lost k ↔ lost' k) : r.Continues lost' later := by
  obtain rfl : lost = lost' := funext fun k => propext (hsame k)
  exact h

/-- The number of a registrant is one that an allocator had to do with. -/
def Held (r : Registry) (registrant : String) (k : String) : Prop :=
  k = registrant ∧ (r.allocator? k).isSome = true ∧ (Assoc.get? k r.table).isSome = true

/-! ### Changes of a registry -/

section Changes

variable {r : Registry} (h : r.Linked)
include h

/-- A change that keeps the numbers. -/
theorem continues_of_same {later : Registry} (hlayout : later.layout = r.layout)
    (hlength : r.holdings.length ≤ later.holdings.length) (htable : later.table = r.table)
    (hall : later.allocators = r.allocators) (hopen : later.opened = r.opened) :
    r.Continues Nobody later where
  linked := by
    refine ⟨?_, ?_, ?_⟩
    · intro k n hget
      rw [htable] at hget
      exact Nat.lt_of_lt_of_le (h.issued k n hget) hlength
    · intro k al hal
      rw [allocator?, hall] at hal
      obtain ⟨hregistrant, hlt⟩ := h.allocators k al hal
      exact ⟨hregistrant, Nat.lt_of_lt_of_le hlt hlength⟩
    · rw [hopen, htable, hall]
      exact h.unopened
  layout := hlayout
  length_le := hlength
  opened := by
    rw [hopen]
    exact id
  allocators k al hal := by
    refine ⟨al, ?_, rfl⟩
    rw [allocator?, hall]
    exact hal
  table k n hget := .inl (htable ▸ hget)
  stays k n _ _ hget := htable.symm ▸ hget
  gone _ _ hlost := hlost.elim
  made k al _ hnone hal := by
    rw [allocator?, hall] at hal
    rw [allocator?, hal] at hnone
    cases hnone

/-- A change of a holding. -/
theorem continues_modifyHolding (number : Nat) (f : Holding → Holding) :
    r.Continues Nobody (r.modifyHolding number f) :=
  continues_of_same h rfl (by simp [modifyHolding]) rfl rfl rfl

/-- An unopened registry that takes over a table. -/
theorem continues_adopt (hopen : r.opened = false) (settled : List (String × Holding))
    (report : Report) : r.Continues Nobody { r.adopt settled with report, opened := true } := by
  obtain ⟨htable, hall⟩ := h.unopened hopen
  have hnumber : ∀ k n, Assoc.get? k (r.adopt settled).table = some n →
      r.holdings.length ≤ n ∧ n < r.holdings.length + settled.length := by
    intro k n hget
    obtain ⟨hlow, hhigh, -⟩ := List.mem_zipIdx (Assoc.mem_of_get? hget)
    exact ⟨hlow, by simpa using hhigh⟩
  have hnone : ∀ k, r.allocator? k = none := by
    intro k
    rw [allocator?, hall]
    rfl
  refine ⟨⟨?_, ?_, fun hclosed => by cases hclosed⟩, rfl, ?_, fun _ => rfl, ?_, ?_, ?_,
    fun _ _ hlost => hlost.elim, ?_⟩
  · intro k n hget
    have hlt := (hnumber k n hget).2
    show n < (r.holdings ++ settled.map Prod.snd).length
    simpa using hlt
  · intro k al hal
    cases (hnone k).symm.trans hal
  · show r.holdings.length ≤ (r.holdings ++ settled.map Prod.snd).length
    simp
  · intro k al hal
    cases (hnone k).symm.trans hal
  · exact fun k n hget => .inr (hnumber k n hget).1
  · intro k n _ _ hget
    rw [htable] at hget
    cases hget
  · intro k al _ _ hal
    cases (hnone k).symm.trans hal

/-- A registrant gets a new number, or none: the number is lost if an allocator had to do with it. -/
theorem continues_of_others {later : Registry} {registrant : String} (hlayout : later.layout = r.layout)
    (hlength : r.holdings.length ≤ later.holdings.length) (hall : later.allocators = r.allocators)
    (hopen : later.opened = true)
    (hothers : ∀ k, k ≠ registrant → Assoc.get? k later.table = Assoc.get? k r.table)
    (hown : ∀ n, Assoc.get? registrant later.table = some n →
      r.holdings.length ≤ n ∧ n < later.holdings.length) :
    r.Continues (Held r registrant) later := by
  have hallocator : ∀ k, later.allocator? k = r.allocator? k := by
    intro k
    rw [allocator?, hall]
    rfl
  have htable : ∀ k n, Assoc.get? k later.table = some n →
      Assoc.get? k r.table = some n ∨ r.holdings.length ≤ n ∧ n < later.holdings.length := by
    intro k n hget
    by_cases hk : k = registrant
    · subst hk
      exact .inr (hown n hget)
    · rw [hothers k hk] at hget
      exact .inl hget
  refine ⟨⟨?_, ?_, ?_⟩, hlayout, hlength, fun _ => hopen, ?_, ?_, ?_, ?_, ?_⟩
  · intro k n hget
    rcases htable k n hget with hold | hnew
    · exact Nat.lt_of_lt_of_le (h.issued k n hold) hlength
    · exact hnew.2
  · intro k al hal
    rw [hallocator] at hal
    obtain ⟨hregistrant, hlt⟩ := h.allocators k al hal
    exact ⟨hregistrant, Nat.lt_of_lt_of_le hlt hlength⟩
  · rw [hopen]
    intro hclosed
    cases hclosed
  · intro k al hal
    exact ⟨al, (hallocator k).trans hal, rfl⟩
  · exact fun k n hget => (htable k n hget).imp_right And.left
  · intro k n hnot hal hget
    have hk : k ≠ registrant := by
      rintro rfl
      exact hnot ⟨rfl, hal, by rw [hget]; rfl⟩
    rw [hothers k hk]
    exact hget
  · rintro k n ⟨rfl, -, -⟩ hget hlater
    have := h.issued k n hget
    have := hown n hlater
    omega
  · intro k al _ hnone hal
    cases hnone.symm.trans ((hallocator k).symm.trans hal)

/-- A registrant is taken out of the table. -/
theorem continues_withdraw (hopen : r.opened = true) (registrant : String) :
    r.Continues (Held r registrant) (r.withdraw registrant) := by
  refine continues_of_others h rfl (Nat.le_refl _) rfl hopen
    (fun k hk => Assoc.get?_erase_of_ne hk _) ?_
  intro n hn
  rw [withdraw, Assoc.get?_erase_self] at hn
  cases hn

/-- A new holding, for a newcomer or in place of another one. -/
theorem continues_issue (hopen : r.opened = true) (registrant : String) (holding : Holding) :
    r.Continues (Held r registrant) (r.issue registrant holding) ∧
      r.Continues (Held r registrant) ((r.withdraw registrant).issue registrant holding) := by
  have hlength : (r.issue registrant holding).holdings.length = r.holdings.length + 1 := by
    simp [issue]
  have hown : ∀ (table : List (String × Nat)) n,
      Assoc.get? registrant (Assoc.put registrant r.holdings.length table) = some n →
        r.holdings.length ≤ n ∧ n < (r.issue registrant holding).holdings.length := by
    intro table n hn
    rw [Assoc.get?_put_self] at hn
    obtain rfl := Option.some.inj hn
    omega
  refine ⟨continues_of_others h rfl (by omega) rfl hopen ?_ (hown r.table),
    continues_of_others h rfl ?_ rfl hopen ?_ (hown _)⟩
  · exact fun k hk => Assoc.get?_put_of_ne hk _ _
  · show r.holdings.length ≤ (r.holdings ++ [holding]).length
    simp
  · intro k hk
    have hput := Assoc.get?_put_of_ne hk r.holdings.length (Assoc.erase registrant r.table)
    exact hput.trans (Assoc.get?_erase_of_ne hk _)

/-- An allocator is taken in that has the number of the table, or the number of the allocator whose
place it takes. -/
theorem continues_setAllocator (al : Allocator) (hopen : r.opened = true)
    (hlt : al.holding < r.holdings.length)
    (hsame : ∀ old, r.allocator? al.registrant = some old → al.holding = old.holding)
    (hnew : r.allocator? al.registrant = none →
      Assoc.get? al.registrant r.table = some al.holding) :
    r.Continues Nobody (r.setAllocator al) := by
  have hself := r.allocator?_setAllocator_self al
  have hothers : ∀ k, k ≠ al.registrant → (r.setAllocator al).allocator? k = r.allocator? k :=
    fun k hk => r.allocator?_setAllocator_of_ne al hk
  refine ⟨⟨h.issued, ?_, ?_⟩, rfl, Nat.le_refl _, id, ?_, fun _ _ hget => .inl hget,
    fun _ _ _ _ hget => hget, fun _ _ hlost => hlost.elim, ?_⟩
  · intro k other hother
    by_cases hk : k = al.registrant
    · subst hk
      obtain rfl : al = other := Option.some.inj (hself.symm.trans hother)
      exact ⟨rfl, hlt⟩
    · rw [hothers k hk] at hother
      exact h.allocators k other hother
  · intro hclosed
    have hclosed : r.opened = false := hclosed
    rw [hopen] at hclosed
    cases hclosed
  · intro k old hold
    by_cases hk : k = al.registrant
    · subst hk
      exact ⟨al, hself, hsame old hold⟩
    · exact ⟨old, (hothers k hk).trans hold, rfl⟩
  · intro k other _ hnone hother
    by_cases hk : k = al.registrant
    · subst hk
      obtain rfl : al = other := Option.some.inj (hself.symm.trans hother)
      exact hnew hnone
    · cases hnone.symm.trans ((hothers k hk).symm.trans hother)

end Changes

end Registry

namespace Desk

variable {α β : Type}

/-! ### Finding and placing -/

/-- An action that loses some numbers, whether it returns a value or fails. -/
def Carries (d : Desk) (act : Act α) (lost : String → Prop) (Q : α → Desk → Prop) : Prop :=
  Ends d act (fun x e => d.registry.Continues lost e.registry ∧ Q x e)
    fun _ e => d.registry.Continues lost e.registry

/-- Opening loses no number, and a registry that is open stays as it is. -/
theorem continues_openLedger {d : Desk} (h : d.registry.Linked) :
    Ends d openLedger
      (fun _ e => d.registry.Continues Registry.Nobody e.registry ∧ e.registry.opened = true ∧
        d.registry.closed = false ∧ e.registry.closed = false ∧
        e.registry.allocators = d.registry.allocators ∧
        (d.registry.opened = true → e.registry = d.registry))
      (fun _ e => d.registry.Continues Registry.Nobody e.registry ∧
        (d.registry.closed = true ∨ d.registry.opened = false)) := by
  cases hclosed : d.registry.closed with
  | true => exact ends_openLedger_of_closed hclosed ⟨.refl h, .inl rfl⟩
  | false =>
    cases hopen : d.registry.opened with
    | true =>
      exact ends_openLedger_of_open hopen hclosed ⟨.refl h, hopen, rfl, hclosed, rfl, fun _ => rfl⟩
    | false =>
      have hloaded : ∀ bytes, d.registry.Continues Registry.Nobody (d.loaded bytes) :=
        fun bytes => Registry.continues_adopt h hopen _ _
      refine ends_openLedger_of_unopened hopen hclosed ?_ ?_ ?_
      · intro bytes notices _
        exact ⟨hloaded _, loaded_opened d _, rfl, (loaded_closed d _).trans hclosed,
          loaded_allocators d _, fun hfalse => by cases hfalse⟩
      · intro notices _
        refine ends_saveLedger ?_ ?_
        · intro disk _ more
          exact ⟨hloaded _, loaded_opened d _, rfl, (loaded_closed d _).trans hclosed,
            loaded_allocators d _, fun hfalse => by cases hfalse⟩
        · exact fun _ _ _ _ _ _ => ⟨hloaded _, .inr rfl⟩
      · exact fun _ _ => ⟨.refl h, .inr rfl⟩

/-- Placing issues a holding or leaves the registry. -/
theorem ends_placeHolding_issue {d : Desk} (hclosed : d.registry.closed = false)
    (registrant : String) (sizes : Both Int) :
    Ends d (placeHolding registrant sizes)
      (fun number e => number = d.registry.holdings.length ∧
        ∃ holding, e.registry = d.registry.issue registrant holding)
      (fun _ e => e.registry = d.registry ∨
        ∃ holding, e.registry = d.registry.issue registrant holding) := by
  refine ends_placeHolding_of_room hclosed ?_ ?_ ?_
  · intro starts notices _
    exact ends_saveLedger (fun _ _ => ⟨rfl, _, rfl⟩) fun _ _ _ _ _ _ => .inr ⟨_, rfl⟩
  · exact fun _ _ => .inl rfl
  · exact fun _ _ _ _ _ => .inl rfl

/-- A registrant has an allocator, and its holding is not sound. -/
def LostTo (r : Registry) (registrant : String) (k : String) : Prop :=
  k = registrant ∧ (r.allocator? k).isSome = true ∧ ∃ n, Assoc.get? k r.table = some n ∧
    r.isSound k (r.holding n) = false

/-- What finding a holding comes to: its number is in the table, and the rest is as it was. -/
def Finds (d : Desk) (registrant : String) (number : Nat) (e : Desk) : Prop :=
  Assoc.get? registrant e.registry.table = some number ∧ e.registry.opened = true ∧
    e.registry.closed = false ∧ e.registry.allocators = d.registry.allocators

section Finding

variable {d : Desk} (h : d.registry.Linked) (hopen : d.registry.opened = true)
  (hclosed : d.registry.closed = false) {registrant : String} (sizes : Both Int)
include h hopen hclosed

/-- A newcomer has no number to lose. -/
theorem carries_findHolding_of_new (hnew : Assoc.get? registrant d.registry.table = none) :
    Carries d (findHolding registrant sizes) (LostTo d.registry registrant)
      (d.Finds registrant) := by
  have hnot : ∀ k, ¬LostTo d.registry registrant k := by
    rintro k ⟨rfl, -, n, hsome, -⟩
    cases hnew.symm.trans hsome
  have hissued : ∀ holding, d.registry.Continues (LostTo d.registry registrant)
      (d.registry.issue registrant holding) := by
    intro holding
    refine (Registry.continues_issue h hopen registrant holding).1.congr fun k => ?_
    refine ⟨?_, fun hk => absurd hk (hnot k)⟩
    rintro ⟨rfl, -, hsome⟩
    rw [hnew] at hsome
    cases hsome
  rw [Carries, ends_findHolding_of_new hnew]
  refine (ends_placeHolding_issue hclosed registrant sizes).imp ?_ ?_
  · rintro number e ⟨rfl, holding, he⟩
    rw [Finds, he]
    exact ⟨hissued holding, Assoc.get?_put_self _ _ _, hopen, hclosed, rfl⟩
  · rintro f e (he | ⟨holding, he⟩)
    · rw [he]
      exact (Registry.Continues.refl h).congr fun k => ⟨False.elim, hnot k⟩
    · rw [he]
      exact hissued holding

/-- A sound holding is found where it was. -/
theorem carries_findHolding_of_sound {number : Nat}
    (hget : Assoc.get? registrant d.registry.table = some number)
    (hsound : d.registry.isSound registrant (d.registry.holding number) = true) :
    Carries d (findHolding registrant sizes) (LostTo d.registry registrant)
      (d.Finds registrant) := by
  rw [Carries, ends_findHolding_of_sound hget hsound]
  refine ⟨(Registry.Continues.refl h).congr fun k => ⟨False.elim, ?_⟩, hget, hopen, hclosed, rfl⟩
  rintro ⟨rfl, -, n, hsome, hunsound⟩
  obtain rfl : number = n := Option.some.inj (hget.symm.trans hsome)
  rw [hsound] at hunsound
  cases hunsound

/-- Any other holding is taken out of the table, and its number is lost. -/
theorem carries_findHolding_of_unsound {number : Nat}
    (hget : Assoc.get? registrant d.registry.table = some number)
    (hsound : d.registry.isSound registrant (d.registry.holding number) = false) :
    Carries d (findHolding registrant sizes) (LostTo d.registry registrant)
      (d.Finds registrant) := by
  have hlost : ∀ k, Registry.Held d.registry registrant k ↔ LostTo d.registry registrant k := by
    intro k
    constructor
    · rintro ⟨rfl, hal, -⟩
      exact ⟨rfl, hal, number, hget, hsound⟩
    · rintro ⟨rfl, hal, n, hsome, -⟩
      exact ⟨rfl, hal, by rw [hsome]; rfl⟩
  refine ends_findHolding_of_unsound hget hsound sizes ?_
  intro notices
  refine (ends_placeHolding_issue (d := ⟨d.registry.withdraw registrant, d.disk, notices⟩)
    hclosed registrant sizes).imp ?_ ?_
  · rintro _ ⟨r, disk, more⟩ ⟨rfl, holding, rfl⟩
    exact ⟨(Registry.continues_issue h hopen registrant holding).2.congr hlost,
      Assoc.get?_put_self _ _ _, hopen, hclosed, rfl⟩
  · rintro f ⟨r, disk, more⟩ (rfl | ⟨holding, rfl⟩)
    · exact (Registry.continues_withdraw h hopen registrant).congr hlost
    · exact (Registry.continues_issue h hopen registrant holding).2.congr hlost

/-- **Finding a holding or placing it** loses the number of a holding that is not sound. -/
theorem carries_findHolding :
    Carries d (findHolding registrant sizes) (LostTo d.registry registrant)
      (d.Finds registrant) := by
  cases hget : Assoc.get? registrant d.registry.table with
  | none => exact carries_findHolding_of_new h hopen hclosed sizes hget
  | some number =>
    cases hsound : d.registry.isSound registrant (d.registry.holding number) with
    | true => exact carries_findHolding_of_sound h hopen hclosed sizes hget hsound
    | false => exact carries_findHolding_of_unsound h hopen hclosed sizes hget hsound

end Finding

/-- A call for a holding reassigns a registrant who has an allocator. -/
def Supersedes (d : Desk) (name sizeA sizeB : Argument) (k : String) : Prop :=
  (d.registry.allocator? k).isSome = true ∧ d.registry.closed = false ∧
    d.Reassigns name sizeA sizeB k

/-- Only an open registry has allocators. -/
theorem opened_of_isSome {d : Desk} (h : d.registry.Linked) {k : String}
    (hal : (d.registry.allocator? k).isSome = true) : d.registry.opened = true := by
  cases hopen : d.registry.opened with
  | true => rfl
  | false =>
    rw [Registry.allocator?, (h.unopened hopen).2] at hal
    cases hal

/-- What finding a holding loses after opening is what the call reassigns. -/
theorem lostTo_iff_supersedes {d : Desk} (h : d.registry.Linked) {name sizeA sizeB : Argument}
    {registrant : String} {sizes : Both Int}
    (hwanted : wanted d.registry.layout name sizeA sizeB = .ok (registrant, sizes))
    (hclosed : d.registry.closed = false) {e : Desk}
    (hall : e.registry.allocators = d.registry.allocators)
    (hsame : d.registry.opened = true → e.registry = d.registry) (k : String) :
    LostTo e.registry registrant k ↔ d.Supersedes name sizeA sizeB k := by
  have hallocator : e.registry.allocator? k = d.registry.allocator? k := by
    rw [Registry.allocator?, hall]
    rfl
  constructor
  · rintro ⟨rfl, hal, n, hget, hsound⟩
    rw [hallocator] at hal
    rw [hsame (opened_of_isSome h hal)] at hget hsound
    exact ⟨hal, hclosed, sizes, n, hwanted, hget, hsound⟩
  · rintro ⟨hal, -, hk⟩
    obtain rfl := Reassigns.eq hwanted hk
    obtain ⟨-, n, -, hget, hsound⟩ := hk
    rw [← hallocator] at hal
    rw [← hsame (opened_of_isSome h (hallocator ▸ hal))] at hget hsound
    exact ⟨rfl, hal, n, hget, hsound⟩

/-- **A call for a holding** loses the number that it reassigns. -/
theorem carries_getOrCreate {d : Desk} (h : d.registry.Linked) (name sizeA sizeB : Argument) :
    Carries d (getOrCreate name sizeA sizeB) (d.Supersedes name sizeA sizeB) fun number e =>
      ∃ registrant, Registrant.ofArgument name = .ok registrant ∧
        Assoc.get? registrant e.registry.table = some number ∧ e.registry.opened = true ∧
        e.registry.closed = false ∧ e.registry.allocators = d.registry.allocators := by
  rw [Carries, ends_getOrCreate]
  cases hwanted : wanted d.registry.layout name sizeA sizeB with
  | error f =>
    refine (Registry.Continues.refl h).congr fun k => ⟨False.elim, ?_⟩
    rintro ⟨-, -, sizes, -, hother, -⟩
    cases hwanted.symm.trans hother
  | ok want =>
    obtain ⟨registrant, sizes⟩ := want
    obtain ⟨hname, -⟩ := wanted_eq_ok hwanted
    simp only
    refine (continues_openLedger h).imp ?_ ?_
    · rintro _ e ⟨hopening, hopen, hclosed, hclosed', hall, hsame⟩
      have hlost := lostTo_iff_supersedes h hwanted hclosed hall hsame
      -- a registrant who is superseded had its number before opening
      have hbefore : ∀ k n, d.Supersedes name sizeA sizeB k →
          Assoc.get? k d.registry.table = some n → Assoc.get? k e.registry.table = some n := by
        intro k n hk hget
        rw [hsame (opened_of_isSome h hk.1)]
        exact hget
      refine (carries_findHolding hopening.linked hopen hclosed' sizes).imp ?_ ?_
      · rintro number f ⟨hfound, hget, hopen', hclosed'', hall'⟩
        exact ⟨hopening.trans (hfound.congr hlost) hbefore, registrant, hname, hget, hopen',
          hclosed'', hall'.trans hall⟩
      · intro _ f hfound
        exact hopening.trans (hfound.congr hlost) hbefore
    · rintro f e ⟨hopening, hnot⟩
      refine hopening.congr fun k => ⟨False.elim, ?_⟩
      rintro ⟨hal, hclosed, -⟩
      rcases hnot with hnot | hnot
      · cases hnot.symm.trans hclosed
      · cases hnot.symm.trans (opened_of_isSome h hal)

/-! ### Making an allocator -/

/-- What an allocator is that was loaded, whatever its holding was before: it is made of what was read,
and the holding is as it is after the admission. -/
structure Loads (d : Desk) (registrant : String) (number : Nat) (al : Allocator) (e : Desk) : Prop where
  path : d.registry.layout.rosterPath registrant = .ok al.path
  made : ∃ bytes, d.disk.read al.path = .ok bytes ∧ al = d.made registrant number al.path bytes ∧
    e.registry.holding number = (d.admission number bytes).holding
  changed : ∃ f, e.registry = d.registry.modifyHolding number f

/-- A registry in which a holding is changed to what it was. -/
theorem modifyHolding_id (r : Registry) (number : Nat) : r.modifyHolding number id = r := by
  rw [Registry.modifyHolding, List.modify_id]

/-- **Loading an allocator** changes its holding or nothing. -/
theorem ends_loadAllocator_loads {d : Desk} (hclosed : d.registry.closed = false)
    {registrant : String} {number : Nat} (hlt : number < d.registry.holdings.length) :
    Ends d (loadAllocator registrant number) (fun al e => d.Loads registrant number al e)
      (fun _ e => ∃ f, e.registry = d.registry.modifyHolding number f) := by
  have hsame := modifyHolding_id d.registry number
  cases hpath : d.registry.layout.rosterPath registrant with
  | error f =>
    unfold loadAllocator
    rw [ends_bind, ends_current, ends_bind, ends_check, hpath]
    exact ⟨id, hsame.symm⟩
  | ok path =>
    cases hread : d.disk.read path with
    | error f => exact ends_loadAllocator_of_unread hpath hread number ⟨id, hsame.symm⟩
    | ok bytes =>
      have hself := Registry.holding_modifyHolding_self hlt
        (fun _ => (d.admission number bytes).holding)
      refine ends_loadAllocator hclosed hpath hread ?_ ?_
      · exact fun hholding notices =>
          ⟨hpath, ⟨bytes, hread, rfl, hholding.symm⟩, ⟨id, hsame.symm⟩⟩
      · intro _ notices
        exact ends_saveLedger (fun _ _ => ⟨hpath, ⟨bytes, hread, rfl, hself⟩, ⟨_, rfl⟩⟩)
          fun _ _ _ _ _ _ => ⟨_, rfl⟩

/-- A loaded allocator is the registrant's and has the number that it was made for. -/
theorem Loads.made_of {d e : Desk} {registrant : String} {number : Nat} {al : Allocator}
    (h : d.Loads registrant number al e) : al.registrant = registrant ∧ al.holding = number := by
  obtain ⟨bytes, -, hmade, -⟩ := h.made
  rw [hmade]
  exact ⟨rfl, rfl⟩

/-- Taking in a loaded allocator loses no number. -/
theorem Loads.continues {d e : Desk} {al : Allocator} (hd : d.registry.Linked)
    (hopen : d.registry.opened = true)
    (hget : Assoc.get? al.registrant d.registry.table = some al.holding)
    (hnone : d.registry.allocator? al.registrant = none)
    (h : d.Loads al.registrant al.holding al e) :
    d.registry.Continues Registry.Nobody (e.registry.setAllocator al) := by
  obtain ⟨change, he⟩ := h.changed
  have hmodified := Registry.continues_modifyHolding hd al.holding change
  rw [he]
  refine hmodified.trans_nobody (Registry.continues_setAllocator hmodified.linked al ?_ ?_ ?_ ?_)
  · exact hmodified.opened hopen
  · exact hmodified.linked.issued _ _ hget
  · intro old hold
    cases hnone.symm.trans hold
  · exact fun _ => hget

/-- What a call for an allocator has done that made one: the desk behind the call for the holding, and
what was loaded there. -/
structure Makes (d : Desk) (registrant : String) (sizeA sizeB : Argument) (al : Allocator) (b e : Desk) :
    Prop where
  new : d.registry.allocator? registrant = none
  asked : getOrCreate (.text registrant) sizeA sizeB d = .ok al.holding b
  path : d.registry.layout.rosterPath registrant = .ok al.path
  loads : ∃ bytes, b.disk.read al.path = .ok bytes ∧ al = b.made registrant al.holding al.path bytes ∧
    e.registry.holding al.holding = (b.admission al.holding bytes).holding
  allocator : e.registry.allocator? registrant = some al
  closed : e.registry.closed = false

/-- **A call for an allocator** loses no number. If there was no allocator, one is made. -/
theorem carries_allocatorFor {d : Desk} (h : d.registry.Linked) (name sizeA sizeB : Argument) :
    Carries d (allocatorFor name sizeA sizeB) Registry.Nobody fun registrant e =>
      Registrant.ofArgument name = .ok registrant ∧
        ((d.registry.allocator? registrant).isSome = true ∧ e = d ∨
          ∃ al b, d.Makes registrant sizeA sizeB al b e) := by
  unfold allocatorFor
  rw [Carries, ends_bind, ends_check]
  cases hname : Registrant.ofArgument name with
  | error f => exact .refl h
  | ok registrant =>
    simp only
    rw [ends_bind, ends_current]
    cases hal : d.registry.allocator? registrant with
    | some al => exact ⟨.refl h, rfl, .inl ⟨by rw [hal]; rfl, rfl⟩⟩
    | none =>
      simp only
      -- the only one who could be reassigned has no allocator
      have hlost : ∀ k, d.Supersedes (.text registrant) sizeA sizeB k ↔ Registry.Nobody k := by
        intro k
        refine ⟨?_, False.elim⟩
        rintro ⟨hsome, -, sizes, n, hwanted, -⟩
        have hk := (wanted_eq_ok hwanted).1
        rw [Registrant.ofArgument_key (Registrant.isKey_of_ofArgument hname)] at hk
        obtain rfl := Except.ok.inj hk
        rw [hal] at hsome
        cases hsome
      have hasks := carries_getOrCreate h (.text registrant) sizeA sizeB
      rw [ends_bind]
      refine ends_of_forall ?_ fun f b hact => (hasks.of_error hact).congr hlost
      intro number b hact
      obtain ⟨hcall, other, hother, hget, hopen, hclosed, hall⟩ := hasks.of_ok hact
      rw [Registrant.ofArgument_key (Registrant.isKey_of_ofArgument hname)] at hother
      obtain rfl := Except.ok.inj hother
      have hb := hcall.congr hlost
      have hlt := hb.linked.issued registrant number hget
      have hnone : b.registry.allocator? registrant = none := by
        rw [Registry.allocator?, hall]
        exact hal
      rw [ends_bind]
      refine (ends_loadAllocator_loads hclosed hlt).imp ?_ ?_
      · intro al e hloads
        obtain ⟨rfl, rfl⟩ := hloads.made_of
        rw [ends_bind, ends_update, ends_pure]
        refine ⟨hb.trans_nobody (hloads.continues hb.linked hopen hget hnone), rfl, .inr ⟨al, b, hal,
          hact, hb.layout ▸ hloads.path, hloads.made, ?_, ?_⟩⟩
        · exact e.registry.allocator?_setAllocator_self al
        · obtain ⟨change, he⟩ := hloads.changed
          show e.registry.closed = false
          rw [he]
          exact hclosed
      · rintro f e ⟨change, he⟩
        rw [he]
        exact hb.trans_nobody (Registry.continues_modifyHolding hb.linked number change)

/-! ### Handing out ids -/

/-- What handing out an id leaves in memory, whatever becomes of the files. -/
structure Grants (d : Desk) (al : Allocator) (s : Space) (name : String) (e : Desk) : Prop where
  room : ((d.registry.holding al.holding).get s).isFull = false
  registry : e.registry = d.registry.granted al s name

/-- **Handing out an id** fails for a closed registry or a holding that is full. Otherwise it is the
next one of the allocator's holding, and its name is bound even if it cannot be told or a write
fails. -/
theorem ends_grant_linked {d : Desk} (h : d.registry.Linked) {registrant : String} {al : Allocator}
    (hal : d.registry.allocator? registrant = some al) (s : Space) (name : String) :
    Ends d (grant registrant s name)
      (fun id e => id = ((d.registry.holding al.holding).get s).nextId ∧ d.Grants al s name e)
      (fun f e => e = d ∧ (d.registry.closed = true ∨
          ((d.registry.holding al.holding).get s).isFull = true) ∨
        f.ofWriting = true ∧ d.Grants al s name e) := by
  refine ends_grant_cases hal ?_ ?_ ?_ ?_
  · exact fun hclosed => .inl ⟨rfl, .inl hclosed⟩
  · exact fun _ hfull => .inl ⟨rfl, .inr hfull⟩
  · exact fun _ hroom _ => .inr ⟨rfl, hroom, rfl⟩
  · intro _ hroom _ notices
    refine ends_saveLedger ?_ fun _ _ _ _ _ hf => .inr ⟨hf, hroom, rfl⟩
    intro disk _
    refine ends_saveRoster (Registry.allocator?_granted_self (h.allocators _ al hal).1) ?_ ?_
    · exact fun _ _ => ⟨rfl, hroom, rfl⟩
    · exact fun _ _ _ _ _ hf => .inr ⟨hf, hroom, rfl⟩

/-- **A call for an id** returns the one that the name is bound to and changes nothing, or hands out a
new one, or fails and changes nothing. -/
theorem ends_allocate_linked {d : Desk} (h : d.registry.Linked) (registrant : String)
    (name space : Argument) :
    Ends d (allocate registrant name space)
      (fun id e => ∃ al s key, d.Asks registrant name space al s key ∧
        (Assoc.get? key (al.ids.get s) = some id ∧ e = d ∨
          Assoc.get? key (al.ids.get s) = none ∧
            id = ((d.registry.holding al.holding).get s).nextId ∧ d.Grants al s key e))
      (fun _ e => e = d ∨ ∃ al s key, d.Asks registrant name space al s key ∧
        Assoc.get? key (al.ids.get s) = none ∧ d.Grants al s key e) := by
  refine ends_allocate_cases (fun _ _ => .inl rfl) ?_ ?_
  · exact fun al s key id hasks hget => ⟨al, s, key, hasks, .inl ⟨hget, rfl⟩⟩
  · intro al s key hasks _ hnew
    refine (ends_grant_linked h hasks.allocator s key).imp ?_ ?_
    · exact fun id e hgrants => ⟨al, s, key, hasks, .inr ⟨hnew, hgrants⟩⟩
    · rintro f e (⟨rfl, -⟩ | ⟨-, hgrants⟩)
      · exact .inl rfl
      · exact .inr ⟨al, s, key, hasks, hnew, hgrants⟩

/-- Handing out an id keeps the number of the allocator. -/
theorem Grants.continues {d e : Desk} (h : d.registry.Linked) {registrant : String} {al : Allocator}
    (hal : d.registry.allocator? registrant = some al) {s : Space} {name : String}
    (hg : d.Grants al s name e) : d.registry.Continues Registry.Nobody e.registry := by
  obtain ⟨hregistrant, hlt⟩ := h.allocators registrant al hal
  have hopen : d.registry.opened = true := opened_of_isSome h (by rw [hal]; rfl)
  have hmodified := Registry.continues_modifyHolding h al.holding
    fun holding => holding.modify s Reservation.bump
  have hset := Registry.continues_setAllocator hmodified.linked (d.registry.grantee al s name) hopen
    (Nat.lt_of_lt_of_le hlt hmodified.length_le) ?_ ?_
  · rw [hg.registry]
    exact hmodified.trans_nobody hset
  · intro old hold
    have hold : d.registry.allocator? al.registrant = some old := hold
    rw [hregistrant, hal] at hold
    obtain rfl := Option.some.inj hold
    rfl
  · intro hnone
    have hnone : d.registry.allocator? al.registrant = none := hnone
    rw [hregistrant, hal] at hnone
    cases hnone

theorem carries_allocate {d : Desk} (h : d.registry.Linked) (registrant : String)
    (name space : Argument) :
    Carries d (allocate registrant name space) Registry.Nobody fun _ _ => True := by
  refine (ends_allocate_linked h registrant name space).imp ?_ ?_
  · rintro id e ⟨al, s, key, hasks, ⟨-, rfl⟩ | ⟨-, -, hgrants⟩⟩
    · exact ⟨.refl h, trivial⟩
    · exact ⟨hgrants.continues h hasks.allocator, trivial⟩
  · rintro f e (rfl | ⟨al, s, key, hasks, -, hgrants⟩)
    · exact .refl h
    · exact hgrants.continues h hasks.allocator

/-- No id is bound to a name of a registrant in a space. -/
def Unbound (d : Desk) (k : String) (s : Space) (key : String) : Prop :=
  ¬∃ id, d.registry.Binds k s key id

/-- What is asked for under a text and a space. -/
theorem Asks.eq {d : Desk} {registrant key : String} {space : Argument} {al other : Allocator}
    {s t : Space} {name : String} (h : d.Asks registrant (.text key) space other t name)
    (hal : d.registry.allocator? registrant = some al) (hspace : space.toSpace = .ok s) :
    other = al ∧ t = s ∧ name = key := by
  refine ⟨Option.some.inj (h.allocator.symm.trans hal), ?_, ?_⟩
  · exact Except.ok.inj (h.space_eq.symm.trans hspace)
  · exact (Argument.text.inj h.name_eq).symm

/-- An id under a new name is the next one of the allocator's holding. -/
theorem allocate_of_unbound {d : Desk} (h : d.registry.Linked) {k : String} {al : Allocator}
    (hal : d.registry.allocator? k = some al) {key : String} {space : Argument} {s : Space}
    (hspace : space.toSpace = .ok s) (hnew : d.Unbound k s key) {id : Int} {e : Desk}
    (hact : allocate k (.text key) space d = .ok id e) :
    id = ((d.registry.holding al.holding).get s).nextId ∧ d.Grants al s key e := by
  obtain ⟨other, t, name, hasks, hcase⟩ := (ends_allocate_linked h k _ _).of_ok hact
  obtain ⟨rfl, rfl, rfl⟩ := hasks.eq hal hspace
  rcases hcase with ⟨hget, -⟩ | ⟨-, hid, hgrants⟩
  · exact absurd ⟨id, other, hal, hget⟩ hnew
  · exact ⟨hid, hgrants⟩

/-! ### The other requests -/

section Saving

variable {d : Desk} (h : d.registry.Linked)
include h

theorem carries_saveLedger : Carries d saveLedger Registry.Nobody fun _ e => e.registry = d.registry :=
  ends_saveLedger (fun _ _ => ⟨.refl h, rfl⟩) fun _ _ _ _ _ _ => .refl h

theorem carries_saveRoster (registrant : String) :
    Carries d (saveRoster registrant) Registry.Nobody fun _ _ => True := by
  cases hal : d.registry.allocator? registrant with
  | none =>
    rw [Carries, ends_saveRoster_of_none hal]
    exact .refl h
  | some al =>
    exact ends_saveRoster hal (fun _ _ => ⟨.refl h, trivial⟩) fun _ _ _ _ _ _ => .refl h

theorem carries_persist : Carries d persist Registry.Nobody fun _ _ => True := by
  unfold persist
  rw [Carries, ends_bind, ends_ensureWritable]
  split
  · exact .refl h
  · exact (carries_saveLedger h).imp (fun _ _ he => ⟨he.1, trivial⟩) fun _ _ hf => hf

theorem carries_close : Carries d close Registry.Nobody fun _ _ => True := by
  have hclose : d.registry.Continues Registry.Nobody { d.registry with closed := true } :=
    Registry.continues_of_same h rfl (Nat.le_refl _) rfl rfl rfl
  unfold close
  rw [Carries, ends_bind, ends_current]
  cases hclosed : d.registry.closed with
  | true => exact ⟨.refl h, trivial⟩
  | false =>
    simp only [Bool.false_eq_true, if_false]
    cases d.registry.opened with
    | false =>
      simp only [Bool.false_eq_true, if_false]
      exact ⟨hclose, trivial⟩
    | true =>
      rw [if_pos rfl, ends_bind]
      refine (carries_saveLedger h).imp ?_ fun _ _ hf => hf
      rintro _ ⟨r, disk, notices⟩ ⟨-, rfl⟩
      exact ⟨hclose, trivial⟩

end Saving

/-! ### Whole histories -/

/-- The registrants whose numbers a request loses. -/
def Loses (d : Desk) : Request → String → Prop
  | .getOrCreate name sizeA sizeB => d.Supersedes name sizeA sizeB
  | _ => Registry.Nobody

/-- **Every request** keeps the numbers in use, but for those that a call for a holding reassigns. -/
theorem continues_after {d : Desk} (h : d.registry.Linked) (request : Request) :
    d.registry.Continues (d.Loses request) (d.after request).registry := by
  have hdone : ∀ {α : Type} {act : Act α} {lost : String → Prop} {Q : α → Desk → Prop}
      (reply : α → Reply), Carries d act lost Q →
      d.registry.Continues lost (left ((act >>= fun x => pure (reply x)) d)).registry := by
    intro α act lost Q reply hact
    have hends : Ends d (act >>= fun x => pure (reply x))
        (fun _ e => d.registry.Continues lost e.registry)
        (fun _ e => d.registry.Continues lost e.registry) := by
      rw [ends_bind]
      exact hact.imp (fun _ _ he => he.1) fun _ _ hf => hf
    exact hends.left (P := fun e => d.registry.Continues lost e.registry)
  cases request with
  | openLedger =>
    refine hdone (fun _ => .done) (Q := fun _ _ => True) ?_
    exact (continues_openLedger h).imp (fun _ _ he => ⟨he.1, trivial⟩) fun _ _ hf => hf.1
  | getOrCreate name sizeA sizeB => exact hdone .holding (carries_getOrCreate h name sizeA sizeB)
  | allocatorFor name sizeA sizeB =>
    exact hdone .allocator (carries_allocatorFor h name sizeA sizeB)
  | allocate registrant name space =>
    exact hdone .id (carries_allocate h registrant name space)
  | saveRoster registrant => exact hdone (fun _ => .done) (carries_saveRoster h registrant)
  | persist => exact hdone (fun _ => .done) (carries_persist h)
  | close => exact hdone (fun _ => .done) (carries_close h)

/-- The desk behind an incident. -/
def befall (d : Desk) : Incident → Desk
  | .event event => d.behind event
  | .assigned number s field => d.assign number s field

/-- The desk behind a list of incidents. -/
def befallen (d : Desk) (incidents : List Incident) : Desk := incidents.foldl befall d

/-- The desk of a new registry behind a list of incidents. -/
def chronicle (layout : Layout) (passes : Int) (disk : Disk) (incidents : List Incident) : Desk :=
  (fresh layout passes disk).befallen incidents

/-- The registrants whose numbers an incident loses. -/
def LosesIn (d : Desk) : Incident → String → Prop
  | .event (.asked request) => d.Loses request
  | _ => Registry.Nobody

/-- **Whatever befalls a desk,** the numbers in use are kept, but for those that a call for a holding
reassigns. -/
theorem continues_befall {d : Desk} (h : d.registry.Linked) (incident : Incident) :
    d.registry.Continues (d.LosesIn incident) (d.befall incident).registry := by
  cases incident with
  | event event =>
    cases event with
    | asked request => exact continues_after h request
    | edited disk => exact .refl h
  | assigned number s field => exact Registry.continues_modifyHolding h number _

theorem linked_befallen {d : Desk} (h : d.registry.Linked) (incidents : List Incident) :
    (d.befallen incidents).registry.Linked := by
  induction incidents generalizing d with
  | nil => exact h
  | cons incident rest ih => exact ih (d := d.befall incident) (continues_befall h incident).linked

/-- Files stay where they are. -/
theorem layout_befallen {d : Desk} (h : d.registry.Linked) (incidents : List Incident) :
    (d.befallen incidents).registry.layout = d.registry.layout := by
  induction incidents generalizing d with
  | nil => rfl
  | cons incident rest ih =>
    have hstep := continues_befall h incident
    exact (ih (d := d.befall incident) hstep.linked).trans hstep.layout

/-- **The numbers in use are always those of holdings.** -/
theorem linked_chronicle (layout : Layout) (passes : Int) (disk : Disk)
    (incidents : List Incident) : (chronicle layout passes disk incidents).registry.Linked :=
  linked_befallen (Registry.linked_fresh layout passes) incidents

end Desk

end Allotment
