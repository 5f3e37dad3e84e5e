import Allotment.Proofs.Placement.Room
import Allotment.Proofs.Registry.Opening

/-!
# Holdings are placed and found again

A registrant without a holding gets one, and it is saved before its number is returned. A
registrant with a holding keeps it: whatever sizes are asked for, the holding is found to be sound,
and never placed anew.

* `onward_issue` — **PROVED**: a holding that has room in both spaces goes on from the table;
* `Registry.search` — where the search puts a window;
* `ends_placeHolding_of_search`, `ends_placeHolding_of_room`, `ends_placeHolding` — **PROVED**: placing
  taken apart: no room, or a newcomer and a saved ledger;
* `follows_getOrCreate` — **PROVED**: `getOrCreate` is a turn, and the number that it returns is the
  one in the table;
* `ends_getOrCreate`, `ends_getOrCreate_of_open` — **PROVED**: `getOrCreate` taken apart: what is wanted,
  the registry opened, the holding found or placed;
* `ends_findHolding_of_sound`, `ends_findHolding_of_unsound`, `ends_findHolding_of_new` — **PROVED**: a
  sound holding is found, any other is placed anew, and so is a newcomer's.
-/

namespace Allotment

/-! ### Checks in a row -/

section Checks

variable {α β : Type} {x : Except Failure α} {next : α → Except Failure β}

theorem bind_eq_ok {y : β} (h : x >>= next = .ok y) : ∃ a, x = .ok a ∧ next a = .ok y := by
  cases x with
  | error f => cases h
  | ok a => exact ⟨a, rfl, h⟩

theorem bind_eq_error {f : Failure} (h : x >>= next = .error f) :
    x = .error f ∨ ∃ a, x = .ok a ∧ next a = .error f := by
  cases x with
  | error g =>
    obtain rfl : g = f := Except.error.inj h
    exact Or.inl rfl
  | ok a => exact Or.inr ⟨a, rfl, h⟩

end Checks

/-! ### Failures that are no failures of writing -/

theorem Registrant.ofWriting_ofArgument {name : Argument} {f : Failure}
    (h : Registrant.ofArgument name = .error f) : f.ofWriting = false := by
  unfold Registrant.ofArgument Registrant.ofText at h
  split at h
  · split at h
    · cases h
    · obtain rfl := Except.error.inj h
      rfl
    · obtain rfl := Except.error.inj h
      rfl
  · obtain rfl := Except.error.inj h
    rfl

theorem Layout.ofWriting_rosterPath {l : Layout} {registrant : String} {f : Failure}
    (h : l.rosterPath registrant = .error f) : f.ofWriting = false := by
  unfold Layout.rosterPath at h
  simp only at h
  split at h
  · obtain rfl := Except.error.inj h
    rfl
  · cases h

theorem Argument.ofWriting_toSize {x : Argument} {f : Failure} (h : x.toSize = .error f) :
    f.ofWriting = false := by
  unfold Argument.toSize at h
  split at h <;> try cases h
  all_goals try rfl
  split at h
  · cases h
  · obtain rfl := Except.error.inj h
    rfl
  · obtain rfl := Except.error.inj h
    rfl

theorem Desk.ofWriting_requestedSize {space : Space} {size : Argument} {f : Failure}
    (h : Desk.requestedSize space size = .error f) : f.ofWriting = false := by
  unfold Desk.requestedSize at h
  split at h
  · cases h
  · cases hsize : size.toSize with
    | ok n =>
      rw [hsize] at h
      cases h
    | error g =>
      rw [hsize] at h
      obtain rfl := Except.error.inj h
      exact Argument.ofWriting_toSize hsize

theorem Placement.ofWriting_failure (refusal : Placement.Refusal) (z : Zone) (registrant : String)
    (size : Int) : (refusal.failure z registrant size).ofWriting = false := by
  cases refusal <;> exact Failure.ofWriting_met rfl

/-! ### A new holding -/

namespace Registry

/-- The windows of everybody are those of everybody but a newcomer. -/
theorem mem_windowsBut {r : Registry} {registrant : String}
    (hnew : Assoc.get? registrant r.table = none) {x : String × Holding} (hx : x ∈ r.entries)
    (s : Space) : (x.2.get s).window ∈ r.windowsBut registrant s := by
  have hne : x.1 ≠ registrant := by
    rintro rfl
    refine Assoc.get?_eq_none_iff.1 hnew ?_
    rw [← keys_entries]
    exact List.mem_map_of_mem hx
  exact List.mem_map.2 ⟨x, List.mem_filter.2 ⟨hx, decide_eq_true hne⟩, rfl⟩

/-- The holding of a newcomer, with nothing handed out yet. -/
def newHolding (registrant : String) (starts sizes : Both Int) : Holding :=
  ⟨⟨registrant, .a, starts.a, sizes.a, 0⟩, ⟨registrant, .b, starts.b, sizes.b, 0⟩⟩

theorem get_newHolding (registrant : String) (starts sizes : Both Int) (s : Space) :
    (newHolding registrant starts sizes).get s = ⟨registrant, s, starts.get s, sizes.get s, 0⟩ := by
  cases s <;> rfl

/-- **A holding that has room in both spaces** goes on from the table. -/
theorem onward_issue {r : Registry} (h : r.Lawful) (hopen : r.opened = true) {registrant : String}
    (hkey : Registrant.IsKey registrant) (hnew : Assoc.get? registrant r.table = none)
    {starts sizes : Both Int} (hroom : ∀ s : Space, Placement.HasRoom s.zone (sizes.get s)
      (r.windowsBut registrant s) (starts.get s)) :
    r.Onward (r.issue registrant (newHolding registrant starts sizes)) := by
  have hget := get_newHolding registrant starts sizes
  have hfits : (newHolding registrant starts sizes).Fits registrant := by
    intro s
    have hpos := (Zone.contains_iff _).1 (hroom s).1
    rw [hget s]
    refine ⟨rfl, rfl, (hroom s).1, Int.le_refl _, ?_⟩
    show 0 ≤ sizes.get s
    omega
  have hapart : ∀ x ∈ r.entries, (newHolding registrant starts sizes).Apart x.2 := by
    intro x hx s
    rw [hget s]
    exact Window.isFree_iff.1 (hroom s).2 _ (mem_windowsBut hnew hx s)
  refine ⟨h.issue hopen hnew hkey hfits hapart, rfl, id, ?_, fun _ _ _ _ hb => hb⟩
  intro other number hother
  refine ⟨get?_issue_of_some hnew hother _, ?_⟩
  have hsame : (r.issue registrant (newHolding registrant starts sizes)).holding number =
    r.holding number := holding_append (h.lt_of_get? hother) _
  rw [hsame]
  exact Holding.Advances.refl _

/-- Where the search puts the window of a registrant in a space. -/
def search (r : Registry) (registrant : String) (sizes : Both Int) (s : Space) :
    Except Placement.Refusal Placement.Place :=
  Placement.place s.zone r.passes (Placement.codePoints registrant) (sizes.get s)
    (r.windowsBut registrant s)

/-- Where the search puts a window, there is room. -/
theorem hasRoom_of_search {r : Registry} {registrant : String} {sizes : Both Int} {s : Space}
    {place : Placement.Place} (h : r.search registrant sizes s = .ok place) :
    Placement.HasRoom s.zone (sizes.get s) (r.windowsBut registrant s) place.start :=
  Placement.place_spec h

end Registry

namespace Desk

theorem ends_placeIn {d : Desk} {registrant : String} {sizes : Both Int} {space : Space}
    {Q : Reservation → Desk → Prop} {E : Failure → Desk → Prop}
    (hQ : ∀ place notices, d.registry.search registrant sizes space = .ok place →
      Q ⟨registrant, space, place.start, sizes.get space, 0⟩ { d with notices })
    (hE : ∀ refusal, d.registry.search registrant sizes space = .error refusal →
      E (refusal.failure space.zone registrant (sizes.get space)) d) :
    Ends d (placeIn registrant space (sizes.get space)) Q E := by
  unfold placeIn
  rw [ends_bind, ends_current]
  split
  · rename_i place hplace
    rw [ends_bind, ends_tell]
    exact hQ place _ hplace
  · rename_i refusal hrefusal
    exact hE refusal hrefusal

/-- What a registrant has once the holding is found or placed. -/
def Holds (d : Desk) (registrant : String) (number : Nat) (e : Desk) : Prop :=
  Assoc.get? registrant e.registry.table = some number ∧ e.registry.opened = true ∧
    e.registry.closed = false ∧ e.registry.allocators = d.registry.allocators

/-- **Placing taken apart:** a window that is refused leaves the registry, the window in the first
space being tried first; otherwise the newcomer is taken into the table and the ledger is saved. -/
theorem ends_placeHolding_of_search {d : Desk} (hclosed : d.registry.closed = false)
    {registrant : String} {sizes : Both Int} {Q : Nat → Desk → Prop} {E : Failure → Desk → Prop}
    (hplaced : ∀ (places : Both Placement.Place) notices,
      (∀ s, d.registry.search registrant sizes s = .ok (places.get s)) →
      Ends ⟨d.registry.issue registrant
        (Registry.newHolding registrant (places.map Placement.Place.start) sizes), d.disk, notices⟩
        saveLedger (fun _ e => Q d.registry.holdings.length e) E)
    (hA : ∀ refusal, d.registry.search registrant sizes .a = .error refusal →
      E (refusal.failure Space.a.zone registrant sizes.a) d)
    (hB : ∀ place refusal notices, d.registry.search registrant sizes .a = .ok place →
      d.registry.search registrant sizes .b = .error refusal →
        E (refusal.failure Space.b.zone registrant sizes.b) { d with notices }) :
    Ends d (placeHolding registrant sizes) Q E := by
  unfold placeHolding
  rw [ends_bind]
  show Ends d (placeIn registrant .a (sizes.get .a)) _ _
  refine ends_placeIn ?_ hA
  intro placeA noticesA hplaceA
  rw [ends_bind]
  show Ends _ (placeIn registrant .b (sizes.get .b)) _ _
  refine ends_placeIn ?_ fun refusal => hB placeA refusal noticesA hplaceA
  intro placeB noticesB hplaceB
  have hsearch : ∀ s, d.registry.search registrant sizes s =
      .ok ((⟨placeA, placeB⟩ : Both Placement.Place).get s) := by
    intro s
    cases s with
    | a => exact hplaceA
    | b => exact hplaceB
  rw [ends_bind, ends_current, ends_bind, ends_update, ends_bind, ends_tell, ends_bind]
  refine ends_persist ?_ ?_
  · exact hclosed
  · exact hplaced ⟨placeA, placeB⟩ _ hsearch

/-- The same, for whoever asks only whether there is room. -/
theorem ends_placeHolding_of_room {d : Desk} (hclosed : d.registry.closed = false)
    {registrant : String} {sizes : Both Int} {Q : Nat → Desk → Prop} {E : Failure → Desk → Prop}
    (hplaced : ∀ starts notices, (∀ s : Space, Placement.HasRoom s.zone (sizes.get s)
      (d.registry.windowsBut registrant s) (starts.get s)) →
      Ends ⟨d.registry.issue registrant (Registry.newHolding registrant starts sizes), d.disk,
        notices⟩ saveLedger (fun _ e => Q d.registry.holdings.length e) E)
    (hA : ∀ refusal, d.registry.search registrant sizes .a = .error refusal →
      E (refusal.failure Space.a.zone registrant sizes.a) d)
    (hB : ∀ start refusal notices, Placement.HasRoom Space.a.zone sizes.a
      (d.registry.windowsBut registrant .a) start →
      d.registry.search registrant sizes .b = .error refusal →
        E (refusal.failure Space.b.zone registrant sizes.b) { d with notices }) :
    Ends d (placeHolding registrant sizes) Q E := by
  refine ends_placeHolding_of_search hclosed ?_ hA ?_
  · intro places notices hsearch
    refine hplaced (places.map Placement.Place.start) notices ?_
    intro s
    rw [Both.get_map]
    exact Registry.hasRoom_of_search (hsearch s)
  · intro place refusal notices hplace
    exact hB place.start refusal notices (Registry.hasRoom_of_search hplace)

/-- **Placing** either finds no room and changes nothing, or takes the newcomer into the table and
saves the ledger. -/
theorem ends_placeHolding {d : Desk} (h : d.registry.Lawful) (hopen : d.registry.opened = true)
    (hclosed : d.registry.closed = false) {registrant : String}
    (hkey : Registrant.IsKey registrant) (hnew : Assoc.get? registrant d.registry.table = none)
    (sizes : Both Int) {Q : Nat → Desk → Prop} {E : Failure → Desk → Prop}
    (hplaced : ∀ holding notices, d.registry.Onward (d.registry.issue registrant holding) →
      Ends ⟨d.registry.issue registrant holding, d.disk, notices⟩ saveLedger
        (fun _ e => Q d.registry.holdings.length e) E)
    (hrefused : ∀ f notices, f.ofWriting = false → E f { d with notices }) :
    Ends d (placeHolding registrant sizes) Q E := by
  refine ends_placeHolding_of_room hclosed ?_ ?_ ?_
  · intro starts notices hroom
    exact hplaced _ notices (Registry.onward_issue h hopen hkey hnew hroom)
  · intro refusal _
    exact hrefused _ d.notices (Placement.ofWriting_failure _ _ _ _)
  · intro start refusal notices _ _
    exact hrefused _ notices (Placement.ofWriting_failure _ _ _ _)

/-- **Placing is a turn,** and the number that it returns is the one in the table. -/
theorem follows_placeHolding {d : Desk} (h : d.registry.Lawful)
    (hopen : d.registry.opened = true) (hclosed : d.registry.closed = false) {registrant : String}
    (hkey : Registrant.IsKey registrant) (hnew : Assoc.get? registrant d.registry.table = none)
    (sizes : Both Int) :
    Follows d (placeHolding registrant sizes) fun number e => d.Holds registrant number e := by
  refine ends_placeHolding h hopen hclosed hkey hnew sizes ?_ fun _ _ _ => turn_of_notices h _ _
  intro holding notices ho
  refine (smooth_saveLedger h hopen ho rfl _).imp ?_ fun _ _ hf => hf
  rintro _ e ⟨hsaved, hturn⟩
  refine ⟨hturn, ?_⟩
  show d.Holds registrant d.registry.holdings.length e
  rw [Holds, hsaved.registry]
  exact ⟨Assoc.get?_put_self _ _ _, hopen, hclosed, rfl⟩

/-! ### Finding a holding or placing it -/

/-- What is wanted of `getOrCreate`: a registrant whose roster has a path, and two sizes. -/
def wanted (l : Layout) (name sizeA sizeB : Argument) : Except Failure (String × Both Int) := do
  let registrant ← Registrant.ofArgument name
  let _ ← l.rosterPath registrant
  let a ← requestedSize .a sizeA
  let b ← requestedSize .b sizeB
  return (registrant, ⟨a, b⟩)

/-- The holding of a registrant in an open registry, found or placed. -/
def findHolding (registrant : String) (sizes : Both Int) : Act Nat := do
  let r ← current
  match Assoc.get? registrant r.table with
  | some number =>
    if r.isSound registrant (r.holding number) then
      tell [.debug .registry s!"Reusing reservation for '{registrant}'"]
      return number
    else
      tell [.warning .registry
        s!"Reservation for '{registrant}' is invalid or conflicting; reassigning"]
      update fun r => r.withdraw registrant
      placeHolding registrant sizes
  | none => placeHolding registrant sizes

/-- `getOrCreate` looks at what is wanted, opens the registry, and then finds or places the
holding. -/
theorem ends_getOrCreate {d : Desk} {name sizeA sizeB : Argument} {Q : Nat → Desk → Prop}
    {E : Failure → Desk → Prop} :
    Ends d (getOrCreate name sizeA sizeB) Q E ↔
      match wanted d.registry.layout name sizeA sizeB with
      | .error f => E f d
      | .ok (registrant, sizes) =>
        Ends d openLedger (fun _ e => Ends e (findHolding registrant sizes) Q E) E := by
  unfold getOrCreate wanted
  rw [ends_bind, ends_check]
  cases Registrant.ofArgument name with
  | error f => exact Iff.rfl
  | ok registrant =>
    simp only
    rw [ends_bind, ends_current, ends_bind, ends_check]
    cases hpath : d.registry.layout.rosterPath registrant with
    | error f =>
      simp only [bind, Except.bind, hpath]
    | ok p =>
      simp only
      rw [ends_bind, ends_check]
      cases hA : requestedSize .a sizeA with
      | error f => simp only [bind, Except.bind, hpath]
      | ok a =>
        simp only
        rw [ends_bind, ends_check]
        cases hB : requestedSize .b sizeB with
        | error f => simp only [bind, Except.bind, hpath]
        | ok b =>
          simp only [bind, Except.bind, hpath, pure, Except.pure]
          exact ends_bind _ _

/-- In an open registry the holding is found or placed at once. -/
theorem ends_getOrCreate_of_open {d : Desk} (hopen : d.registry.opened = true)
    (hclosed : d.registry.closed = false) {name sizeA sizeB : Argument} {Q : Nat → Desk → Prop}
    {E : Failure → Desk → Prop}
    (hrefused : ∀ f, wanted d.registry.layout name sizeA sizeB = .error f → E f d)
    (hwanted : ∀ registrant sizes,
      wanted d.registry.layout name sizeA sizeB = .ok (registrant, sizes) →
        Ends d (findHolding registrant sizes) Q E) : Ends d (getOrCreate name sizeA sizeB) Q E := by
  rw [ends_getOrCreate]
  split
  · rename_i f hf
    exact hrefused f hf
  · rename_i registrant sizes hw
    exact ends_openLedger_of_open hopen hclosed (hwanted registrant sizes hw)

/-- What is wanted is refused for a reason of its own. -/
theorem ofWriting_wanted {l : Layout} {name sizeA sizeB : Argument} {f : Failure}
    (h : wanted l name sizeA sizeB = .error f) : f.ofWriting = false := by
  rcases bind_eq_error h with hname | ⟨registrant, -, h⟩
  · exact Registrant.ofWriting_ofArgument hname
  rcases bind_eq_error h with hpath | ⟨p, -, h⟩
  · exact Layout.ofWriting_rosterPath hpath
  rcases bind_eq_error h with hA | ⟨a, -, h⟩
  · exact ofWriting_requestedSize hA
  rcases bind_eq_error h with hB | ⟨b, -, h⟩
  · exact ofWriting_requestedSize hB
  · cases h

/-- What is wanted is wanted for the registrant that the name stands for. -/
theorem wanted_eq_ok {l : Layout} {name sizeA sizeB : Argument} {registrant : String}
    {sizes : Both Int} (h : wanted l name sizeA sizeB = .ok (registrant, sizes)) :
    Registrant.ofArgument name = .ok registrant ∧ ∃ p, l.rosterPath registrant = .ok p := by
  obtain ⟨other, hname, h⟩ := bind_eq_ok h
  obtain ⟨p, hpath, h⟩ := bind_eq_ok h
  obtain ⟨a, -, h⟩ := bind_eq_ok h
  obtain ⟨b, -, h⟩ := bind_eq_ok h
  obtain rfl : other = registrant := (Prod.mk.inj (Except.ok.inj h)).1
  exact ⟨hname, p, hpath⟩

/-- It does not matter how the registrant is named. -/
theorem wanted_of_ofArgument {name : Argument} {registrant : String}
    (hname : Registrant.ofArgument name = .ok registrant) (l : Layout) (sizeA sizeB : Argument) :
    wanted l (.text registrant) sizeA sizeB = wanted l name sizeA sizeB := by
  have hkey : Registrant.ofArgument (.text registrant) = .ok registrant :=
    Registrant.ofArgument_key (Registrant.isKey_of_ofArgument hname)
  rw [wanted, wanted, hkey, hname]

/-- With the usual names of the files, every registrant may want sizes that are numbers. -/
theorem wanted_usual (dir : Path) {name : Argument} {registrant : String}
    (hname : Registrant.ofArgument name = .ok registrant) (a b : Int) :
    ∃ sizes, wanted { dir } name (.int a) (.int b) = .ok (registrant, sizes) := by
  obtain ⟨p, hpath⟩ := Layout.rosterPath_usual dir (Registrant.isKey_of_ofArgument hname)
  refine ⟨⟨Space.a.zone.clampSize a, Space.b.zone.clampSize b⟩, ?_⟩
  unfold wanted
  rw [hname]
  simp only [bind, Except.bind, hpath]
  rfl

/-- A holding that is sound is found. -/
theorem ends_findHolding_of_sound {d : Desk} {registrant : String} {number : Nat}
    (hget : Assoc.get? registrant d.registry.table = some number)
    (hsound : d.registry.isSound registrant (d.registry.holding number) = true) (sizes : Both Int)
    {Q : Nat → Desk → Prop} {E : Failure → Desk → Prop} :
    Ends d (findHolding registrant sizes) Q E ↔ Q number { d with
      notices := d.notices ++ [.debug .registry s!"Reusing reservation for '{registrant}'"] } := by
  unfold findHolding
  rw [ends_bind, ends_current, hget]
  simp only
  rw [if_pos hsound, ends_bind, ends_tell]
  exact Iff.rfl

/-- A holding that is not sound is taken out of the table, and then placed anew. -/
theorem ends_findHolding_of_unsound {d : Desk} {registrant : String} {number : Nat}
    (hget : Assoc.get? registrant d.registry.table = some number)
    (hsound : d.registry.isSound registrant (d.registry.holding number) = false) (sizes : Both Int)
    {Q : Nat → Desk → Prop} {E : Failure → Desk → Prop}
    (h : ∀ notices, Ends ⟨d.registry.withdraw registrant, d.disk, notices⟩
      (placeHolding registrant sizes) Q E) : Ends d (findHolding registrant sizes) Q E := by
  unfold findHolding
  rw [ends_bind, ends_current, hget]
  simp only
  rw [if_neg (by simp [hsound]), ends_bind, ends_tell, ends_bind, ends_update]
  exact h _

/-- A newcomer is placed. -/
theorem ends_findHolding_of_new {d : Desk} {registrant : String}
    (hnew : Assoc.get? registrant d.registry.table = none) (sizes : Both Int)
    {Q : Nat → Desk → Prop} {E : Failure → Desk → Prop} :
    Ends d (findHolding registrant sizes) Q E ↔ Ends d (placeHolding registrant sizes) Q E := by
  unfold findHolding
  rw [ends_bind, ends_current, hnew]

/-- **A registrant in the table is found,** and nothing is placed anew. -/
theorem ends_findHolding {d : Desk} (h : d.registry.Lawful) {registrant : String} {number : Nat}
    (hget : Assoc.get? registrant d.registry.table = some number) (sizes : Both Int)
    {Q : Nat → Desk → Prop} {E : Failure → Desk → Prop} :
    Ends d (findHolding registrant sizes) Q E ↔ Q number { d with
      notices := d.notices ++ [.debug .registry s!"Reusing reservation for '{registrant}'"] } :=
  ends_findHolding_of_sound hget (h.isSound hget) sizes

/-- **`getOrCreate` is a turn,** and the number that it returns is the one in the table. -/
theorem follows_getOrCreate {d : Desk} (h : d.registry.Lawful) (name sizeA sizeB : Argument) :
    Follows d (getOrCreate name sizeA sizeB) fun number e =>
      ∃ registrant, Registrant.ofArgument name = .ok registrant ∧ d.Holds registrant number e := by
  rw [Follows, ends_getOrCreate]
  cases hwanted : wanted d.registry.layout name sizeA sizeB with
  | error f => exact (Turn.refl h _).imp fun _ => ofWriting_wanted hwanted
  | ok want =>
    obtain ⟨registrant, sizes⟩ := want
    obtain ⟨hname, -⟩ := wanted_eq_ok hwanted
    have hkey := Registrant.isKey_of_ofArgument hname
    simp only
    refine Ends.imp (follows_openLedger h) ?_ fun _ _ hf => hf
    rintro _ e ⟨hturn, hopen, hclosed, hall⟩
    have he := hturn.registry.lawful
    cases hget : Assoc.get? registrant e.registry.table with
    | some number =>
      rw [ends_findHolding he hget]
      exact ⟨hturn.trans (turn_of_notices he _ _), registrant, hname, hget, hopen, hclosed, hall⟩
    | none =>
      rw [ends_findHolding_of_new hget]
      have hplaced := follows_placeHolding he hopen hclosed hkey hget sizes
      refine Ends.imp hplaced ?_ fun _ _ hf => hturn.trans hf
      rintro number f ⟨hturn', hget', hopen', hclosed', hall'⟩
      exact ⟨hturn.trans hturn', registrant, hname, hget', hopen', hclosed', hall'.trans hall⟩

end Desk

end Allotment
