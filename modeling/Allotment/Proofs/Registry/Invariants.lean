import Allotment.Proofs.Registry.Serve

/-!
# What holds at every moment

A registry may be asked anything in any order, its writes may fail, and the files may be edited at
any time. What holds nevertheless is said here of every moment of every such history.

* `Event`, `Desk.history` — what befalls a desk, and the desk behind a list of events;
* `Registry.WellKept` — the table as one would have it: no two windows of a space share an id, every
  window lies in its space, every count is one of its window, every name is its own key;
* `wellKept_history` — **PROVED**: the table is always well kept. So a registrant in it is never placed
  anew, whatever sizes are asked for;
* `ids_apart_history` — **PROVED**: every id of an allocator is covered by the count of its
  registrant's window, and two names never share an id, whoever they belong to.
-/

namespace Allotment

/-- What befalls a desk. -/
inductive Event where
  | asked (request : Request)
  /-- Somebody changes the files, or the disk prepares other outages. -/
  | edited (disk : Disk)

namespace Desk

/-- The desk behind an event. -/
def behind (d : Desk) : Event → Desk
  | .asked request => d.after request
  | .edited disk => { d with disk }

/-- The desk of a new registry behind a list of events. -/
def history (layout : Layout) (passes : Int) (disk : Disk) (events : List Event) : Desk :=
  events.foldl behind (fresh layout passes disk)

/-- One event keeps a registry lawful: a request does, and the files are not the registry. -/
theorem lawful_behind {d : Desk} (h : d.registry.Lawful) (event : Event) :
    (d.behind event).registry.Lawful := by
  cases event with
  | asked request => exact (onward_after h request).registry.lawful
  | edited disk => exact h

theorem layout_behind {d : Desk} (h : d.registry.Lawful) (event : Event) :
    (d.behind event).registry.layout = d.registry.layout := by
  cases event with
  | asked request => exact (onward_after h request).registry.layout
  | edited disk => rfl

/-- **A registry is lawful at every moment.** -/
theorem lawful_history (layout : Layout) (passes : Int) (disk : Disk) (events : List Event) :
    (history layout passes disk events).registry.Lawful := by
  have hfold : ∀ (events : List Event) (d : Desk), d.registry.Lawful →
      (events.foldl behind d).registry.Lawful := by
    intro events
    induction events with
    | nil => exact fun d hd => hd
    | cons event rest ih => exact fun d hd => ih (d.behind event) (lawful_behind hd event)
  exact hfold events _ (Registry.lawful_fresh layout passes)

/-- The names of the files stay. -/
theorem layout_history (layout : Layout) (passes : Int) (disk : Disk) (events : List Event) :
    (history layout passes disk events).registry.layout = layout := by
  have hfold : ∀ (events : List Event) (d : Desk), d.registry.Lawful →
      (events.foldl behind d).registry.layout = d.registry.layout := by
    intro events
    induction events with
    | nil => exact fun d _ => rfl
    | cons event rest ih =>
      exact fun d hd => (ih (d.behind event) (lawful_behind hd event)).trans (layout_behind hd event)
  exact hfold events _ (Registry.lawful_fresh layout passes)

end Desk

/-! ### The table -/

/-- The table of a registry is as one would have it. -/
structure Registry.WellKept (r : Registry) : Prop where
  nodup : r.registrants.Nodup
  key : ∀ x ∈ r.entries, Registrant.key? x.1.toList = .ok x.1.toList
  owner : ∀ x ∈ r.entries, ∀ s, (x.2.get s).owner = x.1 ∧ (x.2.get s).space = s
  contained : ∀ x ∈ r.entries, ∀ s : Space,
    s.zone.contains (x.2.get s).start (x.2.get s).size = true
  counted : ∀ x ∈ r.entries, ∀ s, 0 ≤ (x.2.get s).used ∧ (x.2.get s).used ≤ (x.2.get s).size
  disjoint : ∀ x ∈ r.entries, ∀ y ∈ r.entries, x.1 ≠ y.1 → ∀ s id,
    (x.2.get s).window.Has id → ¬(y.2.get s).window.Has id

/-- A lawful registry keeps its table well. -/
theorem Registry.Lawful.wellKept {r : Registry} (h : r.Lawful) : r.WellKept where
  nodup := h.nodup
  key x hx := h.consistent.isKey x hx
  owner x hx s := ⟨(h.consistent.fits x hx s).owner_eq, (h.consistent.fits x hx s).space_eq⟩
  contained x hx s := (h.consistent.fits x hx s).contains
  counted x hx s := ⟨(h.consistent.fits x hx s).used_nonneg, (h.consistent.fits x hx s).used_le⟩
  disjoint _ hx _ hy hne _ _ hid hid' := hne (h.consistent.eq_of_has hx hy hid hid').1

namespace Desk

/-- **What becomes of a registrant in the table:** if what is wanted can be had and the registry is
not closed, the number of the holding is returned and a notice tells that it is used again.
Otherwise nothing happens. -/
theorem getOrCreate_of_mem {d : Desk} (h : d.registry.Lawful) {name : Argument}
    {registrant : String} (hname : Registrant.ofArgument name = .ok registrant) {number : Nat}
    (hget : Assoc.get? registrant d.registry.table = some number) (sizeA sizeB : Argument) :
    getOrCreate name sizeA sizeB d = match wanted d.registry.layout name sizeA sizeB with
      | .error f => .error f d
      | .ok _ =>
        if d.registry.closed then .error (.registryClosed d.registry.layout.ledgerPath.text) d
        else .ok number { d with
          notices := d.notices ++ [.debug .registry s!"Reusing reservation for '{registrant}'"] } := by
  have hopen := h.opened_of_get? hget
  cases hwanted : wanted d.registry.layout name sizeA sizeB with
  | error f =>
    refine eq_error_of_ends ?_
    rw [ends_getOrCreate, hwanted]
    exact ⟨rfl, rfl⟩
  | ok want =>
    obtain ⟨other, sizes⟩ := want
    have hother := (wanted_eq_ok hwanted).1
    rw [hname] at hother
    obtain rfl : registrant = other := Except.ok.inj hother
    cases hclosed : d.registry.closed with
    | true =>
      refine eq_error_of_ends ?_
      rw [ends_getOrCreate, hwanted]
      exact ends_openLedger_of_closed hclosed ⟨rfl, rfl⟩
    | false =>
      refine eq_ok_of_ends ?_
      rw [ends_getOrCreate, hwanted]
      refine ends_openLedger_of_open hopen hclosed ?_
      rw [ends_findHolding h hget]
      exact ⟨rfl, rfl⟩

/-- **The table is well kept at every moment,** whatever the files said and whatever was asked. So a
registrant in the table is given the same holding again, whatever sizes are asked for, and nothing
is placed anew. With the usual names of the files nothing is refused but what is no size. -/
theorem wellKept_history (layout : Layout) (passes : Int) (disk : Disk) (events : List Event) :
    let d := history layout passes disk events
    d.registry.WellKept ∧
      ∀ name registrant number, Registrant.ofArgument name = .ok registrant →
        Assoc.get? registrant d.registry.table = some number →
          (∀ sizeA sizeB, getOrCreate name sizeA sizeB d =
            match wanted layout name sizeA sizeB with
            | .error f => .error f d
            | .ok _ =>
              if d.registry.closed then .error (.registryClosed layout.ledgerPath.text) d
              else .ok number { d with notices := d.notices ++
                [.debug .registry s!"Reusing reservation for '{registrant}'"] }) ∧
          ∀ dir, layout = { dir } → ∀ a b : Int,
            ∃ sizes, wanted layout name (.int a) (.int b) = .ok (registrant, sizes) := by
  intro d
  have h : d.registry.Lawful := lawful_history layout passes disk events
  have hlayout : d.registry.layout = layout := layout_history layout passes disk events
  refine ⟨h.wellKept, ?_⟩
  intro name registrant number hname hget
  refine ⟨?_, ?_⟩
  · intro sizeA sizeB
    have hmem := getOrCreate_of_mem h hname hget sizeA sizeB
    rw [hlayout] at hmem
    exact hmem
  · rintro dir rfl a b
    exact wanted_usual dir hname a b

/-! ### The ids -/

/-- **Every id is its holder's alone, at every moment.** The ids of an allocator are covered by the
counts of its registrant's holding in the table, and two names never have the same id, be they of
one registrant or of two, in one space or in both. -/
theorem ids_apart_history (layout : Layout) (passes : Int) (disk : Disk) (events : List Event) :
    let r := (history layout passes disk events).registry
    (∀ registrant al, r.allocator? registrant = some al →
      ∃ h, r.holdingOf? registrant = some h ∧ ∀ s, ∀ x ∈ al.ids.get s,
        (h.get s).start ≤ x.2 ∧ x.2 < (h.get s).start + (h.get s).used) ∧
    ∀ k s name id j t other id', r.Binds k s name id → r.Binds j t other id' →
      (k, s, name) ≠ (j, t, other) → id ≠ id' := by
  intro r
  have h : r.Lawful := lawful_history layout passes disk events
  refine ⟨?_, ?_⟩
  · intro registrant al hal
    have hlawful := h.allocators registrant al hal
    refine ⟨r.holding al.holding, ?_, hlawful.covers⟩
    rw [Registry.holdingOf?, hlawful.holding]
    rfl
  · rintro k s name id j t other id' ⟨al, hal, hget⟩ ⟨al', hal', hget'⟩ hne rfl
    refine hne ?_
    have hlawful := h.allocators k al hal
    have hlawful' := h.allocators j al' hal'
    have hmem := Registry.mem_of_binds hget
    have hmem' := Registry.mem_of_binds hget'
    have hid := (hlawful.bound s).within (name, id) hmem
    have hid' := (hlawful'.bound t).within (other, id) hmem'
    -- the window tells whose the id is, and in which space
    obtain ⟨hsame, rfl⟩ := h.consistent.eq_of_has (Registry.mem_entries hlawful.holding)
      (Registry.mem_entries hlawful'.holding) hid hid'
    obtain rfl : k = j := hsame
    obtain rfl : al = al' := Option.some.inj (hal.symm.trans hal')
    have hpair := List.inj_on_of_nodup_map (hlawful.bound s).numbers hmem hmem' rfl
    rw [(Prod.mk.inj hpair).1]

end Desk

end Allotment
