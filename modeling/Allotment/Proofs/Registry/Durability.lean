import Allotment.Proofs.Registry.Invariants
import Allotment.Proofs.Registry.Lifetimes

/-!
# When an id is on file

An id is bound to a name in memory first, then the ledger is written, then the roster. So an id that
`allocate` returns is on file if it is a new one. If a write fails, the name stays bound, and a
repeated call finds it in memory and returns the id, although the roster does not have it.

* `Steady.filed` — **PROVED**: as long as no write fails, everything bound is on file;
* `allocate_after_failure` — **PROVED**: as soon as a write fails in `allocate`, the same call returns an
  id that is not on file;
* `onFile_iff_of_allocate` — **PROVED**: whatever has happened before, an id that is returned is on file
  if and only if its name was new or it was on file already;
* `durable_iff` — all this for every history.
-/

namespace Allotment

namespace Desk

/-! ### As long as no write fails -/

/-- At a steady desk everything bound is on file. -/
theorem Steady.filed {d : Desk} (h : d.Steady) (registrant : String) : d.Filed registrant := by
  rintro s name id ⟨al, hal, hget⟩
  have hopen := h.lawful.opened_of_allocator? hal
  have hmem := Registry.mem_of_binds hget
  have hadmitted := (h.inStep.rosters registrant al hal s (name, id)).1 hmem
  have hlisted := Roster.mem_listedIn.2 (Roster.mem_receive hadmitted)
  exact Registry.onFile_of_covers h.lawful hal (h.inStep.ledger hopen).2 hmem hlisted

/-- An id that `allocate` returns at a steady desk is on file. -/
theorem onFile_of_allocate {d e : Desk} (h : d.Steady) {registrant : String}
    {name space : Argument} {id : Int} (hact : allocate registrant name space d = .ok id e) :
    ∃ s key, space.toSpace = .ok s ∧ name = .text key ∧
      d.registry.layout.OnFile e.disk registrant s key id := by
  obtain ⟨hturn, al, s, key, hasks, hall⟩ :=
    Ends.of_ok (ends_allocate h.lawful registrant name space) hact
  have he : e.Steady := ⟨hturn.registry.lawful, hturn.inStep trivial h.inStep⟩
  have hfile := he.filed registrant s key id (hall.binds h.lawful hasks)
  rw [hturn.registry.layout] at hfile
  exact ⟨s, key, hasks.space_eq, hasks.name_eq, hfile⟩

/-! ### When a write fails -/

section Failure

variable {d e : Desk} (h : d.Steady) {registrant : String} {al : Allocator} {s : Space}
  {name : String} (hal : d.registry.allocator? registrant = some al)
  (hnew : Assoc.get? name (al.ids.get s) = none) (hlost : Lost d e registrant al s name)
include h hal hnew hlost

/-- The roster of a steady desk does not have a new name with the next id: both would have been
admitted, and neither was. -/
theorem not_onFile_of_lost : ¬d.registry.layout.OnFile e.disk registrant s name
    ((d.registry.holding al.holding).get s).nextId := by
  have hlawful := h.lawful.allocators registrant al hal
  have hfits := h.lawful.fits hlawful.holding s
  rintro ⟨hlisted, -⟩
  rw [hlost.listed h.inStep] at hlisted
  have hhas := Reservation.has_window_nextId hlost.room hfits.used_nonneg
  have hclash := Roster.clashes_admitted [] hlisted hhas
  rw [← Roster.receive_ids (d.registry.holding al.holding)] at hclash
  obtain ⟨x, hx, hsame⟩ := List.any_eq_true.1 hclash
  have hmem := (h.inStep.rosters registrant al hal s x).2 hx
  rw [Bool.or_eq_true, decide_eq_true_eq, decide_eq_true_eq] at hsame
  rcases hsame with hname | hid
  · refine Assoc.get?_eq_none_iff.1 hnew ?_
    have hkey : x.1 = name := hname
    rw [← hkey]
    exact List.mem_map_of_mem hmem
  · exact hlawful.ne_nextId hmem hid

omit hnew in
/-- The name is bound all the same. -/
theorem allocate_of_lost {space : Argument} (hspace : space.toSpace = .ok s) :
    allocate registrant (.text name) space e =
      .ok ((d.registry.holding al.holding).get s).nextId e := by
  have hal' := Registry.allocator?_granted h.lawful hal s name
  rw [← hlost.registry] at hal'
  refine (allocate_of_bound hal' ?_ hspace).2
  exact Registry.get?_grantee_self

end Failure

/-- **As soon as a write fails in `allocate`,** the same call returns an id that is not on file. -/
theorem allocate_after_failure {d e : Desk} (h : d.Steady) {registrant : String}
    {name space : Argument} {f : Failure} (hact : allocate registrant name space d = .error f e)
    (hwriting : f.ofWriting = true) :
    ∃ s key id, space.toSpace = .ok s ∧ name = .text key ∧
      allocate registrant name space e = .ok id e ∧
      ¬d.registry.layout.OnFile e.disk registrant s key id := by
  have hfailed := (Ends.of_error (ends_allocate h.lawful registrant name space) hact).2 hwriting
  obtain ⟨al, s, key, hasks, hnew, hlost⟩ := hfailed
  have hagain := allocate_of_lost h hasks.allocator hlost hasks.space_eq
  rw [← hasks.name_eq] at hagain
  exact ⟨s, key, _, hasks.space_eq, hasks.name_eq, hagain,
    not_onFile_of_lost h hasks.allocator hnew hlost⟩

/-! ### Exactly -/

/-- **An id that is returned is on file** if and only if its name was new or it was on file already.
With a new name, everything of the registrant comes to be on file. -/
theorem onFile_iff_of_allocate {d e : Desk} (h : d.registry.Lawful) (hl : d.registry.layout.Plain)
    {registrant : String} {name space : Argument} {id : Int}
    (hact : allocate registrant name space d = .ok id e) :
    ∃ s key, space.toSpace = .ok s ∧ name = .text key ∧ e.registry.Binds registrant s key id ∧
      (d.registry.layout.OnFile e.disk registrant s key id ↔
        (∀ other, ¬d.registry.Binds registrant s key other) ∨
          d.registry.layout.OnFile d.disk registrant s key id) ∧
      ((∀ other, ¬d.registry.Binds registrant s key other) → e.Filed registrant) := by
  obtain ⟨hturn, al, s, key, hasks, hall⟩ :=
    Ends.of_ok (ends_allocate h registrant name space) hact
  have hbinds := hall.binds h hasks
  refine ⟨s, key, hasks.space_eq, hasks.name_eq, hbinds, ?_⟩
  cases hall with
  | bound hget same =>
    subst same
    have hbound : ¬∀ other, ¬e.registry.Binds registrant s key other :=
      fun hnone => hnone id hbinds
    refine ⟨⟨Or.inr, ?_⟩, fun hnone => absurd hnone hbound⟩
    rintro (hnone | hfile)
    · exact absurd hnone hbound
    · exact hfile
  | granted hnew id_eq registry filed =>
    have hfile := filed hl s key id hbinds
    rw [hturn.registry.layout] at hfile
    refine ⟨⟨fun _ => Or.inl ?_, fun _ => hfile⟩, fun _ => filed hl⟩
    rintro other ⟨al', hal', hget⟩
    obtain rfl : al = al' := Option.some.inj (hasks.allocator.symm.trans hal')
    rw [hnew] at hget
    cases hget

/-- **When an id that `allocate` returns is on file.** Whatever has happened before: if and only if
its name was new or it was on file already. Then it stays on file whatever is asked, and with a new
name everything of the registrant is on file. If no write failed before, it is on file; and if a
write fails now, the same call returns it from memory although it is not. -/
theorem durable_iff {layout : Layout} (hl : layout.Plain) (passes : Int) (disk : Disk) :
    (∀ events registrant name space id e,
      allocate registrant name space (history layout passes disk events) = .ok id e →
      ∃ s key, space.toSpace = .ok s ∧ name = .text key ∧
        (layout.OnFile e.disk registrant s key id ↔
          (∀ other,
            ¬(history layout passes disk events).registry.Binds registrant s key other) ∨
          layout.OnFile (history layout passes disk events).disk registrant s key id) ∧
        ((∀ other,
          ¬(history layout passes disk events).registry.Binds registrant s key other) →
            e.Filed registrant) ∧
        (layout.OnFile e.disk registrant s key id → ∀ requests,
          layout.OnFile (e.run requests).disk registrant s key id)) ∧
    ∀ requests, (fresh layout passes disk).SmoothRun (requests.map .call) →
      ∀ registrant name space,
        Ends ((fresh layout passes disk).run requests) (allocate registrant name space)
          (fun id e => ∃ s key, space.toSpace = .ok s ∧ name = .text key ∧
            layout.OnFile e.disk registrant s key id)
          (fun f e => f.ofWriting = true →
            ∃ s key id, space.toSpace = .ok s ∧ name = .text key ∧
              allocate registrant name space e = .ok id e ∧
              ¬layout.OnFile e.disk registrant s key id) := by
  refine ⟨?_, ?_⟩
  · intro events registrant name space id e hact
    have h := lawful_history layout passes disk events
    have hlayout := layout_history layout passes disk events
    generalize history layout passes disk events = d at hact h hlayout
    subst hlayout
    obtain ⟨s, key, hspace, hname, hbinds, hiff, hfiled⟩ := onFile_iff_of_allocate h hl hact
    refine ⟨s, key, hspace, hname, hiff, hfiled, ?_⟩
    intro hfile requests
    have hturn := (Ends.of_ok (ends_allocate h registrant name space) hact).1
    have hlater := (onward_run hturn.registry.lawful requests).onFile
    rw [hturn.registry.layout] at hlater
    exact hlater hl registrant s key id hbinds hfile
  · intro requests hsmooth registrant name space
    have hsteady := steady_run (steady_fresh hl passes disk) hsmooth
    have hlayout := (onward_run (Registry.lawful_fresh layout passes) (d := fresh layout passes disk)
      requests).registry.layout
    generalize (fresh layout passes disk).run requests = d at hsteady hlayout
    have hlayout : d.registry.layout = layout := hlayout
    subst hlayout
    refine ends_of_forall ?_ ?_
    · exact fun id e hact => onFile_of_allocate hsteady hact
    · exact fun f e hact hwriting => allocate_after_failure hsteady hact hwriting

/-- A new registry that has made an allocator. -/
def ready (outages : List (Option Outage)) : Desk :=
  (fresh {} 2 { outages }).run [.allocatorFor (.text "alpha") .null .null]

set_option maxRecDepth 10000 in
/-- Its first id is on file when it is returned. -/
theorem durable_first :
    ({} : Layout).Plain ∧ ∃ id e, allocate "alpha" (.text "x") (.text "A") (ready []) = .ok id e ∧
      ({} : Layout).OnFile e.disk "alpha" .a "x" id := by
  have hplain : ({} : Layout).Plain := Layout.plain_usual _
  have hsmooth : (fresh {} 2 {}).SmoothRun [.call (.allocatorFor (.text "alpha") .null .null)] := by
    decide +kernel
  have hends := (durable_iff hplain 2 {}).2 [.allocatorFor (.text "alpha") .null .null] hsmooth
    "alpha" (.text "x") (.text "A")
  have hready : (fresh {} 2 {}).run [.allocatorFor (.text "alpha") .null .null] = ready [] := rfl
  have hreturns : (match allocate "alpha" (.text "x") (.text "A") (ready []) with
      | .ok _ _ => true
      | .error _ _ => false) = true := by
    decide +kernel
  rw [hready] at hends
  generalize ready [] = d at hends hreturns
  refine ⟨hplain, ?_⟩
  cases hact : allocate "alpha" (.text "x") (.text "A") d with
  | ok id e =>
    obtain ⟨s, key, hspace, hname, hfile⟩ := hends.of_ok hact
    obtain rfl : Space.a = s := Except.ok.inj hspace
    obtain rfl : "x" = key := Argument.text.inj hname
    exact ⟨id, e, rfl, hfile⟩
  | error f e =>
    rw [hact] at hreturns
    cases hreturns

/-- The same registry, after the disk has failed at the first roster. -/
def unsaved : Desk :=
  (ready [none, none, none, some ⟨.writing, true⟩]).after
    (.allocate "alpha" (.text "x") (.text "A"))

set_option maxRecDepth 10000 in
/-- The call that failed returns an id when it is repeated, although there is no roster. -/
theorem not_durable_repeated :
    allocate "alpha" (.text "x") (.text "A") unsaved = .ok 2856 unsaved ∧
      ¬({} : Layout).OnFile unsaved.disk "alpha" .a "x" 2856 := by
  have hbound : ((unsaved.registry.allocator? "alpha").bind fun al =>
      Assoc.get? "x" (al.ids.get .a)) = some 2856 := by
    decide +kernel
  have hlisted : ({} : Layout).listedAt unsaved.disk "alpha" = [] := by decide +kernel
  obtain ⟨al, hal, hget⟩ := Option.bind_eq_some_iff.1 hbound
  refine ⟨(allocate_of_bound hal hget rfl).2, ?_⟩
  rintro ⟨hmem, -⟩
  rw [hlisted] at hmem
  cases hmem

end Desk

end Allotment
