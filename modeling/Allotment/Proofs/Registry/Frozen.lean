import Allotment.Proofs.Disk.Frame
import Allotment.Proofs.Registry.Invariants

/-!
# A closed registry

A closed registry says what it knows, and refuses everything that would change it. There is one
exception: saving a roster does not ask whether the registry is closed, so it still writes.

* `Registry.known?` — what memory alone answers: the id under a bound name, an allocator that is
  there, and that a closed registry is closed;
* `Registry.checked` — what is wrong with the arguments of a request;
* `serve_of_known` — **PROVED**: what memory answers is answered at once, before closing and after;
* `serve_of_closed` — **PROVED**: a closed registry answers what it knows, or says what is wrong with
  the arguments, or that it is closed, and stays at its desk as it was;
* `saved_saveRoster` — **PROVED**: saving a roster leaves the registry and every other file;
* `registry_behind_of_closed` — **PROVED**: nothing that befalls a closed registry changes it, and so
  nothing that befalls it later (`registry_events_of_closed`);
* `frozen_iff` — **PROVED**: after closing, a request changes a file just if it saves a roster that
  is not there with the same bytes, and then it is that roster.
-/

namespace Allotment

namespace Registry

variable (r : Registry)

/-- What memory alone answers. -/
def known? : Request → Option Reply
  | .allocatorFor name _ _ =>
    match Registrant.ofArgument name with
    | .ok registrant => (r.allocator? registrant).map fun _ => .allocator registrant
    | .error _ => none
  | .allocate registrant name space =>
    match r.allocator? registrant with
    | some al =>
      match al.lookup name space with
      | .ok found => found.map Reply.id
      | .error _ => none
    | none => none
  | .close => if r.closed then some .done else none
  | _ => none

/-- What is wrong with the arguments of a request, whatever state the registry is in. -/
def checked : Request → Except Failure Unit
  | .getOrCreate name sizeA sizeB => (Desk.wanted r.layout name sizeA sizeB).map fun _ => ()
  | .allocatorFor name sizeA sizeB => (Desk.wanted r.layout name sizeA sizeB).map fun _ => ()
  | .allocate registrant name space =>
    match r.allocator? registrant with
    | some al => (al.lookup name space).bind fun _ => (IdName.ofArgument name).map fun _ => ()
    | none => .error (.noAllocator registrant)
  | _ => .ok ()

end Registry

namespace Desk

open Disk (SameContents touches_replace touches_store_error sameContents_replace_iff)

/-- What a closed registry does when it is asked for anything but a roster to be saved. -/
def refused (d : Desk) (request : Request) : EStateM.Result Failure Desk Reply :=
  match d.registry.known? request with
  | some reply => .ok reply d
  | none =>
    match d.registry.checked request with
    | .error f => .error f d
    | .ok () => .error (.registryClosed d.registry.layout.ledgerPath.text) d

/-- Whether a request saves a roster that is not on the disk with the same bytes. -/
def Rewrites (d : Desk) (request : Request) : Prop :=
  ∃ registrant al disk, request = .saveRoster registrant ∧
    d.registry.allocator? registrant = some al ∧
    d.disk.store al.path (al.rosterText d.registry) = (.ok (), disk) ∧
    ¬∃ loc, disk.locate al.path = .ok loc ∧
      d.disk.node? loc = some (.file (Text.encodeUtf8 (al.roster d.registry)))

variable {d : Desk}

/-! ### What is known -/

/-- An allocator that is there is found at once. -/
theorem ends_allocatorFor_of_known {name sizeA sizeB : Argument} {reply : Reply}
    (h : d.registry.known? (.allocatorFor name sizeA sizeB) = some reply) {E : Failure → Desk → Prop} :
    Ends d (allocatorFor name sizeA sizeB) (fun k e => .allocator k = reply ∧ e = d) E := by
  simp only [Registry.known?] at h
  unfold allocatorFor
  rw [ends_bind, ends_check]
  cases hname : Registrant.ofArgument name with
  | error f =>
    rw [hname] at h
    cases h
  | ok registrant =>
    rw [hname] at h
    obtain ⟨al, hal, hreply⟩ := Option.map_eq_some_iff.1 h
    simp only
    rw [ends_bind, ends_current, hal]
    exact ⟨hreply, rfl⟩

/-- The id under a bound name is found at once. -/
theorem ends_allocate_of_known {registrant : String} {name space : Argument} {reply : Reply}
    (h : d.registry.known? (.allocate registrant name space) = some reply)
    {E : Failure → Desk → Prop} :
    Ends d (allocate registrant name space) (fun id e => .id id = reply ∧ e = d) E := by
  simp only [Registry.known?] at h
  unfold allocate allocator
  rw [ends_bind, ends_bind, ends_current]
  cases hal : d.registry.allocator? registrant with
  | none =>
    rw [hal] at h
    cases h
  | some al =>
    rw [hal] at h
    simp only at h ⊢
    rw [ends_pure, ends_bind, ends_check]
    cases hlookup : al.lookup name space with
    | error f =>
      rw [hlookup] at h
      cases h
    | ok found =>
      rw [hlookup] at h
      obtain ⟨id, rfl, hreply⟩ := Option.map_eq_some_iff.1 h
      exact ⟨hreply, rfl⟩

/-- **What memory answers is answered at once,** and nothing changes. -/
theorem serve_of_known {request : Request} {reply : Reply}
    (h : d.registry.known? request = some reply) : serve request d = .ok reply d := by
  apply eq_ok_of_ends
  cases request with
  | openLedger => cases h
  | getOrCreate name sizeA sizeB => cases h
  | saveRoster registrant => cases h
  | persist => cases h
  | close =>
    simp only [Registry.known?] at h
    split at h
    · rename_i hclosed
      show Ends d (close >>= fun _ => pure Reply.done) _ _
      unfold close
      rw [ends_bind, ends_bind, ends_current, hclosed]
      exact ⟨Option.some.inj h, rfl⟩
    · cases h
  | allocatorFor name sizeA sizeB =>
    show Ends d (allocatorFor name sizeA sizeB >>= fun k => pure (Reply.allocator k)) _ _
    rw [ends_bind]
    exact ends_allocatorFor_of_known h
  | allocate registrant name space =>
    show Ends d (allocate registrant name space >>= fun id => pure (Reply.id id)) _ _
    rw [ends_bind]
    exact ends_allocate_of_known h

/-! ### What is refused -/

section Closed

variable (hclosed : d.registry.closed = true)
include hclosed

/-- Nothing is found or placed any more. -/
theorem ends_getOrCreate_of_closed {name sizeA sizeB : Argument} {Q : Nat → Desk → Prop}
    {E : Failure → Desk → Prop}
    (h : match (wanted d.registry.layout name sizeA sizeB).map fun _ => () with
      | .error f => E f d
      | .ok () => E (.registryClosed d.registry.layout.ledgerPath.text) d) :
    Ends d (getOrCreate name sizeA sizeB) Q E := by
  rw [ends_getOrCreate]
  cases hwanted : wanted d.registry.layout name sizeA sizeB with
  | error f =>
    rw [hwanted] at h
    exact h
  | ok want =>
    rw [hwanted] at h
    exact ends_openLedger_of_closed hclosed h

/-- Nobody gets an allocator who has none. -/
theorem ends_allocatorFor_of_closed {name sizeA sizeB : Argument}
    (hknown : d.registry.known? (.allocatorFor name sizeA sizeB) = none) {Q : String → Desk → Prop}
    {E : Failure → Desk → Prop}
    (h : match (wanted d.registry.layout name sizeA sizeB).map fun _ => () with
      | .error f => E f d
      | .ok () => E (.registryClosed d.registry.layout.ledgerPath.text) d) :
    Ends d (allocatorFor name sizeA sizeB) Q E := by
  simp only [Registry.known?] at hknown
  unfold allocatorFor
  rw [ends_bind, ends_check]
  cases hname : Registrant.ofArgument name with
  | error f =>
    have hwanted : wanted d.registry.layout name sizeA sizeB = .error f := by
      rw [wanted, hname]
      rfl
    rw [hwanted] at h
    exact h
  | ok registrant =>
    rw [hname] at hknown
    have hnone : d.registry.allocator? registrant = none := Option.map_eq_none_iff.1 hknown
    simp only
    rw [ends_bind, ends_current, hnone]
    simp only
    rw [ends_bind]
    refine ends_getOrCreate_of_closed hclosed ?_
    rw [wanted_of_ofArgument hname]
    exact h

/-- No id is handed out any more. -/
theorem ends_allocate_of_closed {registrant : String} {name space : Argument}
    (hknown : d.registry.known? (.allocate registrant name space) = none) {Q : Int → Desk → Prop}
    {E : Failure → Desk → Prop}
    (h : match d.registry.checked (.allocate registrant name space) with
      | .error f => E f d
      | .ok () => E (.registryClosed d.registry.layout.ledgerPath.text) d) :
    Ends d (allocate registrant name space) Q E := by
  simp only [Registry.known?, Registry.checked] at hknown h
  unfold allocate allocator
  rw [ends_bind, ends_bind, ends_current]
  cases hal : d.registry.allocator? registrant with
  | none =>
    rw [hal] at h
    exact h
  | some al =>
    rw [hal] at hknown h
    simp only at hknown h ⊢
    rw [ends_pure, ends_bind, ends_check]
    cases hlookup : al.lookup name space with
    | error f =>
      rw [hlookup] at h
      exact h
    | ok found =>
      rw [hlookup] at hknown h
      obtain rfl : found = none := Option.map_eq_none_iff.1 hknown
      obtain ⟨s, -, hspace, -⟩ := lookup_eq_ok hlookup
      simp only
      rw [ends_bind, ends_check, hspace]
      simp only
      rw [ends_bind, ends_check]
      cases hkey : IdName.ofArgument name with
      | error f =>
        rw [hkey] at h
        exact h
      | ok key =>
        rw [hkey] at h
        simp only
        unfold grant
        rw [ends_bind, ends_ensureWritable, if_pos hclosed]
        exact h

/-- What is not known is refused: because of the arguments, or because the registry is closed. -/
theorem ends_serve_of_closed {request : Request}
    (hroster : ∀ registrant, request ≠ .saveRoster registrant)
    (hknown : d.registry.known? request = none) {Q : Reply → Desk → Prop}
    {E : Failure → Desk → Prop}
    (h : match d.registry.checked request with
      | .error f => E f d
      | .ok () => E (.registryClosed d.registry.layout.ledgerPath.text) d) :
    Ends d (serve request) Q E := by
  cases request with
  | openLedger =>
    show Ends d (openLedger >>= fun _ => pure Reply.done) Q E
    rw [ends_bind]
    exact ends_openLedger_of_closed hclosed h
  | getOrCreate name sizeA sizeB =>
    show Ends d (getOrCreate name sizeA sizeB >>= fun n => pure (Reply.holding n)) Q E
    rw [ends_bind]
    exact ends_getOrCreate_of_closed hclosed h
  | allocatorFor name sizeA sizeB =>
    show Ends d (allocatorFor name sizeA sizeB >>= fun k => pure (Reply.allocator k)) Q E
    rw [ends_bind]
    exact ends_allocatorFor_of_closed hclosed hknown h
  | allocate registrant name space =>
    show Ends d (allocate registrant name space >>= fun id => pure (Reply.id id)) Q E
    rw [ends_bind]
    exact ends_allocate_of_closed hclosed hknown h
  | saveRoster registrant => exact absurd rfl (hroster registrant)
  | persist =>
    show Ends d (persist >>= fun _ => pure Reply.done) Q E
    unfold persist
    rw [ends_bind, ends_bind, ends_ensureWritable, if_pos hclosed]
    exact h
  | close =>
    simp only [Registry.known?, if_pos hclosed] at hknown
    cases hknown

/-- **A closed registry answers what it knows,** or says what is wrong with the arguments, or that it
is closed. In each case its desk is as it was. -/
theorem serve_of_closed {request : Request}
    (hroster : ∀ registrant, request ≠ .saveRoster registrant) :
    serve request d = d.refused request := by
  unfold refused
  cases hknown : d.registry.known? request with
  | some reply => exact serve_of_known hknown
  | none =>
    have hends := fun E => ends_serve_of_closed hclosed hroster hknown
      (Q := fun _ _ => False) (E := E)
    cases hchecked : d.registry.checked request with
    | error f =>
      rw [hchecked] at hends
      exact eq_error_of_ends (hends _ ⟨rfl, rfl⟩)
    | ok done =>
      rw [hchecked] at hends
      exact eq_error_of_ends (hends _ ⟨rfl, rfl⟩)

theorem after_of_closed {request : Request}
    (hroster : ∀ registrant, request ≠ .saveRoster registrant) : d.after request = d := by
  rw [after, serve_of_closed hclosed hroster, refused]
  split
  · rfl
  · split <;> rfl

end Closed

/-! ### Rosters -/

/-- What a request leaves that saves a roster, or that leaves everything: the registry, and all files
but a roster that was not there with the same bytes. -/
structure Saved (d : Desk) (request : Request) (e : Desk) : Prop where
  registry : e.registry = d.registry
  same_iff : SameContents d.disk e.disk ↔ ¬d.Rewrites request
  changed : ∀ loc bytes,
    ¬(e.disk.node? loc = some (.file bytes) ↔ d.disk.node? loc = some (.file bytes)) →
      ∃ registrant al, request = .saveRoster registrant ∧
        d.registry.allocator? registrant = some al ∧ e.disk.locate al.path = .ok loc

theorem Saved.of_same {request : Request} (h : ¬d.Rewrites request) : Saved d request d :=
  ⟨rfl, iff_of_true (fun _ _ => Iff.rfl) h, fun _ _ hchanged => absurd Iff.rfl hchanged⟩

/-- A write is what a request rewrites, if it goes through and the bytes are new. -/
theorem rewrites_iff {registrant : String} {al : Allocator}
    (hal : d.registry.allocator? registrant = some al) {result : Except WriteFault Unit}
    {disk : Disk} (hwrite : d.disk.store al.path (al.rosterText d.registry) = (result, disk)) :
    d.Rewrites (.saveRoster registrant) ↔ result = .ok () ∧ ¬∃ loc, disk.locate al.path = .ok loc ∧
      d.disk.node? loc = some (.file (Text.encodeUtf8 (al.roster d.registry))) := by
  constructor
  · rintro ⟨other, al', disk', hrequest, hal', hwrite', hnew⟩
    obtain rfl := Request.saveRoster.inj hrequest
    obtain rfl : al = al' := Option.some.inj (hal.symm.trans hal')
    obtain ⟨rfl, rfl⟩ := Prod.mk.inj (hwrite.symm.trans hwrite')
    exact ⟨rfl, hnew⟩
  · rintro ⟨rfl, hnew⟩
    exact ⟨registrant, al, disk, rfl, hal, hwrite, hnew⟩

/-- **Saving a roster** leaves the registry and every other file, whether the registry is closed or
not. -/
theorem saved_saveRoster (d : Desk) (registrant : String) :
    Saved d (.saveRoster registrant) (d.after (.saveRoster registrant)) := by
  apply Ends.left (P := Saved d (.saveRoster registrant))
  show Ends d (saveRoster registrant >>= fun _ => pure Reply.done) _ _
  rw [ends_bind]
  cases hal : d.registry.allocator? registrant with
  | none =>
    rw [ends_saveRoster_of_none hal]
    refine .of_same ?_
    rintro ⟨other, al, -, hrequest, hother, -⟩
    obtain rfl := Request.saveRoster.inj hrequest
    rw [hal] at hother
    cases hother
  | some al =>
    refine ends_saveRoster_told hal ?_ ?_
    · intro disk hstore
      have hwrite := replace_of_storeRoster hstore
      have htouch := touches_replace d.disk al.path (Text.encodeUtf8 (al.roster d.registry))
      rw [hwrite] at htouch
      refine ⟨rfl, ?_, ?_⟩
      · rw [rewrites_iff hal hstore, sameContents_replace_iff hwrite]
        simp
      · intro loc bytes hchanged
        obtain ⟨p, hp, hloc⟩ := htouch.of_changed hchanged
        obtain rfl := List.mem_singleton.1 hp
        exact ⟨registrant, al, rfl, hal, hloc⟩
    · intro fault disk notices hwrite
      have hsame := (touches_store_error hwrite).sameContents
      refine ⟨rfl, iff_of_true hsame ?_, fun loc bytes hchanged => absurd (hsame loc bytes) hchanged⟩
      rw [rewrites_iff hal hwrite]
      rintro ⟨hok, -⟩
      cases hok

/-! ### What befalls a closed registry -/

/-- What closing leaves. -/
theorem registry_of_close {e : Desk} (h : close d = .ok () e) :
    e.registry = { d.registry with closed := true } := by
  have hends : Ends d close (fun _ e => e.registry = { d.registry with closed := true })
      fun _ _ => True := by
    unfold close
    rw [ends_bind, ends_current]
    cases hclosed : d.registry.closed with
    | true =>
      show d.registry = { d.registry with closed := true }
      rw [← hclosed]
    | false =>
      simp only [Bool.false_eq_true, if_false]
      split
      · rw [ends_bind]
        refine ends_saveLedger ?_ fun _ _ _ _ _ _ => trivial
        intro disk _
        rw [ends_update]
      · rw [ends_update]
  exact hends.of_ok h

/-- **A request leaves a closed registry,** and every file but a roster that it saves. -/
theorem saved_of_closed (hclosed : d.registry.closed = true) (request : Request) :
    Saved d request (d.after request) := by
  by_cases hroster : ∃ registrant, request = .saveRoster registrant
  · obtain ⟨registrant, rfl⟩ := hroster
    exact saved_saveRoster d registrant
  · rw [after_of_closed hclosed fun registrant hrequest => hroster ⟨registrant, hrequest⟩]
    exact .of_same fun ⟨registrant, _, _, hrequest, _⟩ => hroster ⟨registrant, hrequest⟩

theorem registry_behind_of_closed (hclosed : d.registry.closed = true) (event : Event) :
    (d.behind event).registry = d.registry := by
  cases event with
  | asked request => exact (saved_of_closed hclosed request).registry
  | edited disk => rfl

/-- **A closed registry stays what it is,** whatever befalls it. -/
theorem registry_events_of_closed (hclosed : d.registry.closed = true) (events : List Event) :
    (events.foldl behind d).registry = d.registry := by
  induction events generalizing d with
  | nil => rfl
  | cons event rest ih =>
    have hstep := registry_behind_of_closed hclosed event
    have hrest := ih (d := d.behind event) (by rw [hstep]; exact hclosed)
    exact hrest.trans hstep

/-- What a registry knows, it knows when it is closed. -/
theorem known?_closed {r : Registry} {request : Request} {reply : Reply}
    (h : r.known? request = some reply) :
    ({ r with closed := true } : Registry).known? request = some reply := by
  cases request with
  | close =>
    simp only [Registry.known?] at h
    split at h
    · exact h
    · cases h
  | openLedger => cases h
  | getOrCreate name sizeA sizeB => cases h
  | allocatorFor name sizeA sizeB => exact h
  | allocate registrant name space => exact h
  | saveRoster registrant => cases h
  | persist => cases h

/-- **After closing** nothing changes the registry any more, whatever is asked and whatever becomes of
the files: what it knew before it answers as before, and everything else it refuses, because of the
arguments or because it is closed. The exception is a roster that is saved: a request changes a file
just if it saves a roster that is not there with the same bytes, and it changes no other file. This
holds in any state whatever, so it does not matter what was done to the registry before. -/
theorem frozen_iff {d e : Desk} (hclose : close d = .ok () e) (later : List Event) :
    let f := later.foldl behind e
    f.registry = { d.registry with closed := true } ∧
      ∀ request,
        (f.after request).registry = f.registry ∧
          (SameContents f.disk (f.after request).disk ↔ ¬f.Rewrites request) ∧
          (∀ loc bytes, ¬((f.after request).disk.node? loc = some (.file bytes) ↔
            f.disk.node? loc = some (.file bytes)) →
              ∃ registrant al, request = .saveRoster registrant ∧
                d.registry.allocator? registrant = some al ∧
                (f.after request).disk.locate al.path = .ok loc) ∧
          ((∀ registrant, request ≠ .saveRoster registrant) →
            serve request f = f.refused request) ∧
          ∀ reply, d.registry.known? request = some reply →
            serve request d = .ok reply d ∧ serve request f = .ok reply f := by
  intro f
  have hregistry : e.registry = { d.registry with closed := true } := registry_of_close hclose
  have hlater : f.registry = { d.registry with closed := true } := by
    rw [← hregistry]
    exact registry_events_of_closed (by rw [hregistry]) later
  have hclosed : f.registry.closed = true := by rw [hlater]
  refine ⟨hlater, ?_⟩
  intro request
  have hsaved := saved_of_closed hclosed request
  refine ⟨hsaved.registry, hsaved.same_iff, ?_, serve_of_closed hclosed, ?_⟩
  · intro loc bytes hchanged
    have hfile := hsaved.changed loc bytes hchanged
    rw [hlater] at hfile
    exact hfile
  · intro reply hknown
    refine ⟨serve_of_known hknown, serve_of_known ?_⟩
    rw [hlater]
    exact known?_closed hknown

/-- A registrant's allocator hands out an id. -/
def busy : List Event :=
  [.asked (.allocatorFor (.text "alpha") .null .null),
    .asked (.allocate "alpha" (.text "first") (.space .a))]

/-- After closing, and although the files are gone, the id is still known, and nobody else is let
in. -/
theorem frozen_busy :
    ∃ e, close (history {} 2 {} busy) = .ok () e ∧
      serve (.allocate "alpha" (.text "first") (.space .a)) ({ e with disk := {} } : Desk) =
        .ok (.id 2856) { e with disk := {} } ∧
      serve (.getOrCreate (.text "beta") .null .null) ({ e with disk := {} } : Desk) =
        .error (.registryClosed "config/id/!reservations.cfg") { e with disk := {} } := by
  have hreturns : (history {} 2 {} busy).returns close (fun _ _ => true) = true := by
    decide +kernel
  have hlayout : (history {} 2 {} busy).registry.layout = {} := layout_history {} 2 {} busy
  have hknown : (history {} 2 {} busy).registry.known?
      (.allocate "alpha" (.text "first") (.space .a)) = some (.id 2856) := by
    decide +kernel
  have hwanted : wanted {} (.text "beta") .null .null = .ok ("beta", ⟨64, 256⟩) := by
    decide +kernel
  have hpath : ({} : Layout).ledgerPath.text = "config/id/!reservations.cfg" := by decide +kernel
  generalize history {} 2 {} busy = d at hreturns hlayout hknown ⊢
  cases hclose : close d with
  | error f e =>
    rw [returns, hclose] at hreturns
    cases hreturns
  | ok done e =>
    obtain ⟨hregistry, hrequest⟩ := frozen_iff hclose [.edited {}]
    refine ⟨e, rfl, ((hrequest _).2.2.2.2 _ hknown).2, ?_⟩
    have hrefused := (hrequest (.getOrCreate (.text "beta") .null .null)).2.2.2.1
      (fun _ hroster => nomatch hroster)
    refine hrefused.trans ?_
    have hlater : e.registry.layout = {} := by
      have hsame := congrArg Registry.layout hregistry
      exact hsame.trans hlayout
    unfold refused
    simp only [Registry.known?, Registry.checked, List.foldl, behind, hlater, hwanted, hpath,
      Except.map]

/-- An allocator whose roster was never saved is saved after closing: the file is new. -/
theorem not_frozen_saveRoster :
    ∃ e, close (history {} 2 {} [.asked (.allocatorFor (.text "alpha") .null .null)]) = .ok () e ∧
      e.disk.read ⟨.here, ["config", "id", "alpha.cfg"]⟩ = .ok none ∧
      (e.after (.saveRoster "alpha")).disk.read ⟨.here, ["config", "id", "alpha.cfg"]⟩ ≠
        .ok none := by
  have hreturns : (history {} 2 {} [.asked (.allocatorFor (.text "alpha") .null .null)]).returns
      close (fun _ e =>
        decide (e.disk.read ⟨.here, ["config", "id", "alpha.cfg"]⟩ = .ok none) &&
          decide ((e.after (.saveRoster "alpha")).disk.read
            ⟨.here, ["config", "id", "alpha.cfg"]⟩ ≠ .ok none)) = true := by
    decide +kernel
  generalize history {} 2 {} [.asked (.allocatorFor (.text "alpha") .null .null)] = d
    at hreturns ⊢
  cases hclose : close d with
  | error f e =>
    rw [returns, hclose] at hreturns
    cases hreturns
  | ok done e =>
    rw [returns, hclose, Bool.and_eq_true, decide_eq_true_eq, decide_eq_true_eq] at hreturns
    exact ⟨e, rfl, hreturns⟩

end Desk

end Allotment
