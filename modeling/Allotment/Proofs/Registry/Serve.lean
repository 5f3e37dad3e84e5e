import Allotment.Proofs.Registry.Allocating

/-!
# Every request is a turn

* `Request.Orderly` — a request that a registry may be asked at a desk: only an open registry is to
  be saved;
* `turn_serve` — **PROVED**: every orderly request is a turn, and a smooth one unless it fails in
  writing;
* `onward_after`, `onward_run` — **PROVED**: without exception, a desk is a later state of itself after
  a request, and so after any history.
-/

namespace Allotment

/-- A registry that was not opened has no table to be saved. -/
def Request.Orderly (request : Request) (d : Desk) : Prop :=
  request = .persist → d.registry.opened = true

namespace Desk

/-- A registry that is open is saved when it is closed. -/
theorem follows_close {d : Desk} (h : d.registry.Lawful) :
    Follows d close fun _ e => e.registry.closed = true := by
  have hclose : ∀ e : Desk, e.registry.Lawful →
      Turn True e { e with registry := { e.registry with closed := true } } := by
    intro e he
    have ho : e.registry.Onward { e.registry with closed := true } :=
      ⟨⟨he.consistent, he.issued, fun k al hal =>
        have hlawful := he.allocators k al hal
        ⟨hlawful.registrant_eq, hlawful.holding, hlawful.path, hlawful.bound, hlawful.covers,
          hlawful.storable⟩, he.unopened⟩, rfl, id,
        fun _ _ hget => ⟨hget, Holding.Advances.refl _⟩, fun _ _ _ _ hb => hb⟩
    exact ⟨.of_registry ho rfl, fun _ => .refl _, fun _ hs => ⟨hs.plain, hs.ledger, hs.rosters⟩,
      fun _ _ hg => ⟨hg.ledger, hg.table⟩⟩
  unfold close
  rw [Follows, ends_bind, ends_current]
  cases hclosed : d.registry.closed with
  | true => exact ⟨.refl h _, hclosed⟩
  | false =>
    simp only [Bool.false_eq_true, if_false]
    cases hopen : d.registry.opened with
    | false =>
      simp only [Bool.false_eq_true, if_false]
      rw [ends_update]
      exact ⟨hclose d h, rfl⟩
    | true =>
      rw [if_pos rfl, ends_bind]
      refine (smooth_saveLedger h hopen (.refl h) rfl d.notices).imp ?_ fun _ _ hf => hf
      rintro _ e ⟨-, hturn⟩
      rw [ends_update]
      exact ⟨hturn.trans (hclose e hturn.registry.lawful), rfl⟩

/-- **Every orderly request is a turn,** and a smooth one unless it fails in writing. -/
theorem turn_serve {d : Desk} (h : d.registry.Lawful) {request : Request}
    (horderly : request.Orderly d) : Follows d (serve request) fun _ _ => True := by
  have hdone : ∀ {α : Type} {act : Act α} {Q : α → Desk → Prop} (reply : α → Reply),
      Follows d act Q → Follows d (act >>= fun x => pure (reply x)) fun _ _ => True := by
    intro α act Q reply hact
    exact hact.bind fun _ e hturn _ => follows_pure hturn.registry.lawful trivial
  cases request with
  | openLedger => exact hdone (fun _ => .done) (follows_openLedger h)
  | getOrCreate name sizeA sizeB => exact hdone .holding (follows_getOrCreate h name sizeA sizeB)
  | allocatorFor name sizeA sizeB =>
    exact hdone .allocator (follows_allocatorFor h name sizeA sizeB)
  | allocate registrant name space =>
    refine hdone .id (Q := fun _ _ => True) ?_
    exact (ends_allocate h registrant name space).imp (fun _ _ hx => ⟨hx.1, trivial⟩)
      fun _ _ hf => hf.1
  | saveRoster registrant => exact hdone (fun _ => .done) (follows_saveRoster h registrant)
  | persist => exact hdone (fun _ => .done) (follows_persist h (horderly rfl))
  | close => exact hdone (fun _ => .done) (follows_close h)

/-- **A desk is a later state of itself after any request.** -/
theorem onward_after {d : Desk} (h : d.registry.Lawful) (request : Request) :
    d.Onward (d.after request) := by
  by_cases horderly : request.Orderly d
  · exact Ends.left (Ends.imp (turn_serve h horderly) (fun _ _ hx => hx.1.toOnward)
      fun _ _ hf => hf.toOnward)
  · -- a registry that is saved without being opened
    obtain ⟨rfl, -⟩ := Classical.not_imp.1 horderly
    have hends : Ends d (serve .persist) (fun _ => d.Onward) (fun _ => d.Onward) := by
      unfold serve persist
      rw [ends_bind, ends_bind, ends_ensureWritable]
      split
      · exact .refl h
      · exact (saves_ledger h).imp (fun _ _ hsaved => hsaved.onward)
          fun _ _ hfailed => hfailed.onward
    exact hends.left

/-- **And so after any history.** -/
theorem onward_run {d : Desk} (h : d.registry.Lawful) (requests : List Request) :
    d.Onward (d.run requests) := by
  induction requests generalizing d with
  | nil => exact .refl h
  | cons request rest ih =>
    have hafter := onward_after h request
    exact hafter.trans (ih hafter.registry.lawful)

/-- What a request was met with is known from where it ended. -/
theorem turn_of_ok {d e : Desk} (h : d.registry.Lawful) {request : Request}
    (horderly : request.Orderly d) {reply : Reply} (hserve : serve request d = .ok reply e) :
    Turn True d e :=
  (Ends.of_ok (turn_serve h horderly) hserve).1

theorem turn_of_error {d e : Desk} (h : d.registry.Lawful) {request : Request}
    (horderly : request.Orderly d) {f : Failure} (hserve : serve request d = .error f e) :
    Turn (f.ofWriting = false) d e :=
  Ends.of_error (turn_serve h horderly) hserve

end Desk

end Allotment
