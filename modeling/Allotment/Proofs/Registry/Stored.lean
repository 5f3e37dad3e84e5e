import Allotment.Proofs.Registry.Serve

/-!
# Stored holdings

Every write of the ledger replaces it as a whole. So a registry keeps what was stored before only
if it has read it first. An open registry has; one that was just made has not, and its table is
blank.

* `savesBlank`, `Careful` — a request that saves a blank table, and a history without any;
* `guards_after` — **PROVED**: any other request keeps what a desk guards, whether it is met or not;
* `guards_run` — **PROVED**: and so does a careful history;
* `table_of_savesBlank` — **PROVED**: a blank table that is saved leaves nothing in the ledger;
* `stored_kept_iff` — **PROVED**: so what was stored is there at every moment of a careful history and
  when the registry is closed, and after it is saved just if it was opened.
-/

namespace Allotment

namespace Desk

/-- Whether a request saves a registry that was not opened. -/
def savesBlank (d : Desk) : Request → Bool
  | .persist => !d.registry.opened && (match persist d with
    | .ok _ _ => true
    | .error _ _ => false)
  | _ => false

/-- A history in which no registry is saved before it is opened. -/
def Careful (d : Desk) : List Request → Prop
  | [] => True
  | request :: rest => d.savesBlank request = false ∧ (d.after request).Careful rest

instance decidableCareful (d : Desk) : (requests : List Request) → Decidable (d.Careful requests)
  | [] => isTrue trivial
  | request :: rest =>
    have := decidableCareful (d.after request) rest
    inferInstanceAs (Decidable (_ ∧ _))

variable {d : Desk} {stored : List (String × Holding)}

/-! ### What one request keeps -/

/-- What a desk guards, it guards when an orderly request has ended. -/
theorem guards_of_follows {α : Type} {act : Act α} {Q : α → Desk → Prop} (hact : Follows d act Q)
    (hl : d.registry.layout.Plain) (hg : d.Guards stored) :
    Ends d act (fun _ e => e.Guards stored) (fun _ e => e.Guards stored) :=
  Ends.imp hact (fun _ _ hx => hx.1.guards hl stored hg) fun _ _ hf => hf.guards hl stored hg

/-- An attempt to save a blank table keeps what the desk guards, if it fails. -/
theorem guards_of_failed_persist (h : d.registry.Lawful) (hl : d.registry.layout.Plain)
    (hg : d.Guards stored) :
    Ends d persist (fun _ _ => True) (fun _ e => e.Guards stored) := by
  unfold persist
  rw [ends_bind, ends_ensureWritable]
  split
  · exact hg
  · exact (saves_ledger h).imp (fun _ _ _ => trivial) fun _ _ hfailed => hfailed.guards hl hg

/-- **A request that does not save a blank table** keeps what the desk guards. -/
theorem guards_after (h : d.registry.Lawful) (hl : d.registry.layout.Plain) (hg : d.Guards stored)
    {request : Request} (hcareful : d.savesBlank request = false) :
    (d.after request).Guards stored := by
  by_cases horderly : request.Orderly d
  · exact (guards_of_follows (turn_serve h horderly) hl hg).left
  · obtain ⟨rfl, hopen⟩ := Classical.not_imp.1 horderly
    rw [Bool.not_eq_true] at hopen
    have hends := guards_of_failed_persist h hl hg
    cases hact : persist d with
    | ok x e =>
      simp only [savesBlank, hopen, hact] at hcareful
      cases hcareful
    | error f e =>
      have hserve : serve .persist d = .error f e := by
        refine eq_error_of_ends ?_
        show Ends d (persist >>= fun _ => pure Reply.done) _ _
        rw [ends_bind, Ends, hact]
        exact ⟨rfl, rfl⟩
      rw [after_of_error hserve]
      exact hends.of_error hact

/-! ### What a history keeps -/

/-- **A careful history keeps what a desk guards,** whatever else is asked and whatever fails. -/
theorem guards_run (h : d.registry.Lawful) (hl : d.registry.layout.Plain) (hg : d.Guards stored)
    {requests : List Request} (hcareful : d.Careful requests) : (d.run requests).Guards stored := by
  induction requests generalizing d with
  | nil => exact hg
  | cons request rest ih =>
    have hafter := (onward_after h request).registry
    exact ih hafter.lawful (hafter.layout.symm ▸ hl) (guards_after h hl hg hcareful.1) hcareful.2

/-- A registry that was just made guards what is in the ledger: it has not read it, but it will
before it writes. -/
theorem guards_fresh (layout : Layout) (passes : Int) (disk : Disk) :
    (fresh layout passes disk).Guards (layout.tableAt disk) where
  ledger := .refl _
  table hopen := by cases hopen

/-- **A blank table that is saved** leaves nothing in the ledger. -/
theorem table_of_savesBlank (h : d.registry.Lawful) (hl : d.registry.layout.Plain)
    (hopen : d.registry.opened = false) :
    Ends d persist (fun _ e => d.registry.layout.tableAt e.disk = []) (fun _ _ => True) := by
  have hblank : d.registry.entries = [] := by
    rw [Registry.entries, (h.unopened hopen).1]
    rfl
  unfold persist
  rw [ends_bind, ends_ensureWritable]
  split
  · trivial
  · refine (saves_ledger h).imp ?_ fun _ _ _ => trivial
    intro _ e hsaved
    rw [hsaved.table hl, hblank]

/-- Only nothing is within nothing. -/
theorem within_nil_iff : Ledger.Within stored [] ↔ stored = [] := by
  constructor
  · intro hwithin
    cases stored with
    | nil => rfl
    | cons x rest =>
      obtain ⟨h', hget, -⟩ := hwithin x.1 x.2 (by simp [Assoc.get?])
      cases hget
  · rintro rfl
    exact .refl _

/-- **What was stored is there at every moment** of a careful history: every holding that the ledger
settled to has its registrant, its windows and at least its counts. It is there when the registry is
closed, and when it is saved just if it was opened, or if nothing was stored. -/
theorem stored_kept_iff {layout : Layout} (hl : layout.Plain) (passes : Int) (disk : Disk)
    {requests : List Request} (hcareful : (fresh layout passes disk).Careful requests) :
    let d := (fresh layout passes disk).run requests
    let stored := layout.tableAt disk
    Ledger.Within stored (layout.tableAt d.disk) ∧
      (∀ e, close d = .ok () e → Ledger.Within stored (layout.tableAt e.disk)) ∧
      ∀ e, persist d = .ok () e →
        (Ledger.Within stored (layout.tableAt e.disk) ↔ d.registry.opened = true ∨ stored = []) := by
  intro d stored
  have honward := onward_run (d := fresh layout passes disk) (Registry.lawful_fresh layout passes) requests
  have h : d.registry.Lawful := honward.registry.lawful
  have hlayout : d.registry.layout = layout := honward.registry.layout
  have hg : d.Guards stored :=
    guards_run (Registry.lawful_fresh layout passes) hl (guards_fresh layout passes disk) hcareful
  have hl' : d.registry.layout.Plain := hlayout.symm ▸ hl
  refine ⟨hlayout ▸ hg.ledger, ?_, ?_⟩
  · intro e hclose
    have hturn := (Ends.of_ok (follows_close h) hclose).1
    rw [← hlayout, ← hturn.registry.layout]
    exact (hturn.guards hl' stored hg).ledger
  · intro e hpersist
    cases hopen : d.registry.opened with
    | true =>
      have hturn := (Ends.of_ok (follows_persist h hopen) hpersist).1
      rw [← hlayout, ← hturn.registry.layout]
      exact ⟨fun _ => .inl rfl, fun _ => (hturn.guards hl' stored hg).ledger⟩
    | false =>
      have hblank := (table_of_savesBlank h hl' hopen).of_ok hpersist
      rw [← hlayout, hblank, within_nil_iff]
      exact ⟨.inr, fun hor => hor.resolve_left Bool.false_ne_true⟩

/-- A disk on which a registrant is stored. -/
def stocked : Disk := ((fresh {} 2 {}).run [.getOrCreate (.text "alpha") .null .null]).disk

/-- The next registry takes in another registrant and is saved. The first one is still stored. -/
theorem stored_kept_second :
    let requests := [Request.saveRoster "alpha", .close, .openLedger]
    let more := [Request.openLedger, .getOrCreate (.text "beta") .null .null, .persist]
    Ledger.Within (({} : Layout).tableAt stocked)
        (({} : Layout).tableAt ((fresh {} 2 stocked).run requests).disk) ∧
      ∃ h h', Assoc.get? "alpha" (({} : Layout).tableAt stocked) = some h ∧
        Assoc.get? "alpha" (({} : Layout).tableAt ((fresh {} 2 stocked).run more).disk) = some h' ∧
        h.Advances h' := by
  intro requests more
  have hclosed : (fresh {} 2 stocked).Careful requests := by decide +kernel
  have hopened : (fresh {} 2 stocked).Careful more := by decide +kernel
  have hplain : ({} : Layout).Plain := Layout.plain_usual _
  have hstored : (Assoc.get? "alpha" (({} : Layout).tableAt stocked)).isSome = true := by
    decide +kernel
  obtain ⟨h, hget⟩ := Option.isSome_iff_exists.1 hstored
  obtain ⟨h', hget', hadv⟩ := (stored_kept_iff hplain 2 stocked hopened).1 "alpha" h hget
  exact ⟨(stored_kept_iff hplain 2 stocked hclosed).1, h, h', hget, hget', hadv⟩

/-- The same disk, after a registry that was not opened is saved on it. -/
theorem not_kept_unopened :
    ∃ e, persist (fresh {} 2 stocked) = .ok () e ∧
      ¬Ledger.Within (({} : Layout).tableAt stocked) (({} : Layout).tableAt e.disk) := by
  have hreturns : (fresh {} 2 stocked).savesBlank .persist = true := by decide +kernel
  have hstored : ({} : Layout).tableAt stocked ≠ [] := by decide +kernel
  have hlawful : (fresh {} 2 stocked).registry.Lawful := Registry.lawful_fresh {} 2
  have hopen : (fresh {} 2 stocked).registry.opened = false := rfl
  have hlayout : (fresh {} 2 stocked).registry.layout = {} := rfl
  generalize fresh {} 2 stocked = d at hreturns hlawful hopen hlayout ⊢
  have hblank := table_of_savesBlank hlawful (hlayout ▸ Layout.plain_usual _) hopen
  cases hact : persist d with
  | ok x e =>
    have hempty := hblank.of_ok hact
    rw [hlayout] at hempty
    refine ⟨e, rfl, ?_⟩
    rw [hempty, within_nil_iff]
    exact hstored
  | error f e =>
    simp only [savesBlank, hact, Bool.and_false] at hreturns
    cases hreturns

end Desk

end Allotment
