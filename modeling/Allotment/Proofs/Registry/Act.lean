import Allotment.Registry.Request

/-!
# What an action ends with

An action at a desk either returns a value or fails, and leaves a desk behind in both cases. To
speak of an action is to say what is true in each of the two cases.

* `Desk.Ends` — an action that starts at a desk ends as its two conditions say;
* `ends_bind`, `ends_pure`, `ends_get` and the others — **PROVED**: what this means for each way
  to build an action, so that an action is taken apart by rewriting;
* `Ends.imp`, `Ends.and`, `Ends.bind` — **PROVED**: what is known of a part may be used for the
  whole;
* `exists_ok_of_returns`, `exists_error_of_fails`, `Ends.of_returns`, `Ends.exists_ok` — **PROVED**:
  what is left of the two cases if the action is known to return or to fail, or cannot fail;
* `ends_forM` — **PROVED**: a list of actions, by what each of them keeps;
* `ends_save_told` — **PROVED**: a write, by the outcome on the disk;
* `Failure.ofWriting` — the failures with which a write may end.
-/

namespace Allotment

/-- Whether a failure is one of those with which a write may end. -/
def Failure.ofWriting : Failure → Bool
  | .notSaved _ _ => true
  | .nulInPath => true
  | .tooLongToWrite => true
  | .unencodable _ => true
  | .writeFailed => true
  | .interrupted => true
  | _ => false

/-- A refusal whose message cannot be put together is none of writing either. -/
theorem Failure.ofWriting_met {f : Failure} (h : f.ofWriting = false) : f.met.ofWriting = false := by
  unfold Failure.met
  split
  · exact h
  · rfl

namespace Desk

variable {α β : Type}

/-- An action that starts at a desk ends with a value as `Q` says, or fails as `E` says. -/
def Ends (d : Desk) (act : Act α) (Q : α → Desk → Prop) (E : Failure → Desk → Prop) : Prop :=
  match act d with
  | .ok x e => Q x e
  | .error f e => E f e

section Laws

variable {d : Desk} {act : Act α} {Q : α → Desk → Prop} {E : Failure → Desk → Prop}

theorem Ends.of_ok {x : α} {e : Desk} (h : Ends d act Q E) (hact : act d = .ok x e) : Q x e := by
  rwa [Ends, hact] at h

theorem Ends.of_error {f : Failure} {e : Desk} (h : Ends d act Q E) (hact : act d = .error f e) :
    E f e := by
  rwa [Ends, hact] at h

/-- Whether an action that starts at a desk returns a value and passes a test at its end. -/
def returns (d : Desk) (act : Act α) (test : α → Desk → Bool) : Bool :=
  match act d with
  | .ok x e => test x e
  | .error _ _ => false

theorem exists_ok_of_returns {test : α → Desk → Bool} (htest : d.returns act test = true) :
    ∃ x e, act d = .ok x e ∧ test x e = true := by
  unfold returns at htest
  cases hact : act d with
  | ok x e =>
    rw [hact] at htest
    exact ⟨x, e, rfl, htest⟩
  | error f e =>
    rw [hact] at htest
    cases htest

theorem Ends.of_returns {test : α → Desk → Bool} (h : Ends d act Q E)
    (htest : d.returns act test = true) : ∃ x e, act d = .ok x e ∧ test x e = true ∧ Q x e := by
  obtain ⟨x, e, hact, hx⟩ := exists_ok_of_returns htest
  exact ⟨x, e, hact, hx, h.of_ok hact⟩

/-- Whether an action that starts at a desk fails and passes a test at its end. -/
def fails (d : Desk) (act : Act α) (test : Failure → Desk → Bool) : Bool :=
  match act d with
  | .ok _ _ => false
  | .error f e => test f e

theorem exists_error_of_fails {test : Failure → Desk → Bool} (htest : d.fails act test = true) :
    ∃ f e, act d = .error f e ∧ test f e = true := by
  unfold fails at htest
  cases hact : act d with
  | ok x e =>
    rw [hact] at htest
    cases htest
  | error f e =>
    rw [hact] at htest
    exact ⟨f, e, rfl, htest⟩

/-- An action that cannot fail returns a value. -/
theorem Ends.exists_ok (h : Ends d act Q fun _ _ => False) : ∃ x e, act d = .ok x e ∧ Q x e := by
  cases hact : act d with
  | ok x e => exact ⟨x, e, rfl, h.of_ok hact⟩
  | error f e => exact (h.of_error hact).elim

/-- What holds at the end in both cases. -/
theorem Ends.left {P : Desk → Prop} (h : Ends d act (fun _ => P) (fun _ => P)) :
    P (left (act d)) := by
  unfold Ends at h
  cases hact : act d with
  | ok x e => rwa [hact] at h
  | error f e => rwa [hact] at h

/-- Conditions may be weakened. -/
theorem Ends.imp {Q' : α → Desk → Prop} {E' : Failure → Desk → Prop} (h : Ends d act Q E)
    (hQ : ∀ x e, Q x e → Q' x e) (hE : ∀ f e, E f e → E' f e) : Ends d act Q' E' := by
  unfold Ends at h ⊢
  cases hact : act d with
  | ok x e =>
    rw [hact] at h
    exact hQ x e h
  | error f e =>
    rw [hact] at h
    exact hE f e h

/-- What is known of an action in two ways is known together. -/
theorem Ends.and {Q' : α → Desk → Prop} {E' : Failure → Desk → Prop} (h : Ends d act Q E)
    (h' : Ends d act Q' E') :
    Ends d act (fun x e => Q x e ∧ Q' x e) (fun f e => E f e ∧ E' f e) := by
  unfold Ends at h h' ⊢
  cases hact : act d with
  | ok x e =>
    rw [hact] at h h'
    exact ⟨h, h'⟩
  | error f e =>
    rw [hact] at h h'
    exact ⟨h, h'⟩

theorem ends_pure (x : α) : Ends d (pure x) Q E ↔ Q x d := Iff.rfl

theorem ends_get {Q : Desk → Desk → Prop} : Ends d (get : Act Desk) Q E ↔ Q d d := Iff.rfl

theorem ends_set {Q : PUnit → Desk → Prop} (e : Desk) : Ends d (set e : Act PUnit) Q E ↔ Q ⟨⟩ e :=
  Iff.rfl

theorem ends_bind (act : Act β) (next : β → Act α) :
    Ends d (act >>= next) Q E ↔ Ends d act (fun x e => Ends e (next x) Q E) E := by
  unfold Ends
  cases hact : act d with
  | ok x e =>
    have hrun : (act >>= next) d = next x e := by
      show EStateM.bind act next d = next x e
      rw [EStateM.bind, hact]
    rw [hrun]
  | error f e =>
    have hrun : (act >>= next) d = .error f e := by
      show EStateM.bind act next d = .error f e
      rw [EStateM.bind, hact]
    rw [hrun]

/-- What is known of the first part of an action may be used for the rest. -/
theorem Ends.bind {act : Act β} {next : β → Act α} {Q' : β → Desk → Prop}
    {E' : Failure → Desk → Prop} (h : Ends d act Q' E') (hE : ∀ f e, E' f e → E f e)
    (hnext : ∀ x e, Q' x e → Ends e (next x) Q E) : Ends d (act >>= next) Q E := by
  rw [ends_bind]
  exact h.imp hnext hE

/-- What every step of a list of actions keeps, the whole list keeps. -/
theorem ends_forM {f : β → Act PUnit} {I : List β → Desk → Prop} {l : List β}
    (hstep : ∀ done x rest e, l = done ++ x :: rest → I done e →
      Ends e (f x) (fun _ g => I (done ++ [x]) g) E) (hstart : I [] d) :
    Ends d (l.forM f) (fun _ e => I l e) E := by
  have hrest : ∀ rest done e, l = done ++ rest → I done e →
      Ends e (rest.forM f) (fun _ g => I l g) E := by
    intro rest
    induction rest with
    | nil =>
      intro done e hl hdone
      rw [List.append_nil] at hl
      exact hl ▸ hdone
    | cons x rest ih =>
      intro done e hl hdone
      show Ends e (f x >>= fun _ => rest.forM f) _ _
      refine (hstep done x rest e hl hdone).bind (fun _ _ hf => hf) ?_
      exact fun _ g hg => ih (done ++ [x]) g (by rw [hl, List.append_assoc]; rfl) hg
  exact hrest l [] d rfl hstart

/-- Anything true of all ends is true of the action that ran. -/
theorem ends_of_forall (hQ : ∀ x e, act d = .ok x e → Q x e)
    (hE : ∀ f e, act d = .error f e → E f e) : Ends d act Q E := by
  unfold Ends
  cases hact : act d with
  | ok x e => exact hQ x e hact
  | error f e => exact hE f e hact

/-- An action that can end in one way only ends so. -/
theorem eq_ok_of_ends {x : α} {e : Desk}
    (h : Ends d act (fun y f => y = x ∧ f = e) fun _ _ => False) : act d = .ok x e := by
  unfold Ends at h
  cases hact : act d with
  | ok y f =>
    rw [hact] at h
    rw [h.1, h.2]
  | error f g =>
    rw [hact] at h
    exact h.elim

theorem eq_error_of_ends {f : Failure} {e : Desk}
    (h : Ends d act (fun _ _ => False) fun g g' => g = f ∧ g' = e) : act d = .error f e := by
  unfold Ends at h
  cases hact : act d with
  | ok y g =>
    rw [hact] at h
    exact h.elim
  | error g g' =>
    rw [hact] at h
    rw [h.1, h.2]

end Laws

/-! ### The parts of actions -/

section Parts

variable {d : Desk} {E : Failure → Desk → Prop}

theorem ends_tell {Q : PUnit → Desk → Prop} (notices : List Notice) :
    Ends d (tell notices) Q E ↔ Q ⟨⟩ { d with notices := d.notices ++ notices } := Iff.rfl

theorem ends_update {Q : PUnit → Desk → Prop} (f : Registry → Registry) :
    Ends d (update f) Q E ↔ Q ⟨⟩ { d with registry := f d.registry } := Iff.rfl

theorem ends_current {Q : Registry → Desk → Prop} :
    Ends d current Q E ↔ Q d.registry d := Iff.rfl

theorem ends_ledgerPath {Q : Path → Desk → Prop} :
    Ends d ledgerPath Q E ↔ Q d.registry.layout.ledgerPath d := Iff.rfl

theorem ends_check {Q : α → Desk → Prop} (x : Except Failure α) :
    Ends d (check x) Q E ↔ match x with
      | .ok v => Q v d
      | .error f => E f d := by
  cases x <;> exact Iff.rfl

/-- The lines that a reading of a file gives. -/
def linesOf : Option (List UInt8) → List (List Char)
  | none => []
  | some bytes => Text.fileLines bytes

theorem ends_readLines {Q : List (List Char) → Desk → Prop} (p : Path) :
    Ends d (readLines p) Q E ↔ match d.disk.read p with
      | .ok bytes => Q (linesOf bytes) d
      | .error f => E f d := by
  unfold readLines
  rw [ends_bind, ends_get, ends_bind, ends_check]
  cases d.disk.read p with
  | error f => exact Iff.rfl
  | ok bytes => cases bytes <;> exact Iff.rfl

theorem ends_ensureWritable {Q : PUnit → Desk → Prop} :
    Ends d ensureWritable Q E ↔
      if d.registry.closed then E (.registryClosed d.registry.layout.ledgerPath.text) d
      else Q ⟨⟩ d := by
  unfold ensureWritable
  rw [ends_bind, ends_current]
  cases d.registry.closed <;> exact Iff.rfl

/-- A fault with which a write ends is told to the caller as a failure of writing. -/
theorem ofWriting_failure {fault : WriteFault} (h : fault.isSystem = false) :
    fault.failure.ofWriting = true := by
  cases fault with
  | nulInPath => rfl
  | numberTooLong => rfl
  | unencodable what => rfl
  | outage what =>
    simp only [WriteFault.isSystem] at h
    simp [WriteFault.failure, h, Failure.ofWriting]
  | blocked why shown => cases h
  | fileInPlace shown => cases h
  | targetTooLong shown => cases h
  | targetIsDirectory shown => cases h

/-- The failure that a caller is told when a write of a file ends with a fault. -/
def told (file : StateFile) (p : Path) (fault : WriteFault) : Failure :=
  if fault.isSystem then .notSaved file p.text else fault.failure

theorem ofWriting_told (file : StateFile) (p : Path) (fault : WriteFault) :
    (told file p fault).ofWriting = true := by
  unfold told
  cases hsystem : fault.isSystem with
  | true => rfl
  | false => exact ofWriting_failure hsystem

/-- **A write ends as the disk says,** and the registry is not touched. -/
theorem ends_save_told {file : StateFile} {p : Path} {text : Option (List Char)}
    {Q : PUnit → Desk → Prop}
    (hQ : ∀ disk, d.disk.store p text = (.ok (), disk) → Q ⟨⟩ { d with disk })
    (hE : ∀ fault disk notices, d.disk.store p text = (.error fault, disk) →
      E (told file p fault) { d with disk, notices }) :
    Ends d (save file p text) Q E := by
  unfold save
  rw [ends_bind, ends_get]
  cases hwrite : d.disk.store p text with
  | mk result disk =>
    simp only
    rw [ends_bind, ends_set]
    cases result with
    | ok done => exact hQ disk hwrite
    | error fault =>
      have htold := fun notices => hE fault disk notices hwrite
      unfold told at htold
      simp only
      rw [ends_bind, ends_tell]
      cases hsystem : fault.isSystem with
      | true =>
        rw [hsystem] at htold
        exact htold _
      | false =>
        rw [hsystem] at htold
        exact htold _

end Parts

end Desk

end Allotment
