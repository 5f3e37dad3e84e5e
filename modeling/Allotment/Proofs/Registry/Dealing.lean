import Allotment.Proofs.Registry.Lineage
import Mathlib.Data.List.Induction
import Mathlib.Data.List.Perm.Subperm

/-!
# Ids dealt out call by call

An allocator is asked for ids, under names in any order, again and again, in both spaces. What each call
is answered depends on all the calls before it, but only in two ways: the name may have an id by then,
and the number of new names in the space says which id is the next.

* `IdCall`, `Desk.log` — a call that an allocator does not refuse for its arguments, and what a list of
  calls is answered, one by one;
* `newNames` — the names, new at the beginning, that were given an id in a space, in the order in which
  they were;
* `Hands`, `Gives` — the ids that calls are answered with, and those of them that are new;
* `Desk.AnsweredBy` — the answer to a call, told from the answers before it;
* `Desk.Dealt` — what the registry holds after some calls, told from their answers;
* `deals_of_written` — **PROVED**: one call taken apart;
* `Dealt.step`, `dealt_log` — **PROVED**: the log tells what the registry holds after one call more, and
  so after a whole list of them;
* `Dealt.gives_iff`, `Dealt.length_newNames_le` — **PROVED**: the new ids are the next ones, and more
  calls give out no fewer;
* `dealt_calls` — **PROVED**: the law of all calls, and that their order makes no difference to the ids
  that are handed out.
-/

namespace Allotment

/-- A call for an id under a name that ids may have, in a space that the caller may name in any way. -/
structure IdCall where
  space : Space
  name : String
  /-- How the caller names the space. -/
  shown : Argument
  shown_eq : shown.toSpace = .ok space
  accepted : IdName.ofArgument (.text name) = .ok name

/-- The call as a request to the allocator of a registrant. -/
def IdCall.request (registrant : String) (c : IdCall) : Request :=
  .allocate registrant (.text c.name) c.shown

/-- A call with its answer. -/
abbrev Answered := IdCall × Except Failure Int

namespace Desk

/-- What a call is answered. -/
def answer (d : Desk) (registrant : String) (c : IdCall) : Except Failure Int :=
  match allocate registrant (.text c.name) c.shown d with
  | .ok id _ => .ok id
  | .error f _ => .error f

/-- What a list of calls is answered, one after the other. -/
def log (d : Desk) (registrant : String) : List IdCall → List Answered
  | [] => []
  | c :: rest => (c, d.answer registrant c) :: (d.after (c.request registrant)).log registrant rest

/-- The desk behind a list of calls. -/
def called (d : Desk) (registrant : String) (calls : List IdCall) : Desk :=
  d.run (calls.map (IdCall.request registrant))

/-- Every write on the way goes through. -/
def Written (log : List Answered) : Prop := ∀ x ∈ log, ∀ f, x.2 = .error f → f.ofWriting = false

instance (log : List Answered) : Decidable (Written log) :=
  decidable_of_iff (∀ x ∈ log, (match x.2 with | .ok _ => false | .error f => f.ofWriting) = false) <|
    forall₂_congr fun x _ => by
      cases x.2 with
      | ok id => simp
      | error g => simp

end Desk

/-- Whether a call in a space is answered with an id under a name that had none at the beginning. -/
def gaveNew (al : Allocator) (s : Space) (x : Answered) : Bool :=
  decide (x.1.space = s) && (Assoc.get? x.1.name (al.ids.get s)).isNone && x.2.toBool

/-- The names without an id at the beginning that were given one in a space. -/
def newNames (al : Allocator) (s : Space) (log : List Answered) : List String :=
  ((log.filter (gaveNew al s)).map fun x => x.1.name).eraseDups

/-- An id is the answer to a call in a space. -/
def Hands (log : List Answered) (s : Space) (id : Int) : Prop :=
  ∃ x ∈ log, x.1.space = s ∧ x.2 = .ok id

/-- An id is the answer to a call in a space under a name that had none at the beginning. -/
def Gives (al : Allocator) (log : List Answered) (s : Space) (id : Int) : Prop :=
  ∃ x ∈ log, x.1.space = s ∧ Assoc.get? x.1.name (al.ids.get s) = none ∧ x.2 = .ok id

namespace Desk

/-- The answer to a call of a registrant, when those before it are known: `al` is the allocator and
`before` its holding at the beginning. -/
structure AnsweredBy (registrant : String) (al : Allocator) (before : Holding)
    (earlier : List Answered) (c : IdCall) (answer : Except Failure Int) : Prop where
  /-- A name with an id at the beginning is answered with this id. -/
  bound : ∀ id, Assoc.get? c.name (al.ids.get c.space) = some id → answer = .ok id
  /-- A name that was given an id earlier is answered with the same id. -/
  again : ∀ x ∈ earlier, x.1.space = c.space → x.1.name = c.name → ∀ id, x.2 = .ok id →
    answer = .ok id
  /-- Any other name is given the next id: the names that were given one since the beginning are
  counted on from the count of the beginning. If there is none left, the call is refused, and told
  the size as long as it can be shown. -/
  fresh : Assoc.get? c.name (al.ids.get c.space) = none → c.name ∉ newNames al c.space earlier →
    answer = if (before.get c.space).used + (newNames al c.space earlier).length <
        (before.get c.space).size
      then .ok ((before.get c.space).start + (before.get c.space).used +
        (newNames al c.space earlier).length)
      else .error (Failure.reservationExhausted registrant c.space (before.get c.space).size).met

/-- What the registry holds after the calls of a log, told from their answers. -/
structure Dealt (registrant : String) (al : Allocator) (before : Holding) (log : List Answered)
    (e : Desk) (later : Allocator) : Prop where
  linked : e.registry.Linked
  closed : e.registry.closed = false
  allocator : e.registry.allocator? registrant = some later
  holding : later.holding = al.holding
  /-- Names keep their ids. -/
  kept : ∀ s name id, Assoc.get? name (al.ids.get s) = some id →
    Assoc.get? name (later.ids.get s) = some id
  /-- The new names have the ids from the count of the beginning on, in their order. -/
  given : ∀ s name, Assoc.get? name (al.ids.get s) = none → ∀ id,
    Assoc.get? name (later.ids.get s) = some id ↔ ∃ i : Nat, (newNames al s log)[i]? = some name ∧
      id = (before.get s).start + (before.get s).used + i
  /-- What was answered is bound. -/
  told : ∀ x ∈ log, ∀ id, x.2 = .ok id → Assoc.get? x.1.name (later.ids.get x.1.space) = some id
  /-- Every new name is counted. -/
  counted : ∀ s, (e.registry.holding al.holding).get s =
    { before.get s with used := (before.get s).used + (newNames al s log).length }
  /-- New names are only given ids that there are. -/
  room : ∀ s, newNames al s log ≠ [] →
    (before.get s).used + (newNames al s log).length ≤ (before.get s).size
  /-- A name is left without an id only when all are handed out. -/
  left : ∀ x ∈ log, Assoc.get? x.1.name (al.ids.get x.1.space) = none →
    x.1.name ∈ newNames al x.1.space log ∨ (before.get x.1.space).size ≤
      (before.get x.1.space).used + (newNames al x.1.space log).length

/-- What a call does to an open registry when every write goes through. -/
inductive Deals (e : Desk) (registrant : String) (later : Allocator) (c : IdCall) :
    Except Failure Int → Desk → Prop
  | known (id : Int) (hget : Assoc.get? c.name (later.ids.get c.space) = some id) :
    Deals e registrant later c (.ok id) e
  | full (hnew : Assoc.get? c.name (later.ids.get c.space) = none)
    (hfull : ((e.registry.holding later.holding).get c.space).isFull = true) :
    Deals e registrant later c (.error (Failure.reservationExhausted registrant c.space
      ((e.registry.holding later.holding).get c.space).size).met) e
  | granted (hnew : Assoc.get? c.name (later.ids.get c.space) = none)
    (hroom : ((e.registry.holding later.holding).get c.space).isFull = false) (f : Desk)
    (hregistry : f.registry = e.registry.granted later c.space c.name) :
    Deals e registrant later c (.ok ((e.registry.holding later.holding).get c.space).nextId) f

/-! ### Logs -/

theorem log_append (d : Desk) (registrant : String) (calls more : List IdCall) :
    d.log registrant (calls ++ more) =
      d.log registrant calls ++ (d.called registrant calls).log registrant more := by
  induction calls generalizing d with
  | nil => rfl
  | cons c rest ih =>
    rw [List.cons_append, log, log, ih]
    rfl

theorem log_snoc (d : Desk) (registrant : String) (calls : List IdCall) (c : IdCall) :
    d.log registrant (calls ++ [c]) =
      d.log registrant calls ++ [(c, (d.called registrant calls).answer registrant c)] :=
  log_append d registrant calls [c]

theorem map_fst_log (d : Desk) (registrant : String) (calls : List IdCall) :
    (d.log registrant calls).map Prod.fst = calls := by
  induction calls generalizing d with
  | nil => rfl
  | cons c rest ih => rw [log, List.map_cons, ih]

/-- An answer in a log is one that the desk behind the earlier calls gives. -/
theorem eq_of_log_eq {d : Desk} {registrant : String} {calls : List IdCall}
    {earlier later : List Answered} {c : IdCall} {r : Except Failure Int}
    (h : d.log registrant calls = earlier ++ (c, r) :: later) :
    ∃ before after, calls = before ++ c :: after ∧ d.log registrant before = earlier ∧
      r = (d.called registrant before).answer registrant c := by
  have hcalls := congrArg (List.map Prod.fst) h
  rw [map_fst_log, List.map_append, List.map_cons] at hcalls
  rw [hcalls, log_append] at h
  have hlength : (d.log registrant (earlier.map Prod.fst)).length = earlier.length := by
    rw [← List.length_map Prod.fst, map_fst_log, List.length_map]
  obtain ⟨hearlier, hrest⟩ := List.append_inj h hlength
  obtain ⟨hhead, -⟩ := List.cons.inj hrest
  exact ⟨_, _, hcalls, hearlier, (congrArg Prod.snd hhead).symm⟩

/-- A call for an id leaves what `allocate` leaves. -/
theorem after_request (d : Desk) (registrant : String) (c : IdCall) :
    d.after (c.request registrant) = left (allocate registrant (.text c.name) c.shown d) := by
  show left (EStateM.bind (allocate registrant (.text c.name) c.shown)
    (fun id => pure (Reply.id id)) d) = _
  rw [EStateM.bind]
  cases allocate registrant (.text c.name) c.shown d <;> rfl

theorem called_snoc (d : Desk) (registrant : String) (calls : List IdCall) (c : IdCall) :
    d.called registrant (calls ++ [c]) = (d.called registrant calls).after (c.request registrant) := by
  rw [called, List.map_append, run_append]
  rfl

theorem Written.init {log more : List Answered} (h : Written (log ++ more)) : Written log :=
  fun x hx => h x (List.mem_append_left _ hx)

end Desk

/-! ### New names -/

section NewNames

variable {al : Allocator} {s : Space} {log : List Answered}

theorem eraseDups_snoc (l : List String) (n : String) :
    (l ++ [n]).eraseDups = l.eraseDups ++ if n ∈ l then [] else [n] := by
  rw [List.eraseDups_append]
  by_cases hn : n ∈ l
  · simp [List.removeAll, hn]
  · simp [List.removeAll, hn, List.eraseDups_cons]

theorem nodup_eraseDups (l : List String) : l.eraseDups.Nodup := by
  induction l using List.reverseRecOn with
  | nil => exact List.nodup_nil
  | append_singleton l n ih =>
    rw [eraseDups_snoc]
    split
    · rwa [List.append_nil]
    · rename_i hn
      exact List.nodup_append'.2 ⟨ih, List.nodup_singleton n,
        List.disjoint_singleton.2 fun hmem => hn (List.mem_eraseDups.1 hmem)⟩

theorem nodup_newNames (al : Allocator) (s : Space) (log : List Answered) :
    (newNames al s log).Nodup := nodup_eraseDups _

theorem gaveNew_iff {x : Answered} : gaveNew al s x = true ↔ x.1.space = s ∧
    Assoc.get? x.1.name (al.ids.get s) = none ∧ ∃ id, x.2 = .ok id := by
  have hok : x.2.toBool = true ↔ ∃ id, x.2 = .ok id := by
    cases x.2 <;> simp [Except.toBool]
  rw [gaveNew, Bool.and_eq_true, Bool.and_eq_true, decide_eq_true_eq,
    Option.isNone_iff_eq_none, hok, and_assoc]

theorem mem_newNames_iff {n : String} : n ∈ newNames al s log ↔
    Assoc.get? n (al.ids.get s) = none ∧
      ∃ x ∈ log, x.1.space = s ∧ x.1.name = n ∧ ∃ id, x.2 = .ok id := by
  simp only [newNames, List.mem_eraseDups, List.mem_map, List.mem_filter, gaveNew_iff]
  constructor
  · rintro ⟨x, ⟨hx, hspace, hnone, hid⟩, rfl⟩
    exact ⟨hnone, x, hx, hspace, rfl, hid⟩
  · rintro ⟨hnone, x, hx, hspace, rfl, hid⟩
    exact ⟨x, ⟨hx, hspace, hnone, hid⟩, rfl⟩

/-- One call more brings its name, if it gave it an id and no call before did. -/
theorem newNames_snoc (al : Allocator) (s : Space) (log : List Answered) (x : Answered) :
    newNames al s (log ++ [x]) = newNames al s log ++
      if gaveNew al s x = true ∧ x.1.name ∉ newNames al s log then [x.1.name] else [] := by
  rw [newNames, List.filter_append, List.map_append, newNames, List.filter_singleton]
  cases hgave : gaveNew al s x with
  | true =>
    rw [cond_true, List.map_singleton, eraseDups_snoc]
    simp only [List.mem_eraseDups, true_and, ite_not]
  | false =>
    rw [cond_false, List.map_nil, List.append_nil, if_neg fun hboth => Bool.noConfusion hboth.1,
      List.append_nil]

/-- A call that gives no new name an id brings none. -/
theorem newNames_snoc_of_old {x : Answered}
    (h : gaveNew al s x = true → x.1.name ∈ newNames al s log) :
    newNames al s (log ++ [x]) = newNames al s log := by
  rw [newNames_snoc, if_neg fun hboth => hboth.2 (h hboth.1), List.append_nil]

/-- Where a name stands in a list with one more name. -/
theorem getElem?_snoc_eq_some_iff {l : List String} {m n : String} {i : Nat} :
    (l ++ [m])[i]? = some n ↔ l[i]? = some n ∨ i = l.length ∧ m = n := by
  rcases Nat.lt_trichotomy i l.length with hi | rfl | hi
  · rw [List.getElem?_append_left hi]
    exact (or_iff_left fun heq => Nat.ne_of_lt hi heq.1).symm
  · rw [List.getElem?_concat_length, List.getElem?_eq_none (Nat.le_refl _)]
    simp
  · rw [List.getElem?_eq_none (by rw [List.length_append, List.length_singleton]; omega),
      List.getElem?_eq_none (Nat.le_of_lt hi)]
    simp only [reduceCtorEq, false_or, false_iff]
    exact fun heq => Nat.ne_of_gt hi heq.1

end NewNames

namespace Desk

/-! ### One call -/

/-- **One call taken apart:** the name has an id, or all ids are handed out, or it is given the next. -/
theorem deals_of_written {e : Desk} {registrant : String} {later : Allocator}
    (hopen : e.registry.closed = false) (hal : e.registry.allocator? registrant = some later)
    (hregistrant : later.registrant = registrant) (c : IdCall)
    (hwritten : ∀ f, e.answer registrant c = .error f → f.ofWriting = false) :
    e.Deals registrant later c (e.answer registrant c) (e.after (c.request registrant)) := by
  rw [after_request]
  unfold answer at hwritten ⊢
  cases hget : Assoc.get? c.name (later.ids.get c.space) with
  | some id =>
    rw [(allocate_of_bound hal hget c.shown_eq).2]
    exact .known id hget
  | none =>
    have hends : Ends e (allocate registrant (.text c.name) c.shown)
        (fun id f => e.Deals registrant later c (.ok id) f)
        (fun f g => f.ofWriting = true ∨ e.Deals registrant later c (.error f) g) := by
      rw [ends_allocate_of_unbound hal c.shown_eq c.accepted hget]
      refine ends_grant_cases hal ?_ ?_ ?_ ?_
      · exact fun hshut => Bool.noConfusion (hopen.symm.trans hshut)
      · exact fun _ hfull => .inr (.full hget hfull)
      · exact fun _ _ _ => .inl rfl
      · intro _ hroom _ notices
        refine ends_saveLedger ?_ fun _ _ _ _ _ hf => .inl hf
        intro disk _
        refine ends_saveRoster (Registry.allocator?_granted_self hregistrant) ?_ ?_
        · exact fun _ _ => .granted hget hroom _ rfl
        · exact fun _ _ _ _ _ hf => .inl hf
    cases hact : allocate registrant (.text c.name) c.shown e with
    | ok id f => exact hends.of_ok hact
    | error f g =>
      rcases hends.of_error hact with hf | hdeals
      · rw [hact] at hwritten
        exact Bool.noConfusion ((hwritten f rfl).symm.trans hf)
      · exact hdeals

namespace Dealt

variable {registrant : String} {al : Allocator} {before : Holding} {log : List Answered}
  {e : Desk} {later : Allocator}

/-- At the beginning nothing is answered. -/
theorem init {d : Desk} (hlinked : d.registry.Linked) (hopen : d.registry.closed = false)
    (hal : d.registry.allocator? registrant = some al) :
    Dealt registrant al (d.registry.holding al.holding) [] d al where
  linked := hlinked
  closed := hopen
  allocator := hal
  holding := rfl
  kept _ _ _ hget := hget
  given s name hnone id := by
    rw [hnone]
    refine iff_of_false (fun hget => by cases hget) ?_
    rintro ⟨i, hi, -⟩
    cases hi
  told _ hx := by cases hx
  counted s := by
    show _ = { (d.registry.holding al.holding).get s with
      used := ((d.registry.holding al.holding).get s).used + 0 }
    rw [Int.add_zero]
  room _ hne := absurd rfl hne
  left _ hx := by cases hx

variable (h : Dealt registrant al before log e later)
include h

/-- A name with an id that had none at the beginning was given it since. -/
theorem mem_newNames {s : Space} {name : String} {id : Int}
    (hget : Assoc.get? name (later.ids.get s) = some id)
    (hunbound : Assoc.get? name (al.ids.get s) = none) : name ∈ newNames al s log := by
  obtain ⟨i, hi, -⟩ := (h.given s name hunbound id).1 hget
  exact List.mem_of_getElem? hi

/-- A name without an id had none at the beginning and was given none since. -/
theorem unbound_of_new {s : Space} {name : String}
    (hnew : Assoc.get? name (later.ids.get s) = none) :
    Assoc.get? name (al.ids.get s) = none ∧ name ∉ newNames al s log := by
  have hunbound : Assoc.get? name (al.ids.get s) = none := by
    cases hget : Assoc.get? name (al.ids.get s) with
    | none => rfl
    | some id => cases hnew.symm.trans (h.kept s name id hget)
  refine ⟨hunbound, fun hmem => ?_⟩
  obtain ⟨i, hi⟩ := List.mem_iff_getElem?.1 hmem
  cases hnew.symm.trans ((h.given s name hunbound _).2 ⟨i, hi, rfl⟩)

/-- A call under a name without an id can only be answered by what is next. -/
theorem answeredBy_of_new {c : IdCall} {r : Except Failure Int}
    (hnew : Assoc.get? c.name (later.ids.get c.space) = none)
    (hr : r = if (before.get c.space).used + (newNames al c.space log).length <
        (before.get c.space).size
      then .ok ((before.get c.space).start + (before.get c.space).used +
        (newNames al c.space log).length)
      else .error
        (Failure.reservationExhausted registrant c.space (before.get c.space).size).met) :
    AnsweredBy registrant al before log c r where
  bound id hget := by cases hnew.symm.trans (h.kept _ _ _ hget)
  again x hx hspace hname id hid := by
    have htold := h.told x hx id hid
    rw [hspace, hname, hnew] at htold
    cases htold
  fresh _ _ := hr

/-- The holding of the allocator, as the log tells it. -/
theorem get_holding (s : Space) : (e.registry.holding later.holding).get s =
    { before.get s with used := (before.get s).used + (newNames al s log).length } := by
  rw [h.holding]
  exact h.counted s

theorem nextId_eq (s : Space) : ((e.registry.holding later.holding).get s).nextId =
    (before.get s).start + (before.get s).used + (newNames al s log).length := by
  rw [h.get_holding, Reservation.nextId, Int.add_assoc]

theorem isFull_iff (s : Space) : ((e.registry.holding later.holding).get s).isFull = true ↔
    (before.get s).size ≤ (before.get s).used + (newNames al s log).length := by
  rw [h.get_holding, Reservation.isFull, decide_eq_true_eq]

theorem isFull_eq_false_iff (s : Space) :
    ((e.registry.holding later.holding).get s).isFull = false ↔
      (before.get s).used + (newNames al s log).length < (before.get s).size := by
  rw [h.get_holding, Reservation.isFull_eq_false_iff]

/-- The next call is answered as the log before it tells. -/
theorem answeredBy {c : IdCall} {r : Except Failure Int} {f : Desk}
    (hdeals : e.Deals registrant later c r f) : AnsweredBy registrant al before log c r := by
  cases hdeals with
  | known id hget =>
    refine ⟨?_, ?_, ?_⟩
    · intro other hother
      rw [Option.some.inj (hget.symm.trans (h.kept _ _ _ hother))]
    · intro x hx hspace hname other hother
      have htold := h.told x hx other hother
      rw [hspace, hname] at htold
      rw [Option.some.inj (hget.symm.trans htold)]
    · exact fun hunbound hnot => absurd (h.mem_newNames hget hunbound) hnot
  | full hnew hfull =>
    refine h.answeredBy_of_new hnew ?_
    rw [if_neg (Int.not_lt.2 ((h.isFull_iff c.space).1 hfull)), h.get_holding]
  | granted hnew hroom =>
    refine h.answeredBy_of_new hnew ?_
    rw [if_pos ((h.isFull_eq_false_iff c.space).1 hroom), h.nextId_eq]

/-- A call that brings no new name leaves everything as it was. -/
theorem unchanged {c : IdCall} {r : Except Failure Int}
    (hnames : ∀ s, newNames al s (log ++ [(c, r)]) = newNames al s log)
    (htold : ∀ id, r = .ok id → Assoc.get? c.name (later.ids.get c.space) = some id)
    (hleft : Assoc.get? c.name (al.ids.get c.space) = none →
      c.name ∈ newNames al c.space log ∨ (before.get c.space).size ≤
        (before.get c.space).used + (newNames al c.space log).length) :
    Dealt registrant al before (log ++ [(c, r)]) e later := by
  refine ⟨h.linked, h.closed, h.allocator, h.holding, h.kept, ?_, ?_, ?_, ?_, ?_⟩
  · simpa only [hnames] using h.given
  · intro x hx
    rcases List.mem_append.1 hx with hx | hx
    · exact h.told x hx
    · rw [List.mem_singleton.1 hx]
      exact htold
  · simpa only [hnames] using h.counted
  · simpa only [hnames] using h.room
  · intro x hx
    rw [hnames]
    rcases List.mem_append.1 hx with hx | hx
    · exact h.left x hx
    · rw [List.mem_singleton.1 hx]
      exact hleft

/-- A call under a name with an id brings no new name. -/
theorem known {c : IdCall} {id : Int} (hget : Assoc.get? c.name (later.ids.get c.space) = some id) :
    Dealt registrant al before (log ++ [(c, .ok id)]) e later := by
  refine h.unchanged (fun s => newNames_snoc_of_old ?_) ?_ fun hunbound =>
    .inl (h.mem_newNames hget hunbound)
  · intro hgave
    obtain ⟨rfl, hunbound, -⟩ := gaveNew_iff.1 hgave
    exact h.mem_newNames hget hunbound
  · intro other hother
    rw [← Except.ok.inj hother]
    exact hget

/-- A call that is refused brings no new name. -/
theorem full {c : IdCall} {f : Failure}
    (hfull : ((e.registry.holding later.holding).get c.space).isFull = true) :
    Dealt registrant al before (log ++ [(c, .error f)]) e later := by
  refine h.unchanged (fun s => newNames_snoc_of_old ?_) ?_ fun _ => .inr ?_
  · intro hgave
    obtain ⟨-, -, id, hid⟩ := gaveNew_iff.1 hgave
    cases hid
  · exact fun id hid => by cases hid
  · exact (h.isFull_iff c.space).1 hfull

/-- A call under a name without an id that is given one brings this name. -/
theorem newNames_granted {c : IdCall} (hnew : Assoc.get? c.name (later.ids.get c.space) = none)
    (id : Int) (s : Space) : newNames al s (log ++ [(c, .ok id)]) =
      newNames al s log ++ if s = c.space then [c.name] else [] := by
  obtain ⟨hunbound, hnot⟩ := h.unbound_of_new hnew
  by_cases hs : s = c.space
  · subst hs
    rw [newNames_snoc, if_pos ⟨gaveNew_iff.2 ⟨rfl, hunbound, id, rfl⟩, hnot⟩, if_pos rfl]
  · rw [newNames_snoc_of_old fun hgave => absurd (gaveNew_iff.1 hgave).1.symm hs, if_neg hs,
      List.append_nil]

/-- The name has the next id, behind those of the other new names. -/
theorem given_granted {c : IdCall} (hnew : Assoc.get? c.name (later.ids.get c.space) = none)
    (answer : Int) {s : Space} {name : String} (hname : Assoc.get? name (al.ids.get s) = none)
    (id : Int) :
    Assoc.get? name ((e.registry.grantee later c.space c.name).ids.get s) = some id ↔
      ∃ i : Nat, (newNames al s (log ++ [(c, .ok answer)]))[i]? = some name ∧
        id = (before.get s).start + (before.get s).used + i := by
  rw [Registry.get?_grantee_iff hnew, h.given s name hname, h.newNames_granted hnew, h.nextId_eq]
  by_cases hs : s = c.space
  · subst hs
    rw [if_pos rfl]
    constructor
    · rintro (⟨i, hi, hid⟩ | ⟨-, rfl, hid⟩)
      · exact ⟨i, getElem?_snoc_eq_some_iff.2 (.inl hi), hid⟩
      · exact ⟨_, getElem?_snoc_eq_some_iff.2 (.inr ⟨rfl, rfl⟩), hid⟩
    · rintro ⟨i, hi, hid⟩
      rcases getElem?_snoc_eq_some_iff.1 hi with hi | ⟨rfl, rfl⟩
      · exact .inl ⟨i, hi, hid⟩
      · exact .inr ⟨rfl, rfl, hid⟩
  · rw [if_neg hs, List.append_nil]
    exact or_iff_left fun hsame => hs hsame.1

/-- The count of its space is one more. -/
theorem counted_granted {c : IdCall} (hnew : Assoc.get? c.name (later.ids.get c.space) = none)
    (answer : Int) {f : Desk} (hregistry : f.registry = e.registry.granted later c.space c.name)
    (s : Space) : (f.registry.holding al.holding).get s = { before.get s with
      used := (before.get s).used + (newNames al s (log ++ [(c, .ok answer)])).length } := by
  have hlt := (h.linked.allocators registrant later h.allocator).2
  have hholding : f.registry.holding al.holding =
      (e.registry.holding al.holding).modify c.space Reservation.bump := by
    rw [hregistry, ← h.holding]
    exact Registry.holding_modifyHolding_self hlt _
  rw [hholding, h.newNames_granted hnew, List.length_append]
  by_cases hs : s = c.space
  · subst hs
    rw [Both.get_modify_self, h.counted, if_pos rfl, Reservation.bump]
    simp only [Int.natCast_add, List.length_singleton, Int.add_assoc]
    rfl
  · rw [Both.get_modify_of_ne hs, h.counted, if_neg hs]
    rfl

/-- A call that is given an id brings one new name, and the id is its id. -/
theorem granted {c : IdCall} {f : Desk}
    (hnew : Assoc.get? c.name (later.ids.get c.space) = none)
    (hroom : ((e.registry.holding later.holding).get c.space).isFull = false)
    (hregistry : f.registry = e.registry.granted later c.space c.name) :
    Dealt registrant al before
      (log ++ [(c, .ok ((e.registry.holding later.holding).get c.space).nextId)]) f
      (e.registry.grantee later c.space c.name) := by
  have hregistrant := (h.linked.allocators registrant later h.allocator).1
  have hless := (h.isFull_eq_false_iff c.space).1 hroom
  refine
    { linked := (Grants.continues h.linked h.allocator ⟨hroom, hregistry⟩).linked
      closed := by rw [hregistry]; exact h.closed
      allocator := by rw [hregistry]; exact Registry.allocator?_granted_self hregistrant
      holding := h.holding
      kept := fun s name id hget => Registry.get?_grantee_of_some hnew (h.kept s name id hget)
      given := fun _ _ hname id => h.given_granted hnew _ hname id
      told := ?_
      counted := h.counted_granted hnew _ hregistry
      room := ?_
      left := ?_ }
  · intro x hx id hid
    rcases List.mem_append.1 hx with hx | hx
    · exact Registry.get?_grantee_of_some hnew (h.told x hx id hid)
    · obtain rfl := List.mem_singleton.1 hx
      rw [← Except.ok.inj hid]
      exact Registry.get?_grantee_self
  · intro s
    rw [h.newNames_granted hnew]
    by_cases hs : s = c.space
    · subst hs
      intro _
      rw [if_pos rfl, List.length_append, List.length_singleton]
      omega
    · rw [if_neg hs, List.append_nil]
      exact h.room s
  · intro x hx hname
    rw [h.newNames_granted hnew, List.length_append]
    rcases List.mem_append.1 hx with hx | hx
    · exact (h.left x hx hname).imp (List.mem_append_left _) fun hfull => by omega
    · obtain rfl := List.mem_singleton.1 hx
      rw [if_pos rfl]
      exact .inl (List.mem_append_right _ (List.mem_singleton_self _))

/-- **One call:** it is answered as the log before it tells, and the log with it tells what the registry
holds. -/
theorem step (c : IdCall) (hwritten : ∀ f, e.answer registrant c = .error f → f.ofWriting = false) :
    AnsweredBy registrant al before log c (e.answer registrant c) ∧
      ∃ next, Dealt registrant al before (log ++ [(c, e.answer registrant c)])
        (e.after (c.request registrant)) next := by
  have hregistrant := (h.linked.allocators registrant later h.allocator).1
  have hdeals := deals_of_written h.closed h.allocator hregistrant c hwritten
  refine ⟨h.answeredBy hdeals, ?_⟩
  -- the answer and the desk are indices of `Deals`, so they have to be variables
  generalize e.answer registrant c = r at *
  generalize e.after (c.request registrant) = f at *
  cases hdeals with
  | known id hget => exact ⟨_, h.known hget⟩
  | full hnew hfull => exact ⟨_, h.full hfull⟩
  | granted hnew hroom _ hregistry => exact ⟨_, h.granted hnew hroom hregistry⟩

/-- **The ids that are given out** are the next ones, as many as there are new names. -/
theorem gives_iff {s : Space} {id : Int} : Gives al log s id ↔
    ∃ i : Nat, i < (newNames al s log).length ∧
      id = (before.get s).start + (before.get s).used + i := by
  constructor
  · rintro ⟨x, hx, rfl, hunbound, hid⟩
    obtain ⟨i, hi, hid⟩ := (h.given _ _ hunbound id).1 (h.told x hx id hid)
    obtain ⟨hlt, -⟩ := List.getElem?_eq_some_iff.1 hi
    exact ⟨i, hlt, hid⟩
  · rintro ⟨i, hlt, hid⟩
    obtain ⟨hunbound, x, hx, rfl, hname, other, hother⟩ :=
      mem_newNames_iff.1 (List.getElem_mem hlt)
    have hget := (h.given _ _ hunbound id).2 ⟨i, List.getElem?_eq_getElem hlt, hid⟩
    rw [← hname] at hunbound hget
    -- the name was answered with some id, and this is the one it has
    obtain rfl := Option.some.inj (hget.symm.trans (h.told x hx other hother))
    exact ⟨x, hx, rfl, hunbound, hother⟩

/-- More calls, in whatever order, give out no fewer ids. -/
theorem length_newNames_le {more : List Answered} {f : Desk} {last : Allocator}
    (hmore : Dealt registrant al before more f last)
    (hsub : ∀ x ∈ log, ∃ y ∈ more, y.1 = x.1) (s : Space) :
    (newNames al s log).length ≤ (newNames al s more).length := by
  by_contra hless
  have hne : newNames al s log ≠ [] := by
    rintro hnil
    rw [hnil] at hless
    exact hless (Nat.zero_le _)
  have hroom := h.room s hne
  -- there were ids left, so every call was answered with one
  have hall : newNames al s log ⊆ newNames al s more := by
    intro name hname
    obtain ⟨hunbound, x, hx, rfl, rfl, -⟩ := mem_newNames_iff.1 hname
    obtain ⟨y, hy, hsame⟩ := hsub x hx
    rw [← hsame] at hunbound hroom hless ⊢
    rcases hmore.left y hy hunbound with hmem | hfull
    · exact hmem
    · omega
  exact hless (List.Nodup.subperm (nodup_newNames al s log) hall).length_le

end Dealt

/-! ### All calls -/

section Calls

variable {d : Desk} {registrant : String} {al : Allocator}

/-- **A list of calls:** its log tells what the registry holds. -/
theorem dealt_log (hlinked : d.registry.Linked) (hopen : d.registry.closed = false)
    (hal : d.registry.allocator? registrant = some al) (calls : List IdCall)
    (hwritten : Written (d.log registrant calls)) :
    ∃ later, Dealt registrant al (d.registry.holding al.holding) (d.log registrant calls)
      (d.called registrant calls) later := by
  -- from the right: what a call is answered depends on all the calls before it
  induction calls using List.reverseRecOn with
  | nil => exact ⟨al, .init hlinked hopen hal⟩
  | append_singleton calls c ih =>
    rw [log_snoc] at hwritten
    obtain ⟨later, hdealt⟩ := ih hwritten.init
    rw [log_snoc, called_snoc]
    exact (hdealt.step c fun f hf => hwritten _ (List.mem_append_right _ (List.mem_singleton_self _))
      f hf).2

/-- Every answer in a log is the one that the answers before it tell. -/
theorem answeredBy_log (hlinked : d.registry.Linked) (hopen : d.registry.closed = false)
    (hal : d.registry.allocator? registrant = some al) {calls : List IdCall}
    (hwritten : Written (d.log registrant calls)) {earlier later : List Answered} {c : IdCall}
    {r : Except Failure Int} (hlog : d.log registrant calls = earlier ++ (c, r) :: later) :
    AnsweredBy registrant al (d.registry.holding al.holding) earlier c r := by
  obtain ⟨before, after, rfl, rfl, rfl⟩ := eq_of_log_eq hlog
  rw [hlog] at hwritten
  obtain ⟨_, hdealt⟩ := dealt_log hlinked hopen hal before hwritten.init
  exact (hdealt.step c fun f hf =>
    hwritten _ (List.mem_append_right _ List.mem_cons_self) f hf).1

/-- A name with an id at the beginning is answered with it. -/
theorem eq_ok_of_mem_log (hlinked : d.registry.Linked) (hopen : d.registry.closed = false)
    (hal : d.registry.allocator? registrant = some al) {calls : List IdCall}
    (hwritten : Written (d.log registrant calls)) {x : Answered} (hx : x ∈ d.log registrant calls)
    {id : Int} (hget : Assoc.get? x.1.name (al.ids.get x.1.space) = some id) : x.2 = .ok id := by
  obtain ⟨earlier, later, hlog⟩ := List.append_of_mem hx
  exact (answeredBy_log hlinked hopen hal hwritten hlog).bound id hget

theorem mem_log_of_perm {calls others : List IdCall} (hperm : others.Perm calls) {x : Answered}
    (hx : x ∈ d.log registrant others) : ∃ y ∈ d.log registrant calls, y.1 = x.1 := by
  have hcall : x.1 ∈ (d.log registrant calls).map Prod.fst := by
    rw [map_fst_log]
    refine hperm.mem_iff.1 ?_
    rw [← map_fst_log d registrant others]
    exact List.mem_map_of_mem hx
  exact List.mem_map.1 hcall

/-- What is given out in one order is given out in any other. -/
theorem gives_of_perm (hlinked : d.registry.Linked) (hopen : d.registry.closed = false)
    (hal : d.registry.allocator? registrant = some al) {calls others : List IdCall}
    (hperm : others.Perm calls) (hwritten : Written (d.log registrant calls))
    (hothers : Written (d.log registrant others)) {s : Space} {id : Int}
    (hgives : Gives al (d.log registrant others) s id) : Gives al (d.log registrant calls) s id := by
  obtain ⟨_, hdealt⟩ := dealt_log hlinked hopen hal calls hwritten
  obtain ⟨_, hdealt'⟩ := dealt_log hlinked hopen hal others hothers
  obtain ⟨i, hi, hnext⟩ := hdealt'.gives_iff.1 hgives
  have hle := hdealt'.length_newNames_le hdealt (fun _ hx => mem_log_of_perm hperm hx) s
  exact hdealt.gives_iff.2 ⟨i, Nat.lt_of_lt_of_le hi hle, hnext⟩

/-- What is handed out in one order is handed out in any other. -/
theorem hands_of_perm (hlinked : d.registry.Linked) (hopen : d.registry.closed = false)
    (hal : d.registry.allocator? registrant = some al) {calls others : List IdCall}
    (hperm : others.Perm calls) (hwritten : Written (d.log registrant calls))
    (hothers : Written (d.log registrant others)) {s : Space} {id : Int}
    (hhands : Hands (d.log registrant others) s id) : Hands (d.log registrant calls) s id := by
  obtain ⟨x, hx, rfl, hid⟩ := hhands
  -- names with an id are answered alike in both orders; of the others only the ids are the same
  cases hget : Assoc.get? x.1.name (al.ids.get x.1.space) with
  | some bound =>
    obtain ⟨y, hy, hsame⟩ := mem_log_of_perm hperm hx
    have hbound := eq_ok_of_mem_log hlinked hopen hal hothers hx hget
    rw [← hsame] at hget ⊢
    exact ⟨y, hy, rfl, (eq_ok_of_mem_log hlinked hopen hal hwritten hy hget).trans
      (hbound.symm.trans hid)⟩
  | none =>
    obtain ⟨y, hy, hspace, -, hid⟩ :=
      gives_of_perm hlinked hopen hal hperm hwritten hothers ⟨x, hx, rfl, hget, hid⟩
    exact ⟨y, hy, hspace, hid⟩

end Calls

/-- Without assignments, a registry is lawful. -/
theorem lawful_befallen {d : Desk} (h : d.registry.Lawful) {incidents : List Incident}
    (hevents : ∀ incident ∈ incidents, ∃ event, incident = .event event) :
    (d.befallen incidents).registry.Lawful := by
  induction incidents generalizing d with
  | nil => exact h
  | cons incident rest ih =>
    obtain ⟨⟨event, rfl⟩, hrest⟩ := List.forall_mem_cons.1 hevents
    exact ih (d := d.behind event) (lawful_behind h event) hrest

/-- Where the sizes are those of a lawful registry, every refusal can be shown: the zones are small. -/
theorem met_of_lawful {r : Registry} (h : r.Lawful) {registrant : String} {al : Allocator}
    (hal : r.allocator? registrant = some al) (s : Space) :
    (Failure.reservationExhausted registrant s ((r.holding al.holding).get s).size).met =
      .reservationExhausted registrant s ((r.holding al.holding).get s).size := by
  refine Failure.met_eq_self (List.forall_mem_singleton.2 (Text.readable_of_lt ?_))
  have hbounds := (h.fits (h.allocators registrant al hal).holding s).bounds
  have hzone : 0 ≤ s.zone.lower ∧ s.zone.upper < 50000 := by cases s <;> decide
  omega

/-- **The law of calls.** In an open registry, whatever has befallen it, an allocator is called for any
ids, in any order and both spaces, and every write goes through.

* Each call is answered with the id that its name had at the beginning, or was given by an earlier call,
  or else with the next one, as long as there is one. If there is none, the refusal tells the size; only
  a size that was assigned may have too many digits for that.
* At the end every space counts as many ids more as names were given one.
* The same calls in another order hand out the same ids. -/
theorem dealt_calls (layout : Layout) (passes : Int) (disk : Disk) (incidents : List Incident)
    {registrant : String} {al : Allocator} {calls : List IdCall} :
    let d := chronicle layout passes disk incidents
    d.registry.closed = false → d.registry.allocator? registrant = some al →
    Written (d.log registrant calls) →
    (∀ earlier c r later, d.log registrant calls = earlier ++ (c, r) :: later →
      AnsweredBy registrant al (d.registry.holding al.holding) earlier c r) ∧
    (∃ last, (d.called registrant calls).registry.allocator? registrant = some last ∧
      last.holding = al.holding ∧ ∀ s,
        ((d.called registrant calls).registry.holding al.holding).get s =
          { (d.registry.holding al.holding).get s with
            used := ((d.registry.holding al.holding).get s).used +
              (newNames al s (d.log registrant calls)).length }) ∧
    ((∀ incident ∈ incidents, ∃ event, incident = .event event) → ∀ s,
      let size := ((d.registry.holding al.holding).get s).size
      (Failure.reservationExhausted registrant s size).met =
        .reservationExhausted registrant s size) ∧
    ∀ others, others.Perm calls → Written (d.log registrant others) → ∀ s,
      (∀ id, Hands (d.log registrant others) s id ↔ Hands (d.log registrant calls) s id) ∧
      ∀ id, Gives al (d.log registrant others) s id ↔ Gives al (d.log registrant calls) s id := by
  intro d hopen hal hwritten
  have hlinked : d.registry.Linked := linked_chronicle layout passes disk incidents
  obtain ⟨last, hdealt⟩ := dealt_log hlinked hopen hal calls hwritten
  refine ⟨fun _ _ _ _ hlog => answeredBy_log hlinked hopen hal hwritten hlog,
    ⟨last, hdealt.allocator, hdealt.holding, hdealt.counted⟩, fun hevents s =>
      met_of_lawful (lawful_befallen (Registry.lawful_fresh layout passes) hevents) hal s, ?_⟩
  intro others hperm hothers s
  refine ⟨fun id => ⟨?_, ?_⟩, fun id => ⟨?_, ?_⟩⟩
  · exact hands_of_perm hlinked hopen hal hperm hwritten hothers
  · exact hands_of_perm hlinked hopen hal hperm.symm hothers hwritten
  · exact gives_of_perm hlinked hopen hal hperm hwritten hothers
  · exact gives_of_perm hlinked hopen hal hperm.symm hothers hwritten

/-- A registry with an allocator of `alpha`, which has handed out one of three ids in space A. -/
def supplied : Desk :=
  chronicle {} 2 {} [.event (.asked (.allocatorFor (.text "alpha") (.int 3) .null)),
    .event (.asked (.allocate "alpha" (.text "old") (.space .a)))]

/-- Calls in both spaces, more than there are ids in space A. -/
def orders : List IdCall :=
  [⟨.a, "new", .space .a, rfl, by decide +kernel⟩, ⟨.b, "new", .text "B", rfl, by decide +kernel⟩,
    ⟨.a, "old", .space .a, rfl, by decide +kernel⟩, ⟨.a, "new", .text "a", rfl, by decide +kernel⟩,
    ⟨.a, "last", .space .a, rfl, by decide +kernel⟩, ⟨.a, "late", .space .a, rfl, by decide +kernel⟩,
    ⟨.b, "late", .space .b, rfl, by decide +kernel⟩]

/-- In space A `late` comes too late. In the reverse order `new` does, but the ids are the same. -/
theorem dealt_calls_supplied : ∃ al, supplied.registry.closed = false ∧
    supplied.registry.allocator? "alpha" = some al ∧ Written (supplied.log "alpha" orders) ∧
    (supplied.log "alpha" orders).map (fun x => x.2.toOption) =
      [some 3396, some 28672, some 3395, some 3396, some 3397, none, some 28673] ∧
    (((supplied.called "alpha" orders).registry.holding al.holding).get .a).used =
      ((supplied.registry.holding al.holding).get .a).used + 2 ∧
    (supplied.log "alpha" orders.reverse).map (fun x => x.2.toOption) =
      [some 28672, some 3396, some 3397, none, some 3395, some 28673, none] ∧
    ∀ id, Gives al (supplied.log "alpha" orders.reverse) .a id ↔
      Gives al (supplied.log "alpha" orders) .a id := by
  have hopen : supplied.registry.closed = false := by decide +kernel
  have hallocator : (supplied.registry.allocator? "alpha").any (fun al =>
      (newNames al .a (supplied.log "alpha" orders)).length = 2) = true := by
    decide +kernel
  have hwritten : Written (supplied.log "alpha" orders) := by decide +kernel
  have hanswers : (supplied.log "alpha" orders).map (fun x => x.2.toOption) =
      [some 3396, some 28672, some 3395, some 3396, some 3397, none, some 28673] := by
    decide +kernel
  have hreverse : Written (supplied.log "alpha" orders.reverse) := by decide +kernel
  have hreversed : (supplied.log "alpha" orders.reverse).map (fun x => x.2.toOption) =
      [some 28672, some 3396, some 3397, none, some 3395, some 28673, none] := by
    decide +kernel
  obtain ⟨al, hal, hlength⟩ := (Option.any_eq_true _ _).1 hallocator
  have hlaw := @dealt_calls {} 2 {}
    [.event (.asked (.allocatorFor (.text "alpha") (.int 3) .null)),
      .event (.asked (.allocate "alpha" (.text "old") (.space .a)))] "alpha" al orders
  rw [← supplied] at hlaw
  generalize supplied = d at *
  obtain ⟨-, ⟨_, -, -, hcounted⟩, -, horder⟩ := hlaw hopen hal hwritten
  refine ⟨al, hopen, hal, hwritten, hanswers, ?_, hreversed,
    (horder _ orders.reverse_perm hreverse .a).2⟩
  have hused := congrArg Reservation.used (hcounted .a)
  rw [of_decide_eq_true hlength] at hused
  exact hused

end Desk

end Allotment
