import Allotment.Proofs.Ledger.Copy

/-!
# The fate of every line

A ledger is read line by line, and what is read is settled entry by entry. On the way a line can be
lost in several places, and a line that is lost silently means a registrant that silently moves to
other ids. This file follows each line from the file to the table or to the report.

* `Fate` — a line is skipped by the reader, dropped by the settlement, or accepted;
* `Befalls` — which of these it is, and why, given what was accepted before;
* `exists_befalls`, `Befalls.unique` — **PROVED**: each line has exactly one fate;
* `judge_of_befalls` — **PROVED**: and the settlement finds just that;
* `Settles`, `settleFrom_of_settles` — **PROVED**: so the fates of all lines, taken in their order,
  give the table and everything that is found;
* `Accounts`, `accounts_settle` — **PROVED**: every issue of the report tells of one line, and each
  line has the issues of its fate and no others;
* `Accounts.clean_iff`, `Accounts.table_of_clean` — **PROVED**: nothing is reported just if all lines
  are accepted as they are, and then the table is what the lines say.
-/

namespace Allotment.Ledger

open Text (NumberedLine)

/-! ### Objections -/

/-- What an entry passes before its counts are looked at: its name, the search for an earlier line of
the same name, and the bounds of the spaces. -/
structure Entry.Passes (e : Entry) (accepted : List (String × Holding)) : Prop where
  name : Registrant.accepts e.registrant = true
  new : e.registrant ∉ Assoc.keys accepted
  inBounds : ∀ s, (e.holding.get s).inBounds = true

/-- Nobody accepted earlier has a window in the way. -/
def Free (accepted : List (String × Holding)) (h : Holding) : Prop :=
  ∀ x ∈ accepted, ∀ s, (h.get s).overlaps (x.2.get s) = false

/-- The earliest owner with a window in the way, and the first space in which it is. -/
def Meets (accepted : List (String × Holding)) (h : Holding) (space : Space) (owner : String) :
    Prop :=
  ∃ before other after, accepted = before ++ (owner, other) :: after ∧ Free before h ∧
    (h.get space).overlaps (other.get space) = true ∧
    (space = .b → (h.get .a).overlaps (other.get .a) = false)

/-- Why an entry is dropped, given those accepted before it. Each reason implies that those before
it do not apply. -/
inductive Objects (accepted : List (String × Holding)) (e : Entry) : Objection → Prop
  | invalidName (hname : Registrant.accepts e.registrant = false) :
      Objects accepted e .invalidName
  | duplicate (hname : Registrant.accepts e.registrant = true)
      (hdup : e.registrant ∈ Assoc.keys accepted) : Objects accepted e .duplicate
  | outOfBounds (hname : Registrant.accepts e.registrant = true)
      (hnew : e.registrant ∉ Assoc.keys accepted) (hleft : spacesLeft e.holding ≠ []) :
      Objects accepted e (.outOfBounds (spacesLeft e.holding))
  | overlap {space : Space} {owner : String} (hpass : e.Passes accepted)
      (hmeets : Meets accepted e.settled space owner) : Objects accepted e (.overlap space owner)

theorem find?_all_eq_some_iff {p : Space → Bool} {s : Space} :
    Space.all.find? p = some s ↔ p s = true ∧ (s = .b → p .a = false) := by
  cases ha : p .a <;> cases hb : p .b <;> cases s <;> simp [Space.all, ha, hb]

theorem clash?_eq_some_iff {accepted : List (String × Holding)} {h : Holding} {space : Space}
    {owner : String} : clash? accepted h = some (owner, space) ↔ Meets accepted h space owner := by
  unfold clash? Meets
  rw [List.findSome?_eq_some_iff]
  constructor
  · intro hsome
    obtain ⟨before, ⟨name, other⟩, after, heq, hfound, hbefore⟩ := hsome
    obtain ⟨s, hfind, hpair⟩ := Option.map_eq_some_iff.1 hfound
    cases hpair
    obtain ⟨hover, hfirst⟩ := find?_all_eq_some_iff.1 hfind
    exact ⟨before, other, after, heq,
      clash?_eq_none_iff.1 (List.findSome?_eq_none_iff.2 hbefore), hover, hfirst⟩
  · intro hmeets
    obtain ⟨before, other, after, heq, hbefore, hover, hfirst⟩ := hmeets
    refine ⟨before, (owner, other), after, heq, ?_,
      List.findSome?_eq_none_iff.1 (clash?_eq_none_iff.2 hbefore)⟩
    exact Option.map_eq_some_iff.2 ⟨space, find?_all_eq_some_iff.2 ⟨hover, hfirst⟩, rfl⟩

/-- **To every entry there is an objection, or none.** -/
theorem exists_objects_or_passes (accepted : List (String × Holding)) (e : Entry) :
    (∃ why, Objects accepted e why) ∨ (e.Passes accepted ∧ Free accepted e.settled) := by
  cases hname : Registrant.accepts e.registrant with
  | false => exact .inl ⟨_, .invalidName hname⟩
  | true =>
    by_cases hdup : e.registrant ∈ Assoc.keys accepted
    · exact .inl ⟨_, .duplicate hname hdup⟩
    · by_cases hleft : spacesLeft e.holding = []
      · have hpass : e.Passes accepted := ⟨hname, hdup, spacesLeft_eq_nil_iff.1 hleft⟩
        cases hclash : clash? accepted e.settled with
        | none => exact .inr ⟨hpass, clash?_eq_none_iff.1 hclash⟩
        | some found => exact .inl ⟨_, .overlap hpass (clash?_eq_some_iff.1 hclash)⟩
      · exact .inl ⟨_, .outOfBounds hname hdup hleft⟩

/-! ### The fate of a line -/

/-- What becomes of a line. -/
inductive Fate where
  /-- It is not read. -/
  | skipped (flaw : Flaw)
  /-- It is read, but its entry is dropped. -/
  | dropped (entry : Entry) (why : Objection)
  /-- Its entry is accepted. -/
  | accepted (entry : Entry)
  deriving DecidableEq

/-- The issues about the counts of an entry: one for each space in which more ids are used than the
window has. -/
def clampIssues (source : String) (e : Entry) : List Issue :=
  (Space.all.filter fun s => decide ((e.holding.get s).size < (e.holding.get s).used)).map fun s =>
    (Finding.clamped e s (e.holding.get s).used (e.holding.get s).size).issue source

namespace Fate

/-- What a line adds to the table. -/
def row? : Fate → Option (String × Holding)
  | .accepted e => some (e.registrant, e.settled)
  | _ => none

/-- The entry of a line, if its counts are looked at. -/
def counted? : Fate → Option Entry
  | .accepted e => some e
  | .dropped e (.overlap _ _) => some e
  | _ => none

/-- The issue that says that a line is lost. -/
def loss? (source : String) (l : NumberedLine) : Fate → Option Issue
  | .skipped flaw => some ⟨source, .warn, flaw.fault.message, some l.number, flaw.registrant,
      some (String.ofList l.chars)⟩
  | .dropped e why => some ((Finding.dropped e why).issue source)
  | .accepted _ => none

/-- All issues about a line. -/
def issues (source : String) (l : NumberedLine) (f : Fate) : List Issue :=
  f.counted?.toList.flatMap (clampIssues source) ++ (f.loss? source l).toList

/-- The line is accepted, and stands in the table with the numbers that it has in the file. -/
def Unchanged (f : Fate) : Prop := ∃ e, f = .accepted e ∧ e.settled = e.holding

/-- What the settlement finds. -/
def findings (f : Fate) : List Finding :=
  f.counted?.toList.flatMap clamps ++ match f with
    | .dropped e why => [.dropped e why]
    | _ => []

end Fate

/-- Which fate a line has, given what was accepted before it. -/
inductive Befalls (accepted : List (String × Holding)) (l : NumberedLine) : Fate → Prop
  | skipped {flaw : Flaw} (hread : readEntry (some l.number) l.chars = .error flaw) :
      Befalls accepted l (.skipped flaw)
  | dropped {e : Entry} {why : Objection} (hread : readEntry (some l.number) l.chars = .ok e)
      (hwhy : Objects accepted e why) : Befalls accepted l (.dropped e why)
  | accepted {e : Entry} (hread : readEntry (some l.number) l.chars = .ok e)
      (hpass : e.Passes accepted) (hfree : Free accepted e.settled) :
      Befalls accepted l (.accepted e)

/-- **Every line has a fate.** -/
theorem exists_befalls (accepted : List (String × Holding)) (l : NumberedLine) :
    ∃ f, Befalls accepted l f := by
  cases hread : readEntry (some l.number) l.chars with
  | error flaw => exact ⟨_, .skipped hread⟩
  | ok e =>
    rcases exists_objects_or_passes accepted e with ⟨why, hwhy⟩ | ⟨hpass, hfree⟩
    · exact ⟨_, .dropped hread hwhy⟩
    · exact ⟨_, .accepted hread hpass hfree⟩

theorem judge_of_objects {accepted : List (String × Holding)} {e : Entry} {why : Objection}
    (h : Objects accepted e why) : judge accepted e = ((Fate.dropped e why).findings, none) := by
  cases h with
  | invalidName hname =>
    rw [judge, if_pos (by simp [hname])]
    rfl
  | duplicate hname hdup =>
    rw [judge, if_neg (by simp [hname]), if_pos (any_owner_iff.2 hdup)]
    rfl
  | outOfBounds hname hnew hleft =>
    obtain ⟨s, more, hspaces⟩ := List.exists_cons_of_ne_nil hleft
    rw [judge_of_new hname hnew, hspaces]
    rfl
  | overlap hpass hmeets =>
    rw [judge_of_new hpass.name hpass.new, spacesLeft_eq_nil_iff.2 hpass.inBounds,
      clash?_eq_some_iff.2 hmeets]
    simp [Fate.findings, Fate.counted?]

/-- **The settlement finds what the fate of a line is,** if the line is read at all. -/
theorem judge_of_befalls {accepted : List (String × Holding)} {l : NumberedLine} {f : Fate}
    (h : Befalls accepted l f) {e : Entry} (hread : readEntry (some l.number) l.chars = .ok e) :
    judge accepted e = (f.findings, f.row?.map Prod.snd) := by
  cases h with
  | skipped hflaw =>
    rw [hread] at hflaw
    cases hflaw
  | dropped hentry hwhy =>
    obtain rfl := Except.ok.inj (hread.symm.trans hentry)
    exact judge_of_objects hwhy
  | accepted hentry hpass hfree =>
    obtain rfl := Except.ok.inj (hread.symm.trans hentry)
    have hjudge := judge_of_accepted hpass.name hpass.new
      (spacesLeft_eq_nil_iff.2 hpass.inBounds) (clash?_eq_none_iff.2 hfree)
    simp [hjudge, Fate.findings, Fate.counted?, Fate.row?]

theorem Objects.unique {accepted : List (String × Holding)} {e : Entry} {why why' : Objection}
    (h : Objects accepted e why) (h' : Objects accepted e why') : why = why' := by
  have hjudge := (judge_of_objects h).symm.trans (judge_of_objects h')
  -- whatever was found about the counts, the objection is the last that is found
  have hlast := congrArg List.getLast? (congrArg Prod.fst hjudge)
  simp only [Fate.findings, List.getLast?_append_cons, List.getLast?_singleton,
    Option.some.injEq, Finding.dropped.injEq, true_and] at hlast
  exact hlast

/-- **No line has two fates.** -/
theorem Befalls.unique {accepted : List (String × Holding)} {l : NumberedLine} {f g : Fate}
    (hf : Befalls accepted l f) (hg : Befalls accepted l g) : f = g := by
  cases hread : readEntry (some l.number) l.chars with
  | error flaw =>
    have hskipped : ∀ {f}, Befalls accepted l f → f = .skipped flaw := by
      intro f h
      cases h with
      | skipped hflaw => rw [Except.error.inj (hflaw.symm.trans hread)]
      | dropped hentry _ => cases hentry.symm.trans hread
      | accepted hentry _ _ => cases hentry.symm.trans hread
    rw [hskipped hf, hskipped hg]
  | ok e =>
    have hjudge := (judge_of_befalls hf hread).symm.trans (judge_of_befalls hg hread)
    have hverdict : f.row?.map Prod.snd = g.row?.map Prod.snd := congrArg Prod.snd hjudge
    cases hf with
    | skipped hflaw => cases hflaw.symm.trans hread
    | dropped hentry hwhy =>
      cases hg with
      | skipped hflaw => cases hflaw.symm.trans hread
      | dropped hentry' hwhy' =>
        obtain rfl := Except.ok.inj (hentry.symm.trans hentry')
        rw [hwhy.unique hwhy']
      | accepted _ _ _ => cases hverdict
    | accepted hentry _ _ =>
      cases hg with
      | skipped hflaw => cases hflaw.symm.trans hread
      | dropped _ _ => cases hverdict
      | accepted hentry' _ _ => rw [Except.ok.inj (hentry.symm.trans hentry')]

/-! ### The issues about a line -/

theorem map_clamps (source : String) (e : Entry) :
    (clamps e).map (Finding.issue source) = clampIssues source e := by
  unfold clamps clampIssues Space.all
  by_cases ha : (e.holding.get .a).size < (e.holding.get .a).used <;>
    by_cases hb : (e.holding.get .b).size < (e.holding.get .b).used <;>
      simp [ha, hb]

/-- **A line has the issues of its fate:** one from the reader if it is not read, otherwise those of
the settlement. -/
theorem issues_of_befalls {accepted : List (String × Holding)} {l : NumberedLine} {f : Fate}
    (h : Befalls accepted l f) (source : String) :
    f.issues source l = ((readLine (some l.number) l.chars).issue? source).toList ++
      f.findings.map (Finding.issue source) := by
  unfold Fate.issues Fate.findings readLine Reading.issue?
  cases h with
  | skipped hread =>
    rw [hread]
    rfl
  | dropped hread hwhy =>
    rw [hread]
    simp only [List.map_append, List.map_flatMap, map_clamps]
    rfl
  | accepted hread hpass hfree =>
    rw [hread]
    simp only [List.map_append, List.map_flatMap, map_clamps]
    rfl

/-- An entry whose counts are looked at was read from the line. -/
theorem read_of_counted {accepted : List (String × Holding)} {l : NumberedLine} {f : Fate}
    (h : Befalls accepted l f) {e : Entry} (hcounted : f.counted? = some e) :
    readEntry (some l.number) l.chars = .ok e := by
  cases h with
  | skipped _ => cases hcounted
  | dropped hread hwhy =>
    cases hwhy with
    | invalidName _ => cases hcounted
    | duplicate _ _ => cases hcounted
    | outOfBounds _ _ _ => cases hcounted
    | overlap _ _ =>
      cases hcounted
      exact hread
  | accepted hread _ _ =>
    cases hcounted
    exact hread

/-- Every issue about a line has the number of the line. -/
theorem lineNo_of_mem_issues {accepted : List (String × Holding)} {l : NumberedLine} {f : Fate}
    (h : Befalls accepted l f) {source : String} {i : Issue} (hi : i ∈ f.issues source l) :
    i.lineNo = some l.number := by
  rcases List.mem_append.1 hi with hclamp | hloss
  · obtain ⟨e, he, hclamp⟩ := List.mem_flatMap.1 hclamp
    obtain ⟨s, -, rfl⟩ := List.mem_map.1 hclamp
    exact lineNo_of_readEntry (read_of_counted h (Option.mem_toList.1 he))
  · rw [Option.mem_toList] at hloss
    cases h with
    | skipped _ =>
      cases hloss
      rfl
    | dropped hread _ =>
      cases hloss
      exact lineNo_of_readEntry hread
    | accepted _ _ _ => cases hloss

/-- The counts of an entry need no cutting down just if cutting them down changes nothing. -/
theorem clampIssues_eq_nil_iff {source : String} {e : Entry} :
    clampIssues source e = [] ↔ e.settled = e.holding := by
  have hclamped : ∀ s, (e.settled.get s = e.holding.get s ↔
      ¬(e.holding.get s).size < (e.holding.get s).used) := by
    intro s
    rw [Entry.settled, Both.get_map, Int.not_lt]
    constructor
    · intro heq
      have hused : min (e.holding.get s).used (e.holding.get s).size = (e.holding.get s).used :=
        congrArg Reservation.used heq
      omega
    · intro hle
      rw [Reservation.clamped, Int.min_eq_left hle]
  rw [clampIssues, List.map_eq_nil_iff, List.filter_eq_nil_iff]
  constructor
  · intro hnone
    apply Both.ext_get
    intro s
    exact (hclamped s).2 fun hlt => hnone s (Space.mem_all s) (decide_eq_true hlt)
  · intro heq s _ hlt
    exact (hclamped s).1 (congrArg (Both.get · s) heq) (of_decide_eq_true hlt)

/-- **A line has no issue just if it is accepted as it is.** -/
theorem issues_eq_nil_iff {source : String} {l : NumberedLine} {f : Fate} :
    f.issues source l = [] ↔ f.Unchanged := by
  cases f with
  | skipped flaw => simp [Fate.issues, Fate.loss?, Fate.Unchanged]
  | dropped e why => simp [Fate.issues, Fate.loss?, Fate.Unchanged]
  | accepted e =>
    have hissues : (Fate.accepted e).issues source l = clampIssues source e := by
      simp [Fate.issues, Fate.counted?, Fate.loss?]
    rw [hissues, clampIssues_eq_nil_iff]
    constructor
    · exact fun heq => ⟨e, rfl, heq⟩
    · intro hunchanged
      obtain ⟨_, ⟨⟩, heq⟩ := hunchanged
      exact heq

/-! ### The fates of all lines -/

/-- The fates of lines, each settled behind those before it. -/
inductive Settles : List (String × Holding) → List (NumberedLine × Fate) → Prop
  | nil {accepted : List (String × Holding)} : Settles accepted []
  | cons {accepted : List (String × Holding)} {l : NumberedLine} {f : Fate}
      {rest : List (NumberedLine × Fate)} (hfate : Befalls accepted l f)
      (hrest : Settles (accepted ++ f.row?.toList) rest) : Settles accepted ((l, f) :: rest)

/-- The readings of lines whose fates are known. -/
def readings (fates : List (NumberedLine × Fate)) : List Reading :=
  fates.map fun x => readLine (some x.1.number) x.1.chars

theorem exists_settles (lines : List NumberedLine) (accepted : List (String × Holding)) :
    ∃ fates, fates.map Prod.fst = lines ∧ Settles accepted fates := by
  induction lines generalizing accepted with
  | nil => exact ⟨[], rfl, .nil⟩
  | cons l rest ih =>
    obtain ⟨f, hfate⟩ := exists_befalls accepted l
    obtain ⟨fates, hlines, hrest⟩ := ih (accepted ++ f.row?.toList)
    exact ⟨(l, f) :: fates, by rw [List.map_cons, hlines], .cons hfate hrest⟩

theorem Settles.unique {accepted : List (String × Holding)}
    {fates others : List (NumberedLine × Fate)} (h : Settles accepted fates)
    (h' : Settles accepted others) (hlines : others.map Prod.fst = fates.map Prod.fst) :
    others = fates := by
  induction h generalizing others with
  | nil => exact List.map_eq_nil_iff.1 hlines
  | cons hfate _ ih =>
    cases h' with
    | nil => cases hlines
    | cons hfate' hrest' =>
      rw [List.map_cons, List.map_cons, List.cons.injEq] at hlines
      obtain ⟨rfl, hlines⟩ := hlines
      obtain rfl := hfate.unique hfate'
      rw [ih hrest' hlines]

/-- Every line has its fate behind some table. -/
theorem Settles.befalls {accepted : List (String × Holding)} {fates : List (NumberedLine × Fate)}
    (h : Settles accepted fates) : ∀ x ∈ fates, ∃ earlier, Befalls earlier x.1 x.2 := by
  induction h with
  | nil => simp
  | cons hfate _ ih =>
    intro x hx
    rcases List.mem_cons.1 hx with rfl | hx
    · exact ⟨_, hfate⟩
    · exact ih x hx

/-- One line of the settlement. -/
theorem settleFrom_readLine {accepted : List (String × Holding)} {l : NumberedLine} {f : Fate}
    (h : Befalls accepted l f) (more : List Reading) :
    settleFrom accepted (entries (readLine (some l.number) l.chars :: more)) =
      ((settleFrom (accepted ++ f.row?.toList) (entries more)).1,
        f.findings ++ (settleFrom (accepted ++ f.row?.toList) (entries more)).2) := by
  unfold entries
  cases hread : readEntry (some l.number) l.chars with
  | error flaw =>
    have hnone : Reading.entry? (readLine (some l.number) l.chars) = none := by
      unfold Reading.entry? readLine
      rw [hread]
      rfl
    have hskipped : f = .skipped flaw := h.unique (.skipped hread)
    rw [List.filterMap_cons_none hnone, hskipped]
    simp [Fate.row?, Fate.findings, Fate.counted?]
  | ok e =>
    have hsome : Reading.entry? (readLine (some l.number) l.chars) = some e := by
      unfold Reading.entry? readLine
      rw [hread]
      rfl
    have hjoin : join accepted e.registrant (f.row?.map Prod.snd) =
        accepted ++ f.row?.toList := by
      cases h with
      | skipped _ => exact (List.append_nil _).symm
      | dropped _ _ => exact (List.append_nil _).symm
      | accepted hentry _ _ =>
        obtain rfl := Except.ok.inj (hentry.symm.trans hread)
        rfl
    rw [List.filterMap_cons_some hsome, settleFrom_cons, judge_of_befalls h hread, hjoin]

/-- **The fates of the lines give the table and all that is found.** -/
theorem settleFrom_of_settles {accepted : List (String × Holding)}
    {fates : List (NumberedLine × Fate)} (h : Settles accepted fates) :
    settleFrom accepted (entries (readings fates)) =
      (accepted ++ fates.filterMap fun x => x.2.row?, fates.flatMap fun x => x.2.findings) := by
  induction h with
  | nil => simp [readings, entries, settleFrom]
  | @cons accepted l f rest hfate hrest ih =>
    show settleFrom accepted (entries (readLine _ _ :: readings rest)) = _
    rw [settleFrom_readLine hfate, ih, List.flatMap_cons, List.append_assoc]
    cases hrow : f.row? <;> simp [hrow]

/-- If all lines are accepted as they are, the table has what the lines say. -/
theorem Settles.exists_entries {accepted : List (String × Holding)}
    {fates : List (NumberedLine × Fate)} (h : Settles accepted fates)
    (hall : ∀ x ∈ fates, x.2.Unchanged) :
    ∃ es : List Entry, (fates.map fun x => readEntry (some x.1.number) x.1.chars) = es.map .ok ∧
      (fates.filterMap fun x => x.2.row?) = es.map fun e => (e.registrant, e.holding) := by
  induction h with
  | nil => exact ⟨[], rfl, rfl⟩
  | cons hfate _ ih =>
    obtain ⟨e, rfl, hsettled⟩ := hall _ List.mem_cons_self
    obtain ⟨es, hread, hrows⟩ := ih fun x hx => hall x (List.mem_cons_of_mem _ hx)
    cases hfate with
    | accepted hentry _ _ =>
      refine ⟨e :: es, ?_, ?_⟩
      · rw [List.map_cons, List.map_cons, hread]
        exact congrArg (· :: es.map .ok) hentry
      · have hrow : (Fate.accepted e).row? = some (e.registrant, e.holding) := by
          rw [Fate.row?, hsettled]
        rw [List.filterMap_cons, hrows]
        simp only [hrow, List.map_cons]

/-! ### The account of a file -/

/-- The issues of a report that carry the number of a line. -/
def issuesAt (issues : List Issue) (number : Int) : List Issue :=
  issues.filter fun i => decide (i.lineNo = some number)

theorem issuesAt_own {issues : List Issue} {number : Int}
    (h : ∀ i ∈ issues, i.lineNo = some number) : issuesAt issues number = issues := by
  rw [issuesAt, List.filter_eq_self]
  exact fun i hi => decide_eq_true (h i hi)

theorem issuesAt_other {issues : List Issue} {number other : Int}
    (h : ∀ i ∈ issues, i.lineNo = some number) (hne : other ≠ number) :
    issuesAt issues other = [] := by
  rw [issuesAt, List.filter_eq_nil_iff]
  intro i hi heq
  rw [h i hi, decide_eq_true_eq, Option.some.injEq] at heq
  exact hne heq.symm

theorem issuesAt_append (issues more : List Issue) (number : Int) :
    issuesAt (issues ++ more) number = issuesAt issues number ++ issuesAt more number :=
  List.filter_append issues more

/-- Issues that are told line by line are found by the numbers of the lines. -/
theorem issuesAt_flatMap {fates : List (NumberedLine × Fate)}
    (hnodup : (fates.map fun x => x.1.number).Nodup) {tell : NumberedLine × Fate → List Issue}
    (htell : ∀ x ∈ fates, ∀ i ∈ tell x, i.lineNo = some x.1.number) {x : NumberedLine × Fate}
    (hx : x ∈ fates) : issuesAt (fates.flatMap tell) x.1.number = tell x := by
  induction fates with
  | nil => cases hx
  | cons y rest ih =>
    rw [List.map_cons, List.nodup_cons] at hnodup
    obtain ⟨hnew, hnodup⟩ := hnodup
    -- the first line finds its own issues and no others, and the other lines pass over them
    have hne : ∀ z ∈ rest, z.1.number ≠ y.1.number :=
      fun z hz heq => hnew (heq ▸ List.mem_map_of_mem hz)
    have hy := htell y List.mem_cons_self
    have hrest := fun z hz => htell z (List.mem_cons_of_mem y hz)
    rw [List.flatMap_cons, issuesAt_append]
    rcases List.mem_cons.1 hx with rfl | hx
    · have hnone : issuesAt (rest.flatMap tell) x.1.number = [] := by
        rw [issuesAt, List.filter_flatMap, List.flatMap_eq_nil_iff]
        exact fun z hz => issuesAt_other (hrest z hz) (hne z hz).symm
      rw [issuesAt_own hy, hnone, List.append_nil]
    · rw [issuesAt_other hy (hne x hx), List.nil_append]
      exact ih hnodup hrest hx

/-- What a report and a table say about the lines of a file. -/
structure Accounts (source : String) (lines : List NumberedLine)
    (fates : List (NumberedLine × Fate)) (issues : List Issue) (table : List (String × Holding)) :
    Prop where
  /-- Every line has a fate. -/
  complete : fates.map Prod.fst = lines
  /-- It is settled behind the lines before it. -/
  settles : Settles [] fates
  /-- No line could have another fate. -/
  unique : ∀ others, others.map Prod.fst = lines → Settles [] others → others = fates
  /-- The table has the accepted lines, in their order. -/
  rows : table = fates.filterMap fun x => x.2.row?
  /-- The issues with the number of a line are those of its fate. -/
  told : ∀ x ∈ fates, issuesAt issues x.1.number = x.2.issues source x.1
  /-- There are no other issues. -/
  numbered : ∀ i ∈ issues, ∃ x ∈ fates, i.lineNo = some x.1.number

/-- The issues of the reader about a line. -/
def toldByReader (source : String) (x : NumberedLine × Fate) : List Issue :=
  ((readLine (some x.1.number) x.1.chars).issue? source).toList

/-- The issues of the settlement about a line. -/
def toldBySettlement (source : String) (x : NumberedLine × Fate) : List Issue :=
  x.2.findings.map (Finding.issue source)

theorem Settles.issues_eq {accepted : List (String × Holding)} {fates : List (NumberedLine × Fate)}
    (h : Settles accepted fates) (source : String) :
    ∀ x ∈ fates, x.2.issues source x.1 = toldByReader source x ++ toldBySettlement source x := by
  intro x hx
  obtain ⟨earlier, hfate⟩ := h.befalls x hx
  exact issues_of_befalls hfate source

theorem Settles.lineNo_of_told {accepted : List (String × Holding)}
    {fates : List (NumberedLine × Fate)} (h : Settles accepted fates) (source : String) :
    ∀ x ∈ fates, ∀ i ∈ toldByReader source x ++ toldBySettlement source x,
      i.lineNo = some x.1.number := by
  intro x hx i hi
  obtain ⟨earlier, hfate⟩ := h.befalls x hx
  rw [← h.issues_eq source x hx] at hi
  exact lineNo_of_mem_issues hfate hi

/-- The issues of a report, when the fates of the lines are known: first all those of the reader, then
all those of the settlement. -/
theorem issues_readings (source : String) (fates : List (NumberedLine × Fate)) :
    issues source (readings fates) ++
      (fates.flatMap fun x => x.2.findings).map (Finding.issue source) =
        fates.flatMap (toldByReader source) ++ fates.flatMap (toldBySettlement source) := by
  rw [List.map_flatMap, issues, readings, List.filterMap_map, List.filterMap_eq_flatMap_toList]
  rfl

/-- **The report and the table account for every line.** -/
theorem accounts_settle (source : String) (lines : List (List Char)) :
    ∃ fates, Accounts source (Text.significant lines) fates
      (issues source (read lines) ++ (settle (entries (read lines))).2.map (Finding.issue source))
      (settle (entries (read lines))).1 := by
  obtain ⟨fates, hlines, hsettles⟩ := exists_settles (Text.significant lines) []
  have hread : read lines = readings fates := by
    rw [read, readings, ← hlines, List.map_map]
    rfl
  have hfound : settle (entries (read lines)) = ([] ++ fates.filterMap fun x => x.2.row?,
      fates.flatMap fun x => x.2.findings) := by
    rw [settle, hread]
    exact settleFrom_of_settles hsettles
  have hnodup : (fates.map fun x => x.1.number).Nodup := by
    have hnumbers := Text.nodup_numbers 1 lines
    rw [← Text.significant, ← hlines, List.map_map] at hnumbers
    exact hnumbers
  have hlineNo := hsettles.lineNo_of_told source
  -- the reader's issues stand before all others, so those of one line need not stand together
  rw [hfound, hread, issues_readings]
  refine ⟨fates, hlines, hsettles, ?_, rfl, ?_, ?_⟩
  · intro others hothers hsettled
    exact hsettles.unique hsettled (hothers.trans hlines.symm)
  · intro x hx
    rw [issuesAt_append, hsettles.issues_eq source x hx]
    refine congrArg₂ (· ++ ·) (issuesAt_flatMap hnodup ?_ hx) (issuesAt_flatMap hnodup ?_ hx)
    · exact fun y hy i hi => hlineNo y hy i (List.mem_append_left _ hi)
    · exact fun y hy i hi => hlineNo y hy i (List.mem_append_right _ hi)
  · intro i hi
    rcases List.mem_append.1 hi with hi | hi
    · obtain ⟨x, hx, hi⟩ := List.mem_flatMap.1 hi
      exact ⟨x, hx, hlineNo x hx i (List.mem_append_left _ hi)⟩
    · obtain ⟨x, hx, hi⟩ := List.mem_flatMap.1 hi
      exact ⟨x, hx, hlineNo x hx i (List.mem_append_right _ hi)⟩

namespace Accounts

variable {source : String} {lines : List NumberedLine} {fates : List (NumberedLine × Fate)}
  {issues : List Issue} {table : List (String × Holding)}
  (h : Accounts source lines fates issues table)
include h

/-- **Nothing is reported just if every line is accepted as it is.** -/
theorem clean_iff : issues = [] ↔ ∀ x ∈ fates, x.2.Unchanged := by
  constructor
  · intro hnone x hx
    have htold := h.told x hx
    rw [hnone] at htold
    exact issues_eq_nil_iff.1 htold.symm
  · intro hall
    rw [List.eq_nil_iff_forall_not_mem]
    intro i hi
    obtain ⟨x, hx, hnumber⟩ := h.numbered i hi
    have hmem : i ∈ issuesAt issues x.1.number :=
      List.mem_filter.2 ⟨hi, decide_eq_true hnumber⟩
    rw [h.told x hx, issues_eq_nil_iff.2 (hall x hx)] at hmem
    cases hmem

/-- **A table of which nothing is reported is what the lines say,** one by one and in their order. -/
theorem table_of_clean (hclean : issues = []) :
    ∃ es : List Entry, (lines.map fun l => readEntry (some l.number) l.chars) = es.map .ok ∧
      table = es.map fun e => (e.registrant, e.holding) := by
  obtain ⟨es, hread, hrows⟩ := h.settles.exists_entries (h.clean_iff.1 hclean)
  refine ⟨es, ?_, h.rows.trans hrows⟩
  rw [← h.complete, List.map_map]
  exact hread

end Accounts

end Allotment.Ledger
