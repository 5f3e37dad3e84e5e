import Allotment.Proofs.Roster.Copy
import Mathlib.Data.List.Basic
import Mathlib.Data.List.Induction

/-!
# What the lines of a roster mean

A roster is read in one pass that carries the section it stands in. What a line means can be said
without the pass: it depends on the line and on the nearest line above that opens a section.

* `Significant`, `Heads`, `Plain` — a line says something; it opens a section; it says something
  else;
* `Nearest` — the label of the nearest section above;
* `Yields`, `Rejects` — the entry that a line gives, and what is wrong with a line that gives none;
* `Stands` — where a line stands, in these words;
* `stands_snoc`, `yields_iff`, `rejects_iff` — **PROVED**: each line of the pass keeps to them;
* `Collects` — what lines give together, one by one;
* `collects_read` — **PROVED**: so a roster gives what its lines yield, in their order, and an issue
  for each line that is rejected;
* `entry_of_refused_value` — the value of a line is trimmed before it is read, so it may have
  characters at its ends that no number may have.
-/

namespace Allotment.Roster

open Text (trim lower readInt isSkippable NumberedLine)

/-! ### Lines -/

/-- A line says something: it is neither blank nor a comment. -/
def Significant (raw : List Char) : Prop := trim raw ≠ [] ∧ (trim raw).head? ≠ some '#'

/-- A line opens the section with a label: it stands in brackets, with the label between them. -/
structure Heads (raw label : List Char) : Prop where
  significant : Significant raw
  opening : (trim raw).head? = some '['
  closing : (trim raw).getLast? = some ']'
  label_eq : label = lower (trim (trim raw).tail.dropLast)

/-- A line says something and opens no section. -/
def Plain (raw : List Char) : Prop := Significant raw ∧ ∀ label, ¬Heads raw label

/-- No section is opened in some lines. -/
def Headless (lines : List (List Char)) : Prop := ∀ raw ∈ lines, ∀ label, ¬Heads raw label

/-- The label of the nearest section above a line, given the lines before it. -/
def Nearest (before : List (List Char)) (label : List Char) : Prop :=
  ∃ earlier head between, before = earlier ++ head :: between ∧ Heads head label ∧ Headless between

/-- A label is that of no space. -/
def Unknown (label : List Char) : Prop := ∀ space : Space, label ≠ space.label.toList

/-- The entry that a line gives, behind the lines before it. -/
inductive Yields (before : List (List Char)) (raw : List Char) : Entry → Prop
  | entry {space : Space} {name value : List Char} {shown : Int} (hplain : Plain raw)
      (hnear : Nearest before space.label.toList) (hcut : trim raw = name ++ '=' :: value)
      (hmark : '=' ∉ name) (hname : trim name ≠ []) (hvalue : readInt (trim value) = .ok shown) :
      Yields before raw ⟨space, String.ofList (trim name), shown - space.zone.displayOffset,
        before.length + 1⟩

/-- What is wrong with a line, behind the lines before it. -/
inductive Rejects (before : List (List Char)) (raw : List Char) : Fault → Prop
  | unknownSection {label : List Char} (hhead : Heads raw label) (hunknown : Unknown label) :
      Rejects before raw (.unknownSection (String.ofList label))
  | outsideSection (hplain : Plain raw) (hnone : Headless before) :
      Rejects before raw .outsideSection
  | shape {space : Space} (hplain : Plain raw) (hnear : Nearest before space.label.toList)
      (hshape : ∀ name value, trim raw = name ++ '=' :: value → '=' ∉ name → trim name = []) :
      Rejects before raw .shape
  | notInteger {space : Space} {name value : List Char} (hplain : Plain raw)
      (hnear : Nearest before space.label.toList) (hcut : trim raw = name ++ '=' :: value)
      (hmark : '=' ∉ name) (hname : trim name ≠ [])
      (hvalue : ∀ shown, readInt (trim value) ≠ .ok shown) :
      Rejects before raw .notInteger

/-! ### The tests of the reader -/

theorem isSkippable_eq_false_iff {raw : List Char} :
    isSkippable (trim raw) = false ↔ Significant raw := by
  simp [isSkippable, Significant]

/-- The reader finds the label of a section in a line that opens one, and in no other. -/
theorem sectionLabel?_eq_some_iff {raw label : List Char} :
    sectionLabel? (trim raw) = some label ↔ Heads raw label := by
  constructor
  · intro h
    unfold sectionLabel? at h
    split at h
    · rename_i rest hline
      split at h
      · rename_i hlast
        cases h
        have hne : rest ≠ [] := by
          intro hnil
          rw [hnil] at hlast
          cases hlast
        have hclosing : ('[' :: rest).getLast? = some ']' := by
          rw [List.getLast?_cons_of_ne_nil hne]
          exact hlast
        refine ⟨?_, ?_, ?_, ?_⟩
        · rw [Significant, hline]
          simp
        · rw [hline]
          rfl
        · rw [hline]
          exact hclosing
        · rw [hline]
          rfl
      · cases h
    · cases h
  · intro h
    obtain ⟨-, hopening, hclosing, rfl⟩ := h
    cases hline : trim raw with
    | nil =>
      rw [hline] at hopening
      cases hopening
    | cons c rest =>
      rw [hline] at hopening hclosing
      cases hopening
      have hne : rest ≠ [] := by
        intro hnil
        rw [hnil] at hclosing
        cases hclosing
      rw [List.getLast?_cons_of_ne_nil hne] at hclosing
      simp only [sectionLabel?, hclosing, if_true, List.tail_cons]

theorem sectionLabel?_eq_none_iff {raw : List Char} :
    sectionLabel? (trim raw) = none ↔ ∀ label, ¬Heads raw label := by
  rw [Option.eq_none_iff_forall_ne_some]
  exact forall_congr' fun label => not_congr sectionLabel?_eq_some_iff

theorem ofLabel_eq_ofSpace_iff {label : List Char} {space : Space} :
    Section.ofLabel label = .ofSpace space ↔ label = space.label.toList := by
  constructor
  · intro h
    unfold Section.ofLabel at h
    split at h
    · rename_i found hfound
      cases h
      rw [Space.label_of_ofLabel? hfound, String.toList_ofList]
    · cases h
  · intro h
    rw [Section.ofLabel, h, String.ofList_toList, Space.ofLabel?_label]

theorem ofLabel_eq_unknown_iff {label : List Char} :
    Section.ofLabel label = .unknown ↔ Unknown label := by
  constructor
  · intro h space hspace
    rw [ofLabel_eq_ofSpace_iff.2 hspace] at h
    cases h
  · intro h
    unfold Section.ofLabel
    split
    · rename_i found hfound
      have hlabel := Space.label_of_ofLabel? hfound
      exact absurd (by rw [hlabel, String.toList_ofList]) (h found)
    · rfl

/-- A line without a name, or without the mark behind it, has no shape. -/
theorem readEntry_eq_shape_iff {space : Space} {number : Int} {line : List Char} :
    readEntry space number line = .error .shape ↔
      ∀ name value, line = name ++ '=' :: value → '=' ∉ name → trim name = [] := by
  constructor
  · intro h name value hcut hmark
    rw [hcut, readEntry, Text.splitAtFirst_append hmark] at h
    apply Classical.byContradiction
    intro hname
    simp only [if_neg hname] at h
    split at h <;> cases h
  · intro h
    unfold readEntry
    split
    · rfl
    · rename_i name value hcut
      obtain ⟨hline, hmark⟩ := Text.splitAtFirst_eq_some hcut
      rw [if_pos (h name value hline hmark)]

theorem readEntry_eq_notInteger_iff {space : Space} {number : Int} {line : List Char} :
    readEntry space number line = .error .notInteger ↔ ∃ name value,
      line = name ++ '=' :: value ∧ '=' ∉ name ∧ trim name ≠ [] ∧
        ∀ shown, readInt (trim value) ≠ .ok shown := by
  constructor
  · intro h
    unfold readEntry at h
    split at h
    · cases h
    · rename_i name value hcut
      obtain ⟨hline, hmark⟩ := Text.splitAtFirst_eq_some hcut
      split at h
      · cases h
      · rename_i hname
        split at h
        · cases h
        · rename_i flaw hvalue
          refine ⟨name, value, hline, hmark, hname, fun shown hok => ?_⟩
          rw [hok] at hvalue
          cases hvalue
  · intro h
    obtain ⟨name, value, rfl, hmark, hname, hvalue⟩ := h
    rw [readEntry, Text.splitAtFirst_append hmark]
    simp only [if_neg hname]
    split
    · rename_i shown hok
      exact absurd hok (hvalue shown)
    · rfl

/-- An entry is refused for no other reasons. -/
theorem readEntry_error {space : Space} {number : Int} {line : List Char} {fault : Fault}
    (h : readEntry space number line = .error fault) : fault = .shape ∨ fault = .notInteger := by
  unfold readEntry at h
  split at h
  · exact .inl (Except.error.inj h).symm
  · split at h
    · exact .inl (Except.error.inj h).symm
    · split at h
      · cases h
      · exact .inr (Except.error.inj h).symm

/-! ### The nearest section -/

theorem not_nearest_nil {label : List Char} : ¬Nearest [] label := by
  intro hnear
  obtain ⟨earlier, head, between, h, -⟩ := hnear
  cases earlier <;> cases h

theorem headless_snoc_iff {lines : List (List Char)} {raw : List Char} :
    Headless (lines ++ [raw]) ↔ Headless lines ∧ ∀ label, ¬Heads raw label := by
  simp only [Headless, List.forall_mem_append, List.forall_mem_singleton]

/-- The nearest section is that of the last line if it opens one, and else that above it. -/
theorem nearest_snoc_iff {lines : List (List Char)} {raw label : List Char} :
    Nearest (lines ++ [raw]) label ↔
      Heads raw label ∨ ((∀ other, ¬Heads raw other) ∧ Nearest lines label) := by
  constructor
  · intro hnear
    obtain ⟨earlier, head, between, h, hhead, hbetween⟩ := hnear
    rcases List.eq_nil_or_concat' between with rfl | ⟨inner, last, rfl⟩
    · obtain ⟨-, hlast⟩ := List.append_inj' h rfl
      cases hlast
      exact .inl hhead
    · rw [← List.cons_append, ← List.append_assoc] at h
      obtain ⟨rfl, hlast⟩ := List.append_inj' h rfl
      cases hlast
      obtain ⟨hinner, hplain⟩ := headless_snoc_iff.1 hbetween
      exact .inr ⟨hplain, earlier, head, inner, rfl, hhead, hinner⟩
  · intro hnear
    rcases hnear with hhead | ⟨hplain, earlier, head, between, rfl, hhead, hbetween⟩
    · exact ⟨lines, raw, [], rfl, hhead, by simp [Headless]⟩
    · refine ⟨earlier, head, between ++ [raw], by simp, hhead, ?_⟩
      exact headless_snoc_iff.2 ⟨hbetween, hplain⟩

theorem Heads.unique {raw label other : List Char} (h : Heads raw label) (h' : Heads raw other) :
    label = other := h.label_eq.trans h'.label_eq.symm

/-- **There is one nearest section, or none.** -/
theorem Nearest.unique {lines : List (List Char)} {label other : List Char}
    (h : Nearest lines label) (h' : Nearest lines other) : label = other := by
  induction lines using List.reverseRecOn with
  | nil => exact absurd h not_nearest_nil
  | append_singleton lines raw ih =>
    rw [nearest_snoc_iff] at h h'
    rcases h with hhead | ⟨hplain, hnear⟩
    · rcases h' with hhead' | ⟨hplain', -⟩
      · exact hhead.unique hhead'
      · exact absurd hhead (hplain' label)
    · rcases h' with hhead' | ⟨-, hnear'⟩
      · exact absurd hhead' (hplain other)
      · exact ih hnear hnear'

theorem Nearest.not_headless {lines : List (List Char)} {label : List Char}
    (h : Nearest lines label) : ¬Headless lines := by
  obtain ⟨earlier, head, between, rfl, hhead, -⟩ := h
  intro hnone
  exact hnone head (by simp) label hhead

/-! ### Where a line stands -/

/-- Where the lines behind some lines stand. -/
inductive Stands (before : List (List Char)) : Section → Prop
  | top (hnone : Headless before) : Stands before .top
  | ofSpace {space : Space} (hnear : Nearest before space.label.toList) :
      Stands before (.ofSpace space)
  | unknown {label : List Char} (hnear : Nearest before label) (hunknown : Unknown label) :
      Stands before .unknown

theorem ofLabel_ne_top (label : List Char) : Section.ofLabel label ≠ .top := by
  unfold Section.ofLabel
  split <;> exact Section.noConfusion

theorem stands_ofLabel {before : List (List Char)} {label : List Char} (h : Nearest before label) :
    Stands before (Section.ofLabel label) := by
  cases hsection : Section.ofLabel label with
  | top => exact absurd hsection (ofLabel_ne_top label)
  | ofSpace space =>
    rw [ofLabel_eq_ofSpace_iff.1 hsection] at h
    exact .ofSpace h
  | unknown => exact .unknown h (ofLabel_eq_unknown_iff.1 hsection)

/-- A line that opens no section leaves those below it where it stands. -/
theorem Stands.snoc {before : List (List Char)} {here : Section} (h : Stands before here)
    {raw : List Char} (hplain : ∀ label, ¬Heads raw label) : Stands (before ++ [raw]) here := by
  cases h with
  | top hnone => exact .top (headless_snoc_iff.2 ⟨hnone, hplain⟩)
  | ofSpace hnear => exact .ofSpace (nearest_snoc_iff.2 (.inr ⟨hplain, hnear⟩))
  | unknown hnear hunknown => exact .unknown (nearest_snoc_iff.2 (.inr ⟨hplain, hnear⟩)) hunknown

theorem Stands.eq_ofSpace {before : List (List Char)} {here : Section} (h : Stands before here)
    {space : Space} (hnear : Nearest before space.label.toList) : here = .ofSpace space := by
  cases h with
  | top hnone => exact absurd hnone hnear.not_headless
  | ofSpace hother =>
    have hlabel := ofLabel_eq_ofSpace_iff.2 (hother.unique hnear)
    exact (ofLabel_eq_ofSpace_iff.2 rfl).symm.trans hlabel
  | unknown hother hunknown => exact absurd (hother.unique hnear) (hunknown space)

theorem Stands.eq_top {before : List (List Char)} {here : Section} (h : Stands before here)
    (hnone : Headless before) : here = .top := by
  cases h with
  | top => rfl
  | ofSpace hnear => exact absurd hnone hnear.not_headless
  | unknown hnear => exact absurd hnone hnear.not_headless

/-! ### One line -/

section Line

variable {before : List (List Char)} {raw : List Char} {here : Section}

/-- A line that opens a section is read without regard to where it stands. -/
theorem readLine_of_heads {label : List Char} (h : Heads raw label) (number : Int) :
    readLine here ⟨number, trim raw⟩ = match Section.ofLabel label with
      | .ofSpace space => (.ofSpace space, none)
      | _ => (.unknown, some (.error (.unknownSection (String.ofList label)))) := by
  have hlabel := sectionLabel?_eq_some_iff.2 h
  cases hsection : Section.ofLabel label <;> simp only [readLine, hlabel, hsection]

/-- Any other line is read as the section wants it. -/
theorem readLine_of_plain (h : ∀ label, ¬Heads raw label) (number : Int) :
    readLine here ⟨number, trim raw⟩ = match here with
      | .top => (.top, some (.error .outsideSection))
      | .unknown => (.unknown, none)
      | .ofSpace space => (.ofSpace space, some (readEntry space number (trim raw))) := by
  have hlabel := sectionLabel?_eq_none_iff.2 h
  cases here <;> simp only [readLine, hlabel]

/-- **The pass stands where the lines say.** -/
theorem stands_snoc (h : Stands before here) (number : Int) :
    Stands (before ++ [raw]) (readLine here ⟨number, trim raw⟩).1 := by
  cases hlabel : sectionLabel? (trim raw) with
  | some label =>
    have hhead := sectionLabel?_eq_some_iff.1 hlabel
    have hnear : Nearest (before ++ [raw]) label := nearest_snoc_iff.2 (.inl hhead)
    have hstands := stands_ofLabel hnear
    rw [readLine_of_heads hhead]
    split
    · rename_i space hspace
      rw [hspace] at hstands
      exact hstands
    · rename_i hother
      cases hsection : Section.ofLabel label with
      | top => exact absurd hsection (ofLabel_ne_top label)
      | ofSpace space => exact absurd hsection (hother space)
      | unknown =>
        rw [hsection] at hstands
        exact hstands
  | none =>
    have hplain := sectionLabel?_eq_none_iff.1 hlabel
    have hstands := h.snoc hplain
    rw [readLine_of_plain hplain]
    cases here with
    | top => exact hstands
    | ofSpace space => exact hstands
    | unknown => exact hstands

/-- A line yields an entry, or it is rejected. -/
def Results (before : List (List Char)) (raw : List Char) : Except Fault Entry → Prop
  | .ok e => Yields before raw e
  | .error fault => Rejects before raw fault

/-- **The pass makes an entry of a line just if the line yields it.** -/
theorem yields_iff (hsig : Significant raw) (h : Stands before here) {e : Entry} :
    Yields before raw e ↔ (readLine here ⟨before.length + 1, trim raw⟩).2 = some (.ok e) := by
  constructor
  · intro hyields
    obtain ⟨hplain, hnear, hcut, hmark, hname, hvalue⟩ := hyields
    rw [h.eq_ofSpace hnear, readLine_of_plain hplain.2]
    exact congrArg some (readEntry_eq_ok_iff.2 ⟨_, _, _, hcut, hmark, hname, hvalue, rfl⟩)
  · intro hread
    cases hlabel : sectionLabel? (trim raw) with
    | some label =>
      rw [readLine_of_heads (sectionLabel?_eq_some_iff.1 hlabel)] at hread
      split at hread <;> cases hread
    | none =>
      have hplain := sectionLabel?_eq_none_iff.1 hlabel
      rw [readLine_of_plain hplain] at hread
      cases h with
      | top => cases hread
      | unknown => cases hread
      | ofSpace hnear =>
        obtain ⟨name, value, shown, hcut, hmark, hname, hvalue, rfl⟩ :=
          readEntry_eq_ok_iff.1 (Option.some.inj hread)
        exact .entry ⟨hsig, hplain⟩ hnear hcut hmark hname hvalue

/-- **And it finds a fault with a line just if the line is rejected for it.** -/
theorem rejects_iff (hsig : Significant raw) (h : Stands before here) {fault : Fault} :
    Rejects before raw fault ↔
      (readLine here ⟨before.length + 1, trim raw⟩).2 = some (.error fault) := by
  constructor
  · intro hrejects
    cases hrejects with
    | @unknownSection label hhead hunknown =>
      rw [readLine_of_heads hhead, ofLabel_eq_unknown_iff.2 hunknown]
    | outsideSection hplain hnone =>
      rw [h.eq_top hnone, readLine_of_plain hplain.2]
    | shape hplain hnear hshape =>
      rw [h.eq_ofSpace hnear, readLine_of_plain hplain.2]
      exact congrArg some (readEntry_eq_shape_iff.2 hshape)
    | notInteger hplain hnear hcut hmark hname hvalue =>
      rw [h.eq_ofSpace hnear, readLine_of_plain hplain.2]
      exact congrArg some (readEntry_eq_notInteger_iff.2 ⟨_, _, hcut, hmark, hname, hvalue⟩)
  · intro hread
    cases hlabel : sectionLabel? (trim raw) with
    | some label =>
      have hhead := sectionLabel?_eq_some_iff.1 hlabel
      rw [readLine_of_heads hhead] at hread
      split at hread
      · cases hread
      · rename_i hother
        cases hread
        refine .unknownSection hhead fun space hspace => ?_
        exact hother space (ofLabel_eq_ofSpace_iff.2 hspace)
    | none =>
      have hplain := sectionLabel?_eq_none_iff.1 hlabel
      rw [readLine_of_plain hplain] at hread
      cases h with
      | unknown => cases hread
      | top hnone =>
        cases hread
        exact .outsideSection ⟨hsig, hplain⟩ hnone
      | ofSpace hnear =>
        have hentry := Option.some.inj hread
        rcases readEntry_error hentry with rfl | rfl
        · exact .shape ⟨hsig, hplain⟩ hnear (readEntry_eq_shape_iff.1 hentry)
        · obtain ⟨name, value, hcut, hmark, hname, hvalue⟩ :=
            readEntry_eq_notInteger_iff.1 hentry
          exact .notInteger ⟨hsig, hplain⟩ hnear hcut hmark hname hvalue

theorem results_iff (hsig : Significant raw) (h : Stands before here)
    {result : Except Fault Entry} : Results before raw result ↔
      (readLine here ⟨before.length + 1, trim raw⟩).2 = some result := by
  cases result with
  | ok e => exact yields_iff hsig h
  | error fault => exact rejects_iff hsig h

/-- Only a line that says something has a result. -/
theorem Results.significant {result : Except Fault Entry} (h : Results before raw result) :
    Significant raw := by
  cases result with
  | ok e =>
    cases h with
    | entry hplain => exact hplain.1
  | error fault =>
    cases h with
    | unknownSection hhead => exact hhead.significant
    | outsideSection hplain => exact hplain.1
    | shape hplain => exact hplain.1
    | notInteger hplain => exact hplain.1

end Line

/-! ### The pass -/

/-- Where lines stand behind significant lines that start in a section. -/
def Section.after (here : Section) (lines : List NumberedLine) : Section :=
  lines.foldl (fun place l => (readLine place l).1) here

theorem readFrom_append (here : Section) (lines more : List NumberedLine) :
    readFrom here (lines ++ more) = readFrom here lines ++ readFrom (here.after lines) more := by
  induction lines generalizing here with
  | nil => rfl
  | cons l rest ih =>
    simp only [List.cons_append, readFrom, ih, List.append_assoc]
    rfl

theorem significant_snoc (lines : List (List Char)) (raw : List Char) :
    Text.significant (lines ++ [raw]) = Text.significant lines ++
      if isSkippable (trim raw) then [] else [⟨lines.length + 1, trim raw⟩] := by
  rw [Text.significant, Text.significantFrom_append, Int.add_comm 1]
  rfl

/-- **The pass stands where all lines before it say.** -/
theorem stands_after (lines : List (List Char)) :
    Stands lines (Section.top.after (Text.significant lines)) := by
  induction lines using List.reverseRecOn with
  | nil => exact .top (by simp [Headless])
  | append_singleton lines raw ih =>
    rw [significant_snoc]
    cases hskip : isSkippable (trim raw) with
    | true =>
      have hplain : ∀ label, ¬Heads raw label := by
        intro label hhead
        rw [isSkippable_eq_false_iff.2 hhead.significant] at hskip
        cases hskip
      simpa using ih.snoc hplain
    | false =>
      have hsnoc := @stands_snoc lines raw _ ih (lines.length + 1)
      simpa [Section.after, List.foldl_append] using hsnoc

section Pass

variable {lines : List (List Char)} {raw : List Char} {result : Except Fault Entry}

/-- A line with a result is one more reading. -/
theorem read_snoc_of_results (h : Results lines raw result) :
    read (lines ++ [raw]) = read lines ++ [⟨lines.length + 1, trim raw, result⟩] := by
  have hread := (results_iff h.significant (stands_after lines)).1 h
  rw [read, significant_snoc, isSkippable_eq_false_iff.2 h.significant, readFrom_append]
  simp only [Bool.false_eq_true, if_false, readFrom, hread]
  rfl

/-- A line without a result is read, and no more is said of it. -/
theorem read_snoc_of_silent (h : ∀ result, ¬Results lines raw result) :
    read (lines ++ [raw]) = read lines := by
  rw [read, significant_snoc]
  cases hskip : isSkippable (trim raw) with
  | true => simp [read]
  | false =>
    have hsig := isSkippable_eq_false_iff.1 hskip
    have hnone : (readLine (Section.top.after (Text.significant lines))
        ⟨lines.length + 1, trim raw⟩).2 = none := by
      rw [Option.eq_none_iff_forall_ne_some]
      intro result hread
      exact h result ((results_iff hsig (stands_after lines)).2 hread)
    rw [readFrom_append]
    simp only [Bool.false_eq_true, if_false, readFrom, hnone, Option.map_none, Option.toList_none,
      List.append_nil]
    rfl

theorem Results.unique {other : Except Fault Entry} (h : Results lines raw result)
    (h' : Results lines raw other) : result = other := by
  have hread := (results_iff h.significant (stands_after lines)).1 h
  rw [(results_iff h.significant (stands_after lines)).1 h'] at hread
  cases hread
  rfl

end Pass

/-! ### What a roster gives -/

section Collecting

variable {α : Type} {Gives : List (List Char) → List Char → α → Prop}

/-- What some lines give together: what each of them gives behind those before it, in their
order. -/
inductive Collects (Gives : List (List Char) → List Char → α → Prop) :
    List (List Char) → List α → Prop
  | nil : Collects Gives [] []
  | gives {before : List (List Char)} {raw : List Char} {found : List α} {x : α}
      (h : Collects Gives before found) (hgives : Gives before raw x) :
      Collects Gives (before ++ [raw]) (found ++ [x])
  | silent {before : List (List Char)} {raw : List Char} {found : List α}
      (h : Collects Gives before found) (hsilent : ∀ x, ¬Gives before raw x) :
      Collects Gives (before ++ [raw]) found

theorem Collects.eq_nil {found : List α} (h : Collects Gives [] found) : found = [] := by
  generalize hlines : ([] : List (List Char)) = lines at h
  cases h with
  | nil => rfl
  | gives => simp at hlines
  | silent => simp at hlines

/-- The last line gives one thing more, or nothing. -/
theorem Collects.snoc_inv {before : List (List Char)} {raw : List Char} {found : List α}
    (h : Collects Gives (before ++ [raw]) found) :
    (∃ inner x, Collects Gives before inner ∧ Gives before raw x ∧ found = inner ++ [x]) ∨
      (Collects Gives before found ∧ ∀ x, ¬Gives before raw x) := by
  generalize hlines : before ++ [raw] = lines at h
  cases h with
  | nil => simp at hlines
  | gives hrest hgives =>
    obtain ⟨rfl, hraw⟩ := List.append_inj' hlines rfl
    cases hraw
    exact .inl ⟨_, _, hrest, hgives, rfl⟩
  | silent hrest hsilent =>
    obtain ⟨rfl, hraw⟩ := List.append_inj' hlines rfl
    cases hraw
    exact .inr ⟨hrest, hsilent⟩

/-- **Lines that give one thing each give one list together.** -/
theorem Collects.unique
    (hunique : ∀ before raw x y, Gives before raw x → Gives before raw y → x = y)
    {lines : List (List Char)} {found other : List α} (h : Collects Gives lines found)
    (h' : Collects Gives lines other) : found = other := by
  induction lines using List.reverseRecOn generalizing found other with
  | nil => rw [h.eq_nil, h'.eq_nil]
  | append_singleton before raw ih =>
    rcases h.snoc_inv with ⟨inner, x, hrest, hx, rfl⟩ | ⟨hrest, hsilent⟩
    · rcases h'.snoc_inv with ⟨inner', y, hrest', hy, rfl⟩ | ⟨-, hsilent'⟩
      · rw [ih hrest hrest', hunique before raw x y hx hy]
      · exact absurd hx (hsilent' x)
    · rcases h'.snoc_inv with ⟨inner', y, -, hy, -⟩ | ⟨hrest', -⟩
      · exact absurd hy (hsilent y)
      · exact ih hrest hrest'

/-- Whatever is taken from the readings is given line by line. -/
theorem collects_filterMap {f : Reading → Option α} (lines : List (List Char))
    (h : ∀ before raw x, Gives before raw x ↔ ∃ result, Results before raw result ∧
      f ⟨before.length + 1, trim raw, result⟩ = some x) :
    Collects Gives lines ((read lines).filterMap f) := by
  induction lines using List.reverseRecOn with
  | nil => exact .nil
  | append_singleton lines raw ih =>
    by_cases hresult : ∃ result, Results lines raw result
    · obtain ⟨result, hresult⟩ := hresult
      rw [read_snoc_of_results hresult, List.filterMap_append]
      cases hf : f ⟨lines.length + 1, trim raw, result⟩ with
      | some x =>
        rw [List.filterMap_cons_some hf]
        exact .gives ih ((h lines raw x).2 ⟨result, hresult, hf⟩)
      | none =>
        rw [List.filterMap_cons_none hf, List.filterMap_nil, List.append_nil]
        refine .silent ih fun x hx => ?_
        obtain ⟨other, hother, hfx⟩ := (h lines raw x).1 hx
        rw [hother.unique hresult, hf] at hfx
        cases hfx
    · have hnone : ∀ result, ¬Results lines raw result := fun result hr => hresult ⟨result, hr⟩
      rw [read_snoc_of_silent hnone]
      refine .silent ih fun x hx => ?_
      obtain ⟨result, hr, -⟩ := (h lines raw x).1 hx
      exact hnone result hr

end Collecting

/-- The issue about a line, behind the lines before it. -/
def Tells (source : String) (registrant : Option String) (before : List (List Char))
    (raw : List Char) (issue : Issue) : Prop :=
  ∃ fault, Rejects before raw fault ∧ issue = ⟨source, .warn, fault.message,
    some (before.length + 1), registrant, some (String.ofList (trim raw))⟩

theorem Yields.unique {before : List (List Char)} {raw : List Char} {e other : Entry}
    (h : Yields before raw e) (h' : Yields before raw other) : e = other := by
  have hresult : Results before raw (.ok e) := h
  have hother : Results before raw (.ok other) := h'
  exact Except.ok.inj (hresult.unique hother)

theorem Rejects.unique {before : List (List Char)} {raw : List Char} {fault other : Fault}
    (h : Rejects before raw fault) (h' : Rejects before raw other) : fault = other := by
  have hresult : Results before raw (.error fault) := h
  have hother : Results before raw (.error other) := h'
  exact Except.error.inj (hresult.unique hother)

theorem Tells.unique {source : String} {registrant : Option String} {before : List (List Char)}
    {raw : List Char} {issue other : Issue} (h : Tells source registrant before raw issue)
    (h' : Tells source registrant before raw other) : issue = other := by
  obtain ⟨fault, hfault, rfl⟩ := h
  obtain ⟨fault', hfault', rfl⟩ := h'
  rw [hfault.unique hfault']

theorem collects_entries (lines : List (List Char)) :
    Collects Yields lines (entries (read lines)) := by
  apply collects_filterMap
  intro before raw e
  simp only [entry?_eq_some_iff]
  constructor
  · intro h
    exact ⟨.ok e, h, rfl⟩
  · intro h
    obtain ⟨result, hresult, rfl⟩ := h
    exact hresult

theorem collects_issues (source : String) (registrant : Option String) (lines : List (List Char)) :
    Collects (Tells source registrant) lines (issues source registrant (read lines)) := by
  apply collects_filterMap
  intro before raw issue
  constructor
  · intro h
    obtain ⟨fault, hfault, rfl⟩ := h
    exact ⟨.error fault, hfault, rfl⟩
  · intro h
    obtain ⟨result, hresult, hissue⟩ := h
    cases result with
    | ok e => cases hissue
    | error fault =>
      cases hissue
      exact ⟨fault, hresult, rfl⟩

/-- A line in the section of a space is rejected if it yields nothing. -/
theorem rejects_of_not_yields {before : List (List Char)} {raw : List Char} {space : Space}
    (hplain : Plain raw) (hnear : Nearest before space.label.toList)
    (hnone : ∀ e, ¬Yields before raw e) : ∃ fault, Rejects before raw fault := by
  by_cases hshape : ∀ name value, trim raw = name ++ '=' :: value → '=' ∉ name → trim name = []
  · exact ⟨_, .shape hplain hnear hshape⟩
  · simp only [not_forall] at hshape
    obtain ⟨name, value, hcut, hmark, hname⟩ := hshape
    refine ⟨_, .notInteger hplain hnear hcut hmark hname fun shown hvalue => ?_⟩
    exact hnone _ (.entry hplain hnear hcut hmark hname hvalue)

/-- A line that is rejected opens a section of no space, or stands in no section, or stands in that
of a space and yields nothing. -/
theorem exists_rejects_iff {before : List (List Char)} {raw : List Char} :
    (∃ fault, Rejects before raw fault) ↔
      (∃ label, Heads raw label ∧ Unknown label) ∨ (Plain raw ∧ Headless before) ∨
        (Plain raw ∧ (∃ space : Space, Nearest before space.label.toList) ∧
          ∀ e, ¬Yields before raw e) := by
  constructor
  · intro h
    obtain ⟨fault, hfault⟩ := h
    have hnone : ∀ e, ¬Yields before raw e := by
      intro e he
      have hresult : Results before raw (.ok e) := he
      have hother : Results before raw (.error fault) := hfault
      cases hresult.unique hother
    cases hfault with
    | unknownSection hhead hunknown => exact .inl ⟨_, hhead, hunknown⟩
    | outsideSection hplain hheadless => exact .inr (.inl ⟨hplain, hheadless⟩)
    | shape hplain hnear => exact .inr (.inr ⟨hplain, ⟨_, hnear⟩, hnone⟩)
    | notInteger hplain hnear => exact .inr (.inr ⟨hplain, ⟨_, hnear⟩, hnone⟩)
  · intro h
    rcases h with ⟨label, hhead, hunknown⟩ | ⟨hplain, hheadless⟩ | ⟨hplain, ⟨space, hnear⟩, hnone⟩
    · exact ⟨_, .unknownSection hhead hunknown⟩
    · exact ⟨_, .outsideSection hplain hheadless⟩
    · exact rejects_of_not_yields hplain hnear hnone

/-- Lines in an unknown section are passed over. -/
theorem not_results_of_unknown {before : List (List Char)} {raw label : List Char}
    (hplain : Plain raw) (hnear : Nearest before label) (hunknown : Unknown label)
    (result : Except Fault Entry) : ¬Results before raw result := by
  intro hresult
  rw [results_iff hplain.1 (.unknown hnear hunknown), readLine_of_plain hplain.2] at hresult
  cases hresult

/-- **A roster is what its lines say.** Its entries are those that its lines yield, one by one and
in their order, and its issues are those that its lines tell. A line tells of one if it opens a
section of no space, if it stands in no section, or if it stands in the section of a space and
yields no entry, and else of none; what stands in an unknown section is passed over. -/
theorem collects_read (source : String) (registrant : Option String) (lines : List (List Char)) :
    (∀ found, Collects Yields lines found ↔ found = entries (read lines)) ∧
    (∀ found, Collects (Tells source registrant) lines found ↔
      found = issues source registrant (read lines)) ∧
    (∀ before raw, (∃ issue, Tells source registrant before raw issue) ↔
      (∃ label, Heads raw label ∧ Unknown label) ∨ (Plain raw ∧ Headless before) ∨
        (Plain raw ∧ (∃ space : Space, Nearest before space.label.toList) ∧
          ∀ e, ¬Yields before raw e)) ∧
    ∀ before raw label, Plain raw → Nearest before label → Unknown label →
      (∀ e, ¬Yields before raw e) ∧ ∀ issue, ¬Tells source registrant before raw issue := by
  have hentries := collects_entries lines
  have hissues := collects_issues source registrant lines
  refine ⟨fun found => ⟨fun h => ?_, fun h => h ▸ hentries⟩,
    fun found => ⟨fun h => ?_, fun h => h ▸ hissues⟩, fun before raw => ?_, ?_⟩
  · exact h.unique (fun _ _ _ _ hx hy => hx.unique hy) hentries
  · exact h.unique (fun _ _ _ _ hx hy => hx.unique hy) hissues
  · rw [← exists_rejects_iff]
    constructor
    · intro h
      obtain ⟨_, fault, hfault, -⟩ := h
      exact ⟨fault, hfault⟩
    · intro h
      obtain ⟨fault, hfault⟩ := h
      exact ⟨_, fault, hfault, rfl⟩
  · intro before raw label hplain hnear hunknown
    have hnone := not_results_of_unknown hplain hnear hunknown
    refine ⟨fun e he => hnone (.ok e) he, fun issue htells => ?_⟩
    obtain ⟨fault, hfault, -⟩ := htells
    exact hnone (.error fault) hfault

/-- **The value of a line is trimmed before it is read.** An information separator is trimmed away,
but it is no blank in a number, so a line may give an entry though no number stands behind its mark. -/
theorem entry_of_refused_value :
    Plain "x=\x1c5".toList ∧ Nearest ["[space_a]".toList] Space.a.label.toList ∧
      trim "x=\x1c5".toList = "x".toList ++ '=' :: "\x1c5".toList ∧
      (∀ shown, readInt "\x1c5".toList ≠ .ok shown) ∧
      entries (read ["[space_a]".toList, "x=\x1c5".toList]) = [⟨.a, "x", 5, 2⟩] ∧
      ∀ source registrant,
        issues source registrant (read ["[space_a]".toList, "x=\x1c5".toList]) = [] := by
  have hsig : Significant "x=\x1c5".toList := isSkippable_eq_false_iff.1 (by decide +kernel)
  have hplain : Plain "x=\x1c5".toList :=
    ⟨hsig, sectionLabel?_eq_none_iff.1 (by decide +kernel)⟩
  have hhead : Heads "[space_a]".toList Space.a.label.toList :=
    sectionLabel?_eq_some_iff.1 (by decide +kernel)
  have hrefused : readInt "\x1c5".toList = .error .malformed := by decide +kernel
  have hread : entries (read ["[space_a]".toList, "x=\x1c5".toList]) = [⟨.a, "x", 5, 2⟩] := by
    decide +kernel
  refine ⟨hplain, ⟨[], _, [], rfl, hhead, by simp [Headless]⟩, by decide +kernel, ?_, hread, ?_⟩
  · intro shown hshown
    rw [hrefused] at hshown
    cases hshown
  · intro source registrant
    rfl

end Allotment.Roster
