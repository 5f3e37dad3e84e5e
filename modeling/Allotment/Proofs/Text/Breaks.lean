import Allotment.Proofs.Naming
import Allotment.Proofs.Text.Written

/-!
# Texts that break

A text that is put into a line may hold ends of lines itself. Then the reader finds more lines than
were meant.

* `splitLines_append` — **PROVED**: a text without ends of lines stays in front of the first line;
* `splitLines_break` — **PROVED**: behind an end of a line, lines are read on their own;
* `exists_last_break` — a text that breaks has a last place where it does;
* `Blank`, `exists_pads`, `trim_pads` — **PROVED**: a text is its trimmed form with blanks around it,
  and no blanks around it make a difference to that.
-/

namespace Allotment.Text

/-! ### Lines of texts put together -/

/-- **A text without ends of lines stays in front of the first line.** -/
theorem splitLines_append {s : List Char} (hs : OneLine s) (hne : s ≠ []) (rest : List Char) :
    splitLines (s ++ rest) = (s ++ (splitLines rest).headD []) :: (splitLines rest).tail := by
  obtain ⟨hn, hr⟩ := hs
  induction s with
  | nil => exact absurd rfl hne
  | cons c s ih =>
    rw [List.mem_cons, not_or] at hn hr
    rw [List.cons_append, splitLines_cons (Ne.symm hn.1) (Ne.symm hr.1)]
    cases s with
    | nil =>
      rw [List.nil_append]
      cases splitLines rest <;> rfl
    | cons d s => rw [ih (List.cons_ne_nil d s) hn.2 hr.2]; rfl

theorem splitLines_lf (rest : List Char) : splitLines ('\n' :: rest) = [] :: splitLines rest := by
  simp [splitLines]

theorem splitLines_cr {rest : List Char} (h : rest.head? ≠ some '\n') :
    splitLines ('\r' :: rest) = [] :: splitLines rest := by
  rw [splitLines, if_pos (.inr rfl)]
  intro tail _ heq
  exact h (by rw [heq]; rfl)

/-- The two characters that end a line together end it as the second does. -/
theorem splitLines_crlf (rest : List Char) :
    splitLines ('\r' :: '\n' :: rest) = splitLines ('\n' :: rest) := by
  rw [splitLines, splitLines_lf]

theorem splitLines_ne_nil {s : List Char} (h : s ≠ []) : splitLines s ≠ [] := by
  unfold splitLines
  split
  · exact absurd rfl h
  · exact List.cons_ne_nil _ _
  · split
    · exact List.cons_ne_nil _ _
    · split <;> exact List.cons_ne_nil _ _

/-- **Behind an end of a line, lines are read on their own,** unless the end is the first half of
one. -/
theorem splitLines_break {c : Char} (hc : c = '\n' ∨ c = '\r') {rest : List Char}
    (hrest : c = '\r' → rest.head? ≠ some '\n') (s : List Char) :
    splitLines (s ++ c :: rest) = splitLines (s ++ [c]) ++ splitLines rest := by
  induction s with
  | nil =>
    rcases hc with rfl | rfl
    · simp only [List.nil_append, splitLines_lf, splitLines, List.cons_append]
    · rw [List.nil_append, List.nil_append, splitLines_cr (hrest rfl), splitLines_cr (by simp)]
      rfl
  | cons x s ih =>
    rw [List.cons_append, List.cons_append]
    have hhead : (s ++ c :: rest).head? = (s ++ [c]).head? := by cases s <;> rfl
    by_cases hlf : x = '\n'
    · rw [hlf, splitLines_lf, splitLines_lf, ih, List.cons_append]
    · by_cases hcr : x = '\r'
      · subst hcr
        by_cases hnext : (s ++ [c]).head? = some '\n'
        · obtain ⟨tail, htail⟩ := List.head?_eq_some_iff.1 hnext
          obtain ⟨tail', htail'⟩ := List.head?_eq_some_iff.1 (hhead.trans hnext)
          rw [htail, htail', splitLines_crlf, splitLines_crlf, ← htail, ← htail', ih]
        · rw [splitLines_cr hnext, splitLines_cr (hhead ▸ hnext), ih, List.cons_append]
      · have hne : splitLines (s ++ [c]) ≠ [] := splitLines_ne_nil (by simp)
        obtain ⟨line, more, hlines⟩ := List.exists_cons_of_ne_nil hne
        rw [splitLines_cons hlf hcr, splitLines_cons hlf hcr, ih, hlines]
        rfl

/-- A text that breaks has a last end of a line. -/
theorem exists_last_break {s : List Char} (h : ¬OneLine s) :
    ∃ before c gap, s = before ++ c :: gap ∧ (c = '\n' ∨ c = '\r') ∧ OneLine gap := by
  induction s with
  | nil => exact absurd ⟨List.not_mem_nil, List.not_mem_nil⟩ h
  | cons x rest ih =>
    by_cases hrest : OneLine rest
    · refine ⟨[], x, rest, rfl, ?_, hrest⟩
      apply Classical.byContradiction
      intro hx
      rw [not_or] at hx
      refine h ⟨?_, ?_⟩
      · simp [Ne.symm hx.1, hrest.1]
      · simp [Ne.symm hx.2, hrest.2]
    · obtain ⟨before, c, gap, rfl, hc, hgap⟩ := ih hrest
      exact ⟨x :: before, c, gap, rfl, hc, hgap⟩

theorem mem_of_mem_splitLines {s line : List Char} {c : Char} (hline : line ∈ splitLines s)
    (hc : c ∈ line) : c ∈ s := by
  fun_induction splitLines s generalizing line with
  | case1 => cases hline
  | case2 rest ih =>
    rcases List.mem_cons.1 hline with rfl | hline
    · cases hc
    · exact List.mem_cons_of_mem _ (List.mem_cons_of_mem _ (ih hline hc))
  | case3 x rest _ hend ih =>
    rcases List.mem_cons.1 hline with rfl | hline
    · cases hc
    · exact List.mem_cons_of_mem x (ih hline hc)
  | case4 x rest _ hend hrest ih =>
    rw [List.mem_singleton.1 hline] at hc
    rw [List.mem_singleton.1 hc]
    exact List.mem_cons_self
  | case5 x rest _ hend first more hrest ih =>
    rcases List.mem_cons.1 hline with rfl | hline
    · rcases List.mem_cons.1 hc with rfl | hc
      · exact List.mem_cons_self
      · exact List.mem_cons_of_mem x (ih (by rw [hrest]; exact List.mem_cons_self) hc)
    · exact List.mem_cons_of_mem x (ih (by rw [hrest]; exact List.mem_cons_of_mem first hline) hc)

/-! ### Blanks at the ends -/

/-- A text of blanks. -/
def Blank (s : List Char) : Prop := ∀ c ∈ s, isBlank c = true

theorem Blank.append {s rest : List Char} (h : Blank s) (h' : Blank rest) : Blank (s ++ rest) :=
  List.forall_mem_append.2 ⟨h, h'⟩

theorem Blank.of_mem_splitLines {s : List Char} (h : Blank s) : ∀ line ∈ splitLines s, Blank line :=
  fun _ hline c hc => h c (mem_of_mem_splitLines hline hc)

theorem blank_takeWhile (s : List Char) : Blank (s.takeWhile isBlank) :=
  fun _ hc => List.mem_takeWhile_imp hc

/-- What is dropped at the end of a text is blank. -/
theorem exists_behind (s : List Char) : ∃ behind, s = trimEnd s ++ behind ∧ Blank behind := by
  refine ⟨(s.reverse.takeWhile isBlank).reverse, ?_, ?_⟩
  · rw [trimEnd_eq, ← List.reverse_append, List.takeWhile_append_dropWhile, List.reverse_reverse]
  · intro c hc
    exact blank_takeWhile s.reverse c (List.mem_reverse.1 hc)

/-- **A text is its trimmed form with blanks around it.** -/
theorem exists_pads (s : List Char) :
    ∃ behind, s = s.takeWhile isBlank ++ trim s ++ behind ∧ Blank behind := by
  obtain ⟨behind, hrest, hbehind⟩ := exists_behind (s.dropWhile isBlank)
  refine ⟨behind, ?_, hbehind⟩
  rw [List.append_assoc, trim_eq, ← hrest, List.takeWhile_append_dropWhile]

theorem trimEnd_append_blank {s behind : List Char} (h : Blank behind) :
    trimEnd (s ++ behind) = trimEnd s := by
  have hdrop : ∀ c ∈ behind.reverse, isBlank c = true := fun c hc => h c (List.mem_reverse.1 hc)
  rw [trimEnd_eq, trimEnd_eq, List.reverse_append, List.dropWhile_append_of_pos hdrop]

/-- **Blanks around a text are trimmed away.** -/
theorem trim_pads {before behind : List Char} (hbefore : Blank before) (hbehind : Blank behind)
    (s : List Char) : trim (before ++ s ++ behind) = trim s := by
  rw [trim_eq, trim_eq, List.append_assoc, List.dropWhile_append_of_pos hbefore, List.dropWhile_append]
  split
  · rename_i hnil
    rw [List.isEmpty_iff.1 hnil, List.dropWhile_eq_nil_iff.2 hbehind]
  · exact trimEnd_append_blank hbehind

theorem trim_blank {s : List Char} (h : Blank s) : trim s = [] := by
  have hpads := trim_pads h (List.forall_mem_nil _) []
  rwa [List.append_nil, List.append_nil] at hpads

end Allotment.Text
