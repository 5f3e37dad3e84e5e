/-!
# Lines of a text

A line ends with a line feed, a carriage return, or the two together, and with no other
character; the last line may lack its end.

* `splitLines` — the lines without their ends;
* `splitLines_line` — **PROVED**: a line free of ends, written with a line feed behind it,
  is read as that line;
* `splitAtFirst` — cut at the first place of a character.
-/

namespace Allotment.Text

/-- The lines of a text, without their ends. -/
def splitLines : List Char → List (List Char)
  | [] => []
  | '\r' :: '\n' :: rest => [] :: splitLines rest
  | c :: rest =>
    if c = '\n' ∨ c = '\r' then [] :: splitLines rest
    else match splitLines rest with
      | [] => [[c]]
      | line :: more => (c :: line) :: more

/-- The parts before and behind the first `mark`, if there is one. -/
def splitAtFirst (mark : Char) : List Char → Option (List Char × List Char)
  | [] => none
  | c :: rest =>
    if c = mark then some ([], rest)
    else (splitAtFirst mark rest).map fun (before, behind) => (c :: before, behind)

/-! ### Laws of lines and cuts -/

/-- Whether a text holds no end of line. -/
def OneLine (s : List Char) : Prop := '\n' ∉ s ∧ '\r' ∉ s

/-- A character that ends no line belongs to the first line. -/
theorem splitLines_cons {c : Char} (hn : c ≠ '\n') (hr : c ≠ '\r') (s : List Char) :
    splitLines (c :: s) = match splitLines s with
      | [] => [[c]]
      | line :: more => (c :: line) :: more := by
  rw [splitLines]
  · rw [if_neg (by simp [hn, hr])]
  · intro _ h _
    exact hr h

/-- **A line that is written is read back,** and the lines behind it are read on their own. -/
theorem splitLines_line {s : List Char} (hs : OneLine s) (rest : List Char) :
    splitLines (s ++ '\n' :: rest) = s :: splitLines rest := by
  obtain ⟨hn, hr⟩ := hs
  induction s with
  | nil => simp [splitLines]
  | cons c s ih =>
    have hcn : c ≠ '\n' := fun h => hn (by simp [h])
    have hcr : c ≠ '\r' := fun h => hr (by simp [h])
    rw [List.cons_append, splitLines_cons hcn hcr,
      ih (fun h => hn (List.mem_cons_of_mem c h)) (fun h => hr (List.mem_cons_of_mem c h))]

/-- A text without the mark, the mark and anything else are cut there. -/
theorem splitAtFirst_append {mark : Char} {s : List Char} (h : mark ∉ s) (rest : List Char) :
    splitAtFirst mark (s ++ mark :: rest) = some (s, rest) := by
  induction s with
  | nil => simp [splitAtFirst]
  | cons c s ih =>
    have hc : c ≠ mark := fun e => h (by simp [e])
    have hs : mark ∉ s := fun e => h (List.mem_cons_of_mem c e)
    simp [splitAtFirst, hc, ih hs]

/-- What a cut means: the two parts with the mark between them are the text, and the mark is
not in the first part. -/
theorem splitAtFirst_eq_some {mark : Char} {s before behind : List Char}
    (h : splitAtFirst mark s = some (before, behind)) :
    s = before ++ mark :: behind ∧ mark ∉ before := by
  induction s generalizing before with
  | nil => simp [splitAtFirst] at h
  | cons c s ih =>
    unfold splitAtFirst at h
    by_cases hc : c = mark
    · rw [if_pos hc] at h
      simp only [Option.some.injEq, Prod.mk.injEq] at h
      obtain ⟨rfl, rfl⟩ := h
      simp [hc]
    · rw [if_neg hc] at h
      obtain ⟨⟨b, r⟩, hbr, heq⟩ := Option.map_eq_some_iff.1 h
      simp only [Prod.mk.injEq] at heq
      obtain ⟨rfl, rfl⟩ := heq
      obtain ⟨h1, h2⟩ := ih hbr
      refine ⟨by rw [h1]; rfl, ?_⟩
      intro hm
      rcases List.mem_cons.1 hm with e | e
      · exact hc e.symm
      · exact h2 e

end Allotment.Text
