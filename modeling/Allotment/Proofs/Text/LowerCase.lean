import Allotment.Text.Blank
import Allotment.Text.Lower

/-!
# Lower case is a normal form

Names are put in lower case when they are asked for and again when they are read from the ledger,
so lower case must be stable.

* `lower_lower` — **PROVED**: a text in lower case is its own lower case, the final sigma and the
  dotted capital I included;
* `trim_lower` — **PROVED**: the lower case of a text without blanks at its ends has none either;
* `mem_of_mem_lower`, `head?_of_head?_lower` — **PROVED**: digits, marks and whatever else comes
  before the small letters are in a lower-case form only if they are in the text.

All come down to the table of `lowerRuns`. A run of letters is a piece of an arithmetic
progression, and so is the run of their lower-case forms; `LowerRun.misses` compares two such
pieces by their ends and their parity, so the table is checked run by run and not letter by letter.
-/

namespace Allotment.Text

/-! ### The lower-case forms of a run -/

namespace LowerRun

/-- The lower-case form of a letter of a run. -/
def image (r : LowerRun) (n : Nat) : Nat := ((n : Int) + r.shift).toNat

/-- Whether all letters of a run have the same parity. -/
def isEven (r : LowerRun) : Bool := Nat.beq r.stride 2 || Nat.beq r.first r.last

/-- Whether no lower-case form of a run is a letter of another: the pieces lie apart, or they
interleave. -/
def misses (r s : LowerRun) : Bool :=
  Nat.blt (r.image r.last) s.first || Nat.blt s.last (r.image r.first) ||
    (r.isEven && s.isEven && Nat.beq ((r.image r.first + s.first) % 2) 1)

/-- Whether the lower-case forms of a run stay clear of a range. -/
def clears (r : LowerRun) (range : CodeRange) : Bool :=
  Nat.blt (r.image r.last) range.1 || Nat.blt range.2 (r.image r.first)

theorem has_iff {r : LowerRun} {n : Nat} :
    r.has n = true ↔ r.first ≤ n ∧ n ≤ r.last ∧ (n - r.first) % r.stride = 0 := by
  simp [has, and_assoc]

/-- The letters of a run with one parity have that of the first. -/
theorem parity_of_isEven {r : LowerRun} (h : r.isEven = true) {n : Nat} (hn : r.has n = true) :
    n % 2 = r.first % 2 := by
  obtain ⟨hfirst, hlast, hstride⟩ := has_iff.1 hn
  simp only [isEven, Bool.or_eq_true, Nat.beq_eq] at h
  rcases h with h | h
  · rw [h] at hstride
    omega
  · omega

theorem image_mem {r : LowerRun} {n : Nat} (hn : r.has n = true) :
    r.image r.first ≤ r.image n ∧ r.image n ≤ r.image r.last := by
  obtain ⟨hfirst, hlast, -⟩ := has_iff.1 hn
  unfold image
  omega

theorem image_not_has {r s : LowerRun} (hpos : 0 ≤ (r.first : Int) + r.shift)
    (h : r.misses s = true) {n : Nat} (hn : r.has n = true) : s.has (r.image n) = false := by
  rw [Bool.eq_false_iff]
  intro hs
  obtain ⟨hlow, hhigh⟩ := image_mem hn
  obtain ⟨hfirst, hlast, -⟩ := has_iff.1 hs
  simp only [misses, Bool.or_eq_true, Bool.and_eq_true, Nat.blt_eq, Nat.beq_eq] at h
  rcases h with (h | h) | ⟨⟨hr, heven⟩, hodd⟩
  · omega
  · omega
  · have hparity := parity_of_isEven heven hs
    have hletter := parity_of_isEven hr hn
    obtain ⟨hle, -, -⟩ := has_iff.1 hn
    have hshift : r.image n = r.image r.first + (n - r.first) := by
      unfold image
      omega
    omega

theorem image_not_in {r : LowerRun} {range : CodeRange} (h : r.clears range = true) {n : Nat}
    (hn : r.has n = true) : ¬(range.1 ≤ r.image n ∧ r.image n ≤ range.2) := by
  obtain ⟨hlow, hhigh⟩ := image_mem hn
  simp only [clears, Bool.or_eq_true, Nat.blt_eq] at h
  omega

end LowerRun

/-! ### The table -/

/-- The code points that no letter has for its lower-case form: those that are no characters, the
dotted capital I, the capital sigma and the blanks. -/
def neverLower : List CodeRange :=
  [(0xD800, 0xDFFF), (0x110000, 0x110000), (0x130, 0x130), (0x3A3, 0x3A3)] ++ blankRanges

theorem lowerRuns_misses :
    (lowerRuns.all fun r => lowerRuns.all fun s => r.misses s) = true := by
  decide +kernel

theorem lowerRuns_clears :
    (lowerRuns.all fun r => neverLower.all fun range => r.clears range) = true := by
  decide +kernel

theorem lowerRuns_bounds :
    (lowerRuns.all fun r => decide (0 ≤ (r.first : Int) + r.shift) &&
      Nat.blt (r.image r.last) 0x110000) = true := by
  decide +kernel

/-- A character that is in lower case already. -/
def IsLower (c : Char) : Prop := lowerChar c = [c] ∧ c ≠ 'Σ'

/-- A letter of a run has a character for its lower-case form. -/
theorem toNat_image {r : LowerRun} (hr : r ∈ lowerRuns) {n : Nat} (hn : r.has n = true) :
    (Char.ofNat (r.image n)).toNat = r.image n := by
  have hclears := List.all_eq_true.1 (List.all_eq_true.1 lowerRuns_clears r hr)
  have hbounds := List.all_eq_true.1 lowerRuns_bounds r hr
  simp only [Bool.and_eq_true, decide_eq_true_eq, Nat.blt_eq] at hbounds
  have hsurrogate := LowerRun.image_not_in (hclears (0xD800, 0xDFFF) (by decide)) hn
  have hhigh := (LowerRun.image_mem hn).2
  have hvalid : (r.image n).isValidChar := by
    simp only at hsurrogate
    show r.image n < 0xD800 ∨ 0xDFFF < r.image n ∧ r.image n < 0x110000
    omega
  rw [Char.ofNat, dif_pos hvalid]
  rfl

theorem isLower_of_image {r : LowerRun} (hr : r ∈ lowerRuns) {n : Nat} (hn : r.has n = true) :
    IsLower (Char.ofNat (r.image n)) ∧ isBlank (Char.ofNat (r.image n)) = false := by
  have hmisses := List.all_eq_true.1 (List.all_eq_true.1 lowerRuns_misses r hr)
  have hclears := List.all_eq_true.1 (List.all_eq_true.1 lowerRuns_clears r hr)
  have hbounds := List.all_eq_true.1 lowerRuns_bounds r hr
  simp only [Bool.and_eq_true, decide_eq_true_eq, Nat.blt_eq] at hbounds
  have hclear : ∀ range ∈ neverLower, ¬(range.1 ≤ r.image n ∧ r.image n ≤ range.2) :=
    fun range hrange => LowerRun.image_not_in (hclears range hrange) hn
  have hcode := toNat_image hr hn
  have hfound : lowerRuns.find? (·.has (Char.ofNat (r.image n)).toNat) = none := by
    rw [List.find?_eq_none]
    intro s hs
    rw [hcode, LowerRun.image_not_has hbounds.1 (hmisses s hs) hn]
    simp
  have hother : ∀ c : Char, (c.toNat, c.toNat) ∈ neverLower → Char.ofNat (r.image n) ≠ c := by
    intro c hc heq
    have := hclear _ hc
    rw [← hcode, heq] at this
    simp at this
  refine ⟨⟨?_, hother 'Σ' (by decide)⟩, ?_⟩
  · rw [lowerChar, if_neg (hother 'İ' (by decide)), hfound]
  · rw [isBlank, Bool.eq_false_iff, Ne, inRanges_iff]
    rintro ⟨range, hrange, hin⟩
    rw [hcode] at hin
    exact hclear range (List.mem_append_right _ hrange) hin

/-- The lower-case forms of a character are in lower case, and they are blank only if the character
is. -/
theorem isLower_of_mem_lowerChar {c x : Char} (hc : c ≠ 'Σ') (hx : x ∈ lowerChar c) :
    IsLower x ∧ (isBlank c = false → isBlank x = false) := by
  unfold lowerChar at hx
  split at hx
  · simp only [List.mem_cons, List.not_mem_nil, or_false] at hx
    rcases hx with rfl | rfl
    · exact ⟨⟨by decide +kernel, by decide⟩, fun _ => by decide⟩
    · exact ⟨⟨by decide +kernel, by decide⟩, fun _ => by decide⟩
  · rename_i hdotted
    split at hx
    · rename_i r hfind
      have hr := List.mem_of_find?_eq_some hfind
      have hhas := List.find?_some hfind
      rw [List.mem_singleton] at hx
      subst hx
      obtain ⟨hlower, hblank⟩ := isLower_of_image hr hhas
      exact ⟨hlower, fun _ => hblank⟩
    · rename_i hfind
      rw [List.mem_singleton] at hx
      subst hx
      refine ⟨⟨?_, hc⟩, id⟩
      rw [lowerChar, if_neg hdotted, hfind]

theorem isLower_sigmas : IsLower 'σ' ∧ IsLower 'ς' := by
  refine ⟨⟨?_, by decide⟩, ⟨?_, by decide⟩⟩ <;> decide +kernel

/-! ### Texts in lower case -/

theorem lowered_ne_nil (before : List Char) (c : Char) (rest : List Char) :
    lowered before c rest ≠ [] := by
  unfold lowered lowerChar
  split
  · simp
  · split
    · simp
    · split <;> simp

theorem isLower_of_mem_lowered {before rest : List Char} {c x : Char}
    (hx : x ∈ lowered before c rest) : IsLower x ∧ (isBlank c = false → isBlank x = false) := by
  unfold lowered at hx
  split at hx
  · rw [List.mem_singleton] at hx
    split at hx
    · exact hx ▸ ⟨isLower_sigmas.2, fun _ => by decide⟩
    · exact hx ▸ ⟨isLower_sigmas.1, fun _ => by decide⟩
  · rename_i hc
    exact isLower_of_mem_lowerChar hc hx

theorem isLower_of_mem_lowerFrom {before s : List Char} :
    ∀ x ∈ lowerFrom before s, IsLower x := by
  induction s generalizing before with
  | nil => simp [lowerFrom]
  | cons c rest ih =>
    intro x hx
    rw [lowerFrom_cons, List.mem_append] at hx
    rcases hx with hx | hx
    · exact (isLower_of_mem_lowered hx).1
    · exact ih x hx

/-- A text of characters in lower case stays as it is. -/
theorem lowerFrom_of_isLower {before s : List Char} (h : ∀ x ∈ s, IsLower x) :
    lowerFrom before s = s := by
  induction s generalizing before with
  | nil => rfl
  | cons c rest ih =>
    obtain ⟨hc, hsigma⟩ := h c (by simp)
    rw [lowerFrom_cons, ih fun x hx => h x (List.mem_cons_of_mem c hx), lowered, if_neg hsigma, hc]
    rfl

/-- A character in lower case is not lost. -/
theorem mem_lowerFrom_of_isLower {before s : List Char} {c : Char} (hc : IsLower c) (h : c ∈ s) :
    c ∈ lowerFrom before s := by
  induction s generalizing before with
  | nil => cases h
  | cons x rest ih =>
    rw [lowerFrom_cons, List.mem_append]
    rcases List.mem_cons.1 h with rfl | h
    · rw [lowered, if_neg hc.2, hc.1]
      exact .inl List.mem_cons_self
    · exact .inr (ih h)

/-- **A text in lower case is its own lower case.** -/
theorem lower_lower (s : List Char) : lower (lower s) = lower s :=
  lowerFrom_of_isLower isLower_of_mem_lowerFrom

theorem head?_lowerFrom {before s : List Char}
    (h : ∀ c, s.head? = some c → isBlank c = false) :
    ∀ x, (lowerFrom before s).head? = some x → isBlank x = false := by
  cases s with
  | nil => simp [lowerFrom]
  | cons c rest =>
    intro x hx
    obtain ⟨first, more, hchunk⟩ := List.exists_cons_of_ne_nil (lowered_ne_nil before c rest)
    rw [lowerFrom_cons, hchunk, List.cons_append, List.head?_cons, Option.some.injEq] at hx
    have hmem : x ∈ lowered before c rest := by rw [hchunk, hx]; exact List.mem_cons_self
    exact (isLower_of_mem_lowered hmem).2 (h c rfl)

theorem getLast?_lowerFrom {before s : List Char}
    (h : ∀ c, s.getLast? = some c → isBlank c = false) :
    ∀ x, (lowerFrom before s).getLast? = some x → isBlank x = false := by
  induction s generalizing before with
  | nil => simp [lowerFrom]
  | cons c rest ih =>
    intro x hx
    rw [lowerFrom_cons] at hx
    cases rest with
    | nil =>
      rw [lowerFrom, List.append_nil] at hx
      exact (isLower_of_mem_lowered (List.mem_of_getLast? hx)).2 (h c rfl)
    | cons second more =>
      have hne : lowerFrom (c :: before) (second :: more) ≠ [] := by
        rw [lowerFrom_cons]
        exact List.append_ne_nil_of_left_ne_nil (lowered_ne_nil _ _ _) _
      rw [List.getLast?_append, List.getLast?_eq_some_getLast hne, Option.some_or,
        ← List.getLast?_eq_some_getLast hne] at hx
      refine ih (fun last hlast => h last ?_) x hx
      rw [List.getLast?_cons_cons]
      exact hlast

/-- **The lower case of a text without blanks at its ends** has none either. -/
theorem trim_lower {s : List Char} (h : trim s = s) : trim (lower s) = lower s := by
  have hhead := head?_trim s
  have hlast := getLast?_trim s
  rw [h] at hhead hlast
  exact trim_eq_self (head?_lowerFrom hhead) (getLast?_lowerFrom hlast)

/-! ### What comes before the small letters -/

/-- All lower-case forms are small letters, or behind them. -/
theorem lowerRuns_high : (lowerRuns.all fun r => Nat.ble 0x61 (r.image r.first)) = true := by
  decide +kernel

theorem eq_or_le_of_mem_lowerChar {c x : Char} (h : x ∈ lowerChar c) : x = c ∨ 0x61 ≤ x.toNat := by
  unfold lowerChar at h
  split at h
  · simp only [List.mem_cons, List.not_mem_nil, or_false] at h
    rcases h with rfl | rfl
    · exact .inr (by decide)
    · exact .inr (by decide)
  · split at h
    · rename_i r hfind
      have hr := List.mem_of_find?_eq_some hfind
      have hhas := List.find?_some hfind
      have hfirst := Nat.le_of_ble_eq_true (List.all_eq_true.1 lowerRuns_high r hr)
      rw [List.mem_singleton.1 h]
      refine .inr (Nat.le_trans (Nat.le_trans hfirst (LowerRun.image_mem hhas).1) ?_)
      exact Nat.le_of_eq (toNat_image hr hhas).symm
    · exact .inl (List.mem_singleton.1 h)

theorem eq_of_mem_lowered {before rest : List Char} {c x : Char} (hx : x.toNat < 0x61)
    (h : x ∈ lowered before c rest) : x = c := by
  unfold lowered at h
  split at h
  · have hsigmas : 0x61 ≤ 'ς'.toNat ∧ 0x61 ≤ 'σ'.toNat := by decide
    rw [List.mem_singleton] at h
    split at h <;> subst h <;> omega
  · rcases eq_or_le_of_mem_lowerChar h with rfl | hle
    · rfl
    · omega

theorem mem_of_mem_lowerFrom {before s : List Char} {x : Char} (hx : x.toNat < 0x61)
    (h : x ∈ lowerFrom before s) : x ∈ s := by
  induction s generalizing before with
  | nil => exact h
  | cons c rest ih =>
    rw [lowerFrom_cons, List.mem_append] at h
    rcases h with h | h
    · exact eq_of_mem_lowered hx h ▸ List.mem_cons_self
    · exact List.mem_cons_of_mem c (ih h)

/-- **A lower-case form holds no new character before the small letters.** -/
theorem mem_of_mem_lower {s : List Char} {x : Char} (hx : x.toNat < 0x61) (h : x ∈ lower s) :
    x ∈ s :=
  mem_of_mem_lowerFrom hx h

/-- **And it starts with one only if the text does.** -/
theorem head?_of_head?_lower {s : List Char} {x : Char} (hx : x.toNat < 0x61)
    (h : (lower s).head? = some x) : s.head? = some x := by
  cases s with
  | nil => cases h
  | cons c rest =>
    obtain ⟨first, more, hchunk⟩ := List.exists_cons_of_ne_nil (lowered_ne_nil [] c rest)
    rw [lower, lowerFrom_cons, hchunk, List.cons_append, List.head?_cons, Option.some.injEq] at h
    have hmem : x ∈ lowered [] c rest := by
      rw [hchunk, h]
      exact List.mem_cons_self
    rw [eq_of_mem_lowered hx hmem]
    rfl

end Allotment.Text
