import Allotment.Text.Encoding
import Allotment.Text.Numeral

/-!
# What a written line looks like to the reader

Both files are made of lines `name=number` or `name=number,number,…`. The reader trims a line, skips
it if it is empty or a comment, and cuts it at marks. This file says that none of this touches a
line that was written.

* `readInt_trim_decimal` — **PROVED**: a number is read back between the marks of a line;
* `readable_of_readInt` — **PROVED**: whatever is read as a number can be written and read again;
* `trim_marked` — **PROVED**: a line that starts with a name and ends with a number is not trimmed;
* `significantFrom_append`, `significantFrom_cons` — the significant lines of a file, piece by
  piece;
* `mem_significantFrom_iff`, `nodup_numbers` — **PROVED**: the significant lines are those that are
  neither empty nor comments, and no two have the same number.
-/

namespace Allotment.Text

/-! ### Numbers -/

theorem mem_decimal {n : Int} {c : Char} (h : c ∈ decimal n) :
    c = '-' ∨ ∃ d, d < 10 ∧ c = Nat.digitChar d := by
  have hdigits : c ∈ Nat.toDigits 10 n.natAbs → ∃ d, d < 10 ∧ c = Nat.digitChar d := by
    intro hc
    obtain ⟨d, ds, hlt, hds, -⟩ := toDigits_eq_map n.natAbs
    rw [hds] at hc
    obtain ⟨digit, hdigit, rfl⟩ := List.mem_map.1 hc
    exact ⟨digit, hlt digit hdigit, rfl⟩
  unfold decimal at h
  split at h
  · rcases List.mem_cons.1 h with h | h
    · exact Or.inl h
    · exact Or.inr (hdigits h)
  · exact Or.inr (hdigits h)

/-- The characters of a number are neither blank nor marks. -/
theorem digitChar_unmarked : ∀ d, d < 10 →
    isBlank (Nat.digitChar d) = false ∧ Nat.digitChar d ∉ [',', '=', ']', '\n', '\r'] := by
  decide

theorem not_blank_of_mem_decimal {n : Int} {c : Char} (h : c ∈ decimal n) : isBlank c = false := by
  rcases mem_decimal h with rfl | ⟨d, hd, rfl⟩
  · decide
  · exact (digitChar_unmarked d hd).1

theorem not_mem_decimal {n : Int} {c : Char} (hc : c ∈ [',', '=', ']', '\n', '\r']) :
    c ∉ decimal n := by
  intro h
  rcases mem_decimal h with rfl | ⟨d, hd, rfl⟩
  · revert hc
    decide
  · exact (digitChar_unmarked d hd).2 hc

theorem decimal_ne_nil (n : Int) : decimal n ≠ [] := by
  obtain ⟨d, ds, -, hds, -⟩ := toDigits_eq_map n.natAbs
  unfold decimal
  rw [hds]
  split <;> simp

theorem trim_decimal (n : Int) : trim (decimal n) = decimal n :=
  trim_eq_self (fun _ hc => not_blank_of_mem_decimal (List.mem_of_head? hc))
    (fun _ hc => not_blank_of_mem_decimal (List.mem_of_getLast? hc))

/-- **A number is read back between the marks of a line.** -/
theorem readInt_trim_decimal {n : Int} (h : Readable n) : readInt (trim (decimal n)) = .ok n := by
  rw [trim_decimal]
  exact readInt_decimal h

/-- Numbers below the number of all ids, and many more, can be read. -/
theorem readable_of_lt {n : Int} (h : n.natAbs < 100000) : Readable n := by
  have hlen : (Nat.toDigits 10 n.natAbs).length ≤ 5 :=
    (Nat.length_toDigits_le_iff (by decide) (by decide)).2 h
  exact Nat.le_trans hlen (by decide)

/-- A greater number has no fewer digits. -/
theorem length_toDigits_le {m n : Nat} (h : m ≤ n) :
    (Nat.toDigits 10 m).length ≤ (Nat.toDigits 10 n).length := by
  rw [Nat.length_toDigits_le_iff (by decide) Nat.length_toDigits_pos]
  exact Nat.lt_of_le_of_lt h
    ((Nat.length_toDigits_le_iff (by decide) Nat.length_toDigits_pos).1 (Nat.le_refl _))

/-- Numbers between two numbers that can be read can be read. -/
theorem readable_of_between {low n high : Int} (hlow : Readable low) (hhigh : Readable high)
    (h : low ≤ n) (h' : n ≤ high) : Readable n := by
  have hbound : n.natAbs ≤ low.natAbs ∨ n.natAbs ≤ high.natAbs := by omega
  rcases hbound with hle | hle
  · exact Nat.le_trans (length_toDigits_le hle) hlow
  · exact Nat.le_trans (length_toDigits_le hle) hhigh

/-! ### Numbers that were read -/

theorem lt_ten_of_takeDigits {place : NumeralPlace} {s tail : List Char} {ds : List Nat}
    (h : takeDigits place s = some (ds, tail)) : ∀ d ∈ ds, d < 10 := by
  induction s generalizing place ds with
  | nil =>
    rw [takeDigits] at h
    split at h
    · cases h
    · cases h
      simp
  | cons c rest ih =>
    rw [takeDigits] at h
    split at h
    · rename_i digit hdigit
      obtain ⟨⟨more, tail'⟩, hrest, heq⟩ := Option.map_eq_some_iff.1 h
      cases heq
      intro d hd
      rcases List.mem_cons.1 hd with rfl | hd
      · exact digitValue?_lt hdigit
      · exact ih hrest d hd
    · split at h
      · split at h
        · exact ih h
        · cases h
      · split at h
        · cases h
        · cases h
          simp

/-- Digits have no larger value than as many nines. -/
theorem digitsValue_lt {ds : List Nat} (h : ∀ d ∈ ds, d < 10) (value : Nat) :
    digitsValue value ds < (value + 1) * Nat.pow 10 ds.length := by
  induction ds generalizing value with
  | nil =>
    show value < (value + 1) * 1
    omega
  | cons d ds ih =>
    have hd : d < 10 := h d List.mem_cons_self
    have hrest := ih (fun x hx => h x (List.mem_cons_of_mem d hx)) (10 * value + d)
    have hstep : 10 * value + d + 1 ≤ (value + 1) * 10 := by omega
    calc digitsValue value (d :: ds)
        = digitsValue (10 * value + d) ds := rfl
      _ < (10 * value + d + 1) * Nat.pow 10 ds.length := hrest
      _ ≤ (value + 1) * 10 * Nat.pow 10 ds.length := Nat.mul_le_mul_right _ hstep
      _ = (value + 1) * (Nat.pow 10 ds.length * 10) := by
        rw [Nat.mul_assoc, Nat.mul_comm 10]
      _ = (value + 1) * Nat.pow 10 (d :: ds).length := rfl

theorem length_toDigits_of_readNat {s : List Char} {n : Nat} (h : readNat s = .ok n) :
    (Nat.toDigits 10 n).length ≤ digitLimit := by
  unfold readNat at h
  split at h
  · rename_i d ds tail htake
    split at h
    · cases h
    · rename_i hlen
      split at h
      · cases h
        have hlt := digitsValue_lt (lt_ten_of_takeDigits htake) 0
        rw [Nat.zero_add, Nat.one_mul] at hlt
        have hdigits := (Nat.length_toDigits_le_iff (by decide) (by simp)).2 hlt
        exact Nat.le_trans hdigits (Nat.not_lt.1 hlen)
      · cases h
  · cases h

/-- **Whatever is read as a number can be written and read again.** -/
theorem readable_of_readInt {s : List Char} {n : Int} (h : readInt s = .ok n) : Readable n := by
  have hsign : ∀ (rest : List Char) (f : Nat → Int), (∀ m, (f m).natAbs = m) →
      (readNat rest).map f = .ok n → Readable n := by
    intro rest f habs hmap
    cases hread : readNat rest with
    | error flaw =>
      rw [hread] at hmap
      cases hmap
    | ok m =>
      rw [hread] at hmap
      cases hmap
      rw [Readable, habs]
      exact length_toDigits_of_readNat hread
  unfold readInt at h
  split at h
  · exact hsign _ _ (fun m => by omega) h
  · exact hsign _ _ (fun m => by omega) h
  · exact hsign _ _ (fun m => by omega) h

/-! ### Lines -/

/-- **A line that starts with a name and ends with a number** is not trimmed. -/
theorem trim_marked {name value : List Char} (hname : trim name = name) (hne : name ≠ [])
    (hvalue : value ≠ []) (hlast : ∀ c, value.getLast? = some c → isBlank c = false)
    (mark : Char) : trim (name ++ mark :: value) = name ++ mark :: value := by
  have hhead := head?_trim name
  rw [hname] at hhead
  apply trim_eq_self
  · intro c hc
    obtain ⟨first, rest, rfl⟩ := List.exists_cons_of_ne_nil hne
    rw [List.cons_append, List.head?_cons] at hc
    exact hhead c (by rw [List.head?_cons, hc])
  · intro c hc
    apply hlast
    obtain ⟨first, rest, rfl⟩ := List.exists_cons_of_ne_nil hvalue
    rw [List.getLast?_append, List.getLast?_cons_cons] at hc
    rw [← hc, List.getLast?_eq_some_getLast (List.cons_ne_nil first rest), Option.some_or]

/-- A line is not skipped if its name is no comment. -/
theorem isSkippable_marked {name value : List Char} (hne : name ≠ [])
    (hhead : name.head? ≠ some '#') (mark : Char) :
    isSkippable (name ++ mark :: value) = false := by
  obtain ⟨first, rest, rfl⟩ := List.exists_cons_of_ne_nil hne
  simpa [isSkippable] using hhead

theorem significantFrom_append (number : Int) (lines more : List (List Char)) :
    significantFrom number (lines ++ more) =
      significantFrom number lines ++ significantFrom (number + lines.length) more := by
  induction lines generalizing number with
  | nil => simp [significantFrom]
  | cons line rest ih =>
    have hnext : number + 1 + (rest.length : Int) = number + ((line :: rest).length : Int) := by
      simp only [List.length_cons]
      omega
    rw [List.cons_append, significantFrom, significantFrom]
    split
    · rw [ih, hnext]
    · rw [ih, hnext, List.cons_append]

/-- Lines that say nothing are passed over. -/
theorem significantFrom_of_skippable {number : Int} {lines : List (List Char)}
    (h : ∀ line ∈ lines, isSkippable (trim line) = true) : significantFrom number lines = [] := by
  induction lines generalizing number with
  | nil => rfl
  | cons line rest ih =>
    rw [significantFrom, if_pos (h line (by simp))]
    exact ih fun other hother => h other (List.mem_cons_of_mem line hother)

/-- Lines may be trimmed beforehand. -/
theorem significantFrom_map_trim (number : Int) (lines : List (List Char)) :
    significantFrom number (lines.map trim) = significantFrom number lines := by
  induction lines generalizing number with
  | nil => rfl
  | cons line rest ih => rw [List.map_cons, significantFrom, significantFrom, trim_trim, ih]

/-- A line that is not trimmed and not skipped is significant as it is. -/
theorem significantFrom_cons {number : Int} {line : List Char} (htrim : trim line = line)
    (hskip : isSkippable line = false) (rest : List (List Char)) :
    significantFrom number (trim line :: rest) =
      ⟨number, line⟩ :: significantFrom (number + 1) rest := by
  rw [significantFrom, trim_trim, htrim, if_neg (by simp [hskip])]

/-- **The significant lines are those that are neither empty nor comments,** and each has the number
of its place. -/
theorem mem_significantFrom_iff {number : Int} {lines : List (List Char)} {l : NumberedLine} :
    l ∈ significantFrom number lines ↔ ∃ i raw, lines[i]? = some raw ∧
      isSkippable (trim raw) = false ∧ l = ⟨number + (i : Nat), trim raw⟩ := by
  induction lines generalizing number with
  | nil => simp [significantFrom]
  | cons line rest ih =>
    have hhead : l ∈ significantFrom number (line :: rest) ↔
        (isSkippable (trim line) = false ∧ l = ⟨number, trim line⟩) ∨
          l ∈ significantFrom (number + 1) rest := by
      rw [significantFrom]
      cases hskip : isSkippable (trim line) with
      | true => simp
      | false => simp
    rw [hhead, ih]
    constructor
    · intro hmem
      rcases hmem with ⟨hskip, rfl⟩ | ⟨i, raw, hraw, hskip, rfl⟩
      · exact ⟨0, line, rfl, hskip, by simp⟩
      · refine ⟨i + 1, raw, hraw, hskip, ?_⟩
        rw [NumberedLine.mk.injEq]
        exact ⟨by omega, rfl⟩
    · intro hplace
      obtain ⟨i, raw, hraw, hskip, rfl⟩ := hplace
      cases i with
      | zero =>
        cases hraw
        exact .inl ⟨hskip, by simp⟩
      | succ i =>
        refine .inr ⟨i, raw, hraw, hskip, ?_⟩
        rw [NumberedLine.mk.injEq]
        exact ⟨by omega, rfl⟩

/-- No two significant lines have the same number. -/
theorem nodup_numbers (number : Int) (lines : List (List Char)) :
    ((significantFrom number lines).map NumberedLine.number).Nodup := by
  induction lines generalizing number with
  | nil => exact List.nodup_nil
  | cons line rest ih =>
    rw [significantFrom]
    split
    · exact ih (number + 1)
    · rw [List.map_cons, List.nodup_cons]
      refine ⟨?_, ih (number + 1)⟩
      intro hmem
      obtain ⟨l, hl, hnumber⟩ := List.mem_map.1 hmem
      obtain ⟨i, raw, -, -, rfl⟩ := mem_significantFrom_iff.1 hl
      simp only at hnumber
      omega

end Allotment.Text
