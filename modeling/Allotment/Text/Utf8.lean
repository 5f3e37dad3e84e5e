/-!
# UTF-8

* `utf8Bytes` — the bytes of one code point, `encodeUtf8` of a text;
* `decodeUtf8` — the text of any bytes. Bytes that are no UTF-8 become U+FFFD, one for each
  maximal part that could have been the beginning of a character;
* `decodeUtf8_encodeUtf8` — **PROVED**: reading what was written gives the text.

The reader is a machine with one byte of input at a time. Between characters it remembers
nothing; inside a character it remembers the value so far, how many bytes are missing, and the
bounds of the next byte, which keep out overlong forms, surrogates and numbers that are too big.
-/

namespace Allotment.Text

/-- The character that stands for bytes that cannot be read. -/
def replacement : Char := '\uFFFD'

/-- The bytes of a code point. -/
def utf8Bytes (n : Nat) : List UInt8 :=
  if n < 0x80 then [.ofNat n]
  else if n < 0x800 then [.ofNat (0xC0 + n / 64), .ofNat (0x80 + n % 64)]
  else if n < 0x10000 then
    [.ofNat (0xE0 + n / 4096), .ofNat (0x80 + n / 64 % 64), .ofNat (0x80 + n % 64)]
  else
    [.ofNat (0xF0 + n / 262144), .ofNat (0x80 + n / 4096 % 64), .ofNat (0x80 + n / 64 % 64),
      .ofNat (0x80 + n % 64)]

/-- The bytes of a text. -/
def encodeUtf8 (s : List Char) : List UInt8 := s.flatMap fun c => utf8Bytes c.toNat

/-- A character of which some bytes are read. -/
structure Utf8Part where
  /-- The bits read so far, as a number. -/
  value : Nat
  /-- How many bytes are missing, at least one. -/
  missing : Nat
  /-- The least byte that may follow. -/
  low : Nat
  /-- The greatest byte that may follow. -/
  high : Nat

/-- Read a byte between two characters. -/
def utf8First (b : Nat) : List Char × Option Utf8Part :=
  if b < 0x80 then ([Char.ofNat b], none)
  else if 0xC2 ≤ b ∧ b < 0xE0 then ([], some ⟨b - 0xC0, 1, 0x80, 0xBF⟩)
  else if b = 0xE0 then ([], some ⟨0, 2, 0xA0, 0xBF⟩)
  else if b = 0xED then ([], some ⟨0xD, 2, 0x80, 0x9F⟩)
  else if 0xE0 < b ∧ b < 0xF0 then ([], some ⟨b - 0xE0, 2, 0x80, 0xBF⟩)
  else if b = 0xF0 then ([], some ⟨0, 3, 0x90, 0xBF⟩)
  else if 0xF0 < b ∧ b < 0xF4 then ([], some ⟨b - 0xF0, 3, 0x80, 0xBF⟩)
  else if b = 0xF4 then ([], some ⟨4, 3, 0x80, 0x8F⟩)
  else ([replacement], none)

/-- Read a byte: the characters that are finished by it, and what is remembered. -/
def utf8Next : Option Utf8Part → Nat → List Char × Option Utf8Part
  | none, b => utf8First b
  | some p, b =>
    if p.low ≤ b ∧ b ≤ p.high then
      let value := p.value * 64 + (b - 0x80)
      if p.missing = 1 then ([Char.ofNat value], none)
      else ([], some ⟨value, p.missing - 1, 0x80, 0xBF⟩)
    else
      let (cs, q) := utf8First b
      (replacement :: cs, q)

/-- Read bytes from a state. A character that the end cuts off is replaced. -/
def decodeUtf8From (p : Option Utf8Part) : List UInt8 → List Char
  | [] => if p.isSome then [replacement] else []
  | b :: rest =>
    let (cs, q) := utf8Next p b.toNat
    cs ++ decodeUtf8From q rest

/-- The text of bytes. -/
def decodeUtf8 (bytes : List UInt8) : List Char := decodeUtf8From none bytes

/-! ### What was written is read back -/

theorem toNat_ofNat_byte {n : Nat} (h : n < 256) : (UInt8.ofNat n).toNat = n := by
  rw [UInt8.toNat_ofNat']
  exact Nat.mod_eq_of_lt h

/-- A byte in the bounds goes on with a character that needs more bytes. -/
theorem utf8Next_more {v m l h b : Nat} (hl : l ≤ b) (hh : b ≤ h) (hm : m ≠ 1) :
    utf8Next (some ⟨v, m, l, h⟩) b =
      ([], some ⟨v * 64 + (b - 0x80), m - 1, 0x80, 0xBF⟩) := by
  simp only [utf8Next]
  rw [if_pos ⟨hl, hh⟩, if_neg hm]

/-- A byte in the bounds ends a character that needs one byte. -/
theorem utf8Next_last {v l h b : Nat} (hl : l ≤ b) (hh : b ≤ h) :
    utf8Next (some ⟨v, 1, l, h⟩) b = ([Char.ofNat (v * 64 + (b - 0x80))], none) := by
  simp only [utf8Next]
  rw [if_pos ⟨hl, hh⟩]
  rfl

theorem decodeUtf8From_cons (p : Option Utf8Part) (b : UInt8) (rest : List UInt8) :
    decodeUtf8From p (b :: rest) =
      (utf8Next p b.toNat).1 ++ decodeUtf8From (utf8Next p b.toNat).2 rest := rfl

/-- One more byte of a character. -/
theorem decodeUtf8From_byte {p : Option Utf8Part} {n : Nat} (hn : n < 256) (rest : List UInt8) :
    decodeUtf8From p (.ofNat n :: rest) =
      (utf8Next p n).1 ++ decodeUtf8From (utf8Next p n).2 rest := by
  rw [decodeUtf8From_cons, toNat_ofNat_byte hn]

/-- The first byte of a character of two bytes. -/
theorem utf8First_two {b : Nat} (h1 : 0xC2 ≤ b) (h2 : b < 0xE0) :
    utf8First b = ([], some ⟨b - 0xC0, 1, 0x80, 0xBF⟩) := by
  unfold utf8First
  rw [if_neg (by omega), if_pos ⟨h1, h2⟩]

/-- The first byte of a character of three bytes: the bounds of the second keep out overlong
forms and surrogates. -/
theorem utf8First_three {b : Nat} (h1 : 0xE0 ≤ b) (h2 : b < 0xF0) :
    utf8First b = ([], some ⟨b - 0xE0, 2, if b = 0xE0 then 0xA0 else 0x80,
      if b = 0xED then 0x9F else 0xBF⟩) := by
  unfold utf8First
  rw [if_neg (by omega), if_neg (by omega)]
  by_cases hE0 : b = 0xE0
  · subst hE0; rfl
  by_cases hED : b = 0xED
  · subst hED; rfl
  rw [if_neg hE0, if_neg hED, if_pos (by omega), if_neg hE0, if_neg hED]

/-- The first byte of a character of four bytes: the bounds of the second keep out overlong
forms and numbers that are too big. -/
theorem utf8First_four {b : Nat} (h1 : 0xF0 ≤ b) (h2 : b < 0xF5) :
    utf8First b = ([], some ⟨b - 0xF0, 3, if b = 0xF0 then 0x90 else 0x80,
      if b = 0xF4 then 0x8F else 0xBF⟩) := by
  have : b = 0xF0 ∨ b = 0xF1 ∨ b = 0xF2 ∨ b = 0xF3 ∨ b = 0xF4 := by omega
  rcases this with rfl | rfl | rfl | rfl | rfl <;> rfl

/-- **A code point that is a character is read back.** -/
theorem decodeUtf8From_utf8Bytes {n : Nat} (h : n.isValidChar) (rest : List UInt8) :
    decodeUtf8From none (utf8Bytes n ++ rest) = Char.ofNat n :: decodeUtf8From none rest := by
  have hn : n < 0xD800 ∨ 0xDFFF < n ∧ n < 0x110000 := h
  unfold utf8Bytes
  split
  · rename_i h1
    rw [List.cons_append, List.nil_append, decodeUtf8From_byte (by omega)]
    have : utf8Next none n = ([Char.ofNat n], none) := by
      simp only [utf8Next, utf8First]
      rw [if_pos h1]
    rw [this]
    rfl
  split
  · rename_i h1 h2
    rw [List.cons_append, List.cons_append, List.nil_append, decodeUtf8From_byte (by omega)]
    have e1 : utf8Next none (0xC0 + n / 64) = ([], some ⟨n / 64, 1, 0x80, 0xBF⟩) := by
      show utf8First _ = _
      rw [utf8First_two (by omega) (by omega), show 0xC0 + n / 64 - 0xC0 = n / 64 by omega]
    rw [e1, decodeUtf8From_byte (by omega), utf8Next_last (by omega) (by omega)]
    rw [show n / 64 * 64 + (0x80 + n % 64 - 0x80) = n by omega]
    rfl
  split
  · rename_i h1 h2 h3
    simp only [List.cons_append, List.nil_append]
    rw [decodeUtf8From_byte (by omega)]
    have e1 : utf8Next none (0xE0 + n / 4096) = ([], some ⟨n / 4096, 2,
        if 0xE0 + n / 4096 = 0xE0 then 0xA0 else 0x80,
        if 0xE0 + n / 4096 = 0xED then 0x9F else 0xBF⟩) := by
      show utf8First _ = _
      rw [utf8First_three (by omega) (by omega),
        show 0xE0 + n / 4096 - 0xE0 = n / 4096 by omega]
    have hl : (if 0xE0 + n / 4096 = 0xE0 then 0xA0 else 0x80) ≤ 0x80 + n / 64 % 64 := by
      split <;> omega
    have hh : 0x80 + n / 64 % 64 ≤ (if 0xE0 + n / 4096 = 0xED then 0x9F else 0xBF) := by
      split <;> omega
    rw [e1, decodeUtf8From_byte (by omega), utf8Next_more hl hh (by omega)]
    rw [decodeUtf8From_byte (by omega), utf8Next_last (by omega) (by omega)]
    rw [show (n / 4096 * 64 + (0x80 + n / 64 % 64 - 0x80)) * 64 + (0x80 + n % 64 - 0x80) = n
      by omega]
    rfl
  · rename_i h1 h2 h3
    simp only [List.cons_append, List.nil_append]
    rw [decodeUtf8From_byte (by omega)]
    have e1 : utf8Next none (0xF0 + n / 262144) = ([], some ⟨n / 262144, 3,
        if 0xF0 + n / 262144 = 0xF0 then 0x90 else 0x80,
        if 0xF0 + n / 262144 = 0xF4 then 0x8F else 0xBF⟩) := by
      show utf8First _ = _
      rw [utf8First_four (by omega) (by omega),
        show 0xF0 + n / 262144 - 0xF0 = n / 262144 by omega]
    have hl : (if 0xF0 + n / 262144 = 0xF0 then 0x90 else 0x80) ≤ 0x80 + n / 4096 % 64 := by
      split <;> omega
    have hh : 0x80 + n / 4096 % 64 ≤ (if 0xF0 + n / 262144 = 0xF4 then 0x8F else 0xBF) := by
      split <;> omega
    rw [e1, decodeUtf8From_byte (by omega), utf8Next_more hl hh (by omega)]
    rw [decodeUtf8From_byte (by omega), utf8Next_more (by omega) (by omega) (by omega)]
    rw [decodeUtf8From_byte (by omega), utf8Next_last (by omega) (by omega)]
    rw [show ((n / 262144 * 64 + (0x80 + n / 4096 % 64 - 0x80)) * 64
      + (0x80 + n / 64 % 64 - 0x80)) * 64 + (0x80 + n % 64 - 0x80) = n by omega]
    rfl

/-- **What was written is read back.** -/
theorem decodeUtf8_encodeUtf8 (s : List Char) : decodeUtf8 (encodeUtf8 s) = s := by
  unfold decodeUtf8 encodeUtf8
  induction s with
  | nil => rfl
  | cons c s ih =>
    rw [List.flatMap_cons, decodeUtf8From_utf8Bytes (show c.toNat.isValidChar from c.valid), ih,
      Char.ofNat_toNat]

end Allotment.Text
