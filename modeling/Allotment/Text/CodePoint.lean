import Allotment.Text.Utf8

/-!
# Code points

A text that is read from a file consists of characters. A text that a caller hands in may hold
surrogates as well: code points that are halves of a pair and no characters by themselves. Names are
looked at and written letter by letter, and the same is done to letters of both kinds.

* `CodePoint` — a character or a surrogate;
* `Letter` — what texts are made of;
* `Letter.is` — whether a letter is a character with a property, which no surrogate is;
* `spelled` — a text of characters in any kind of letters;
* `Encodable` — a text without surrogates, with `encodable_iff`: one that characters spell;
* `encode` — the bytes of a text. A surrogate has none, and the first ones that follow one another
  are what a writer complains of;
* `encode_spelled`, `encode_of_not_encodable` — **PROVED**: a text has bytes just if it is
  encodable.
-/

namespace Allotment.Text

/-- A code point. -/
inductive CodePoint where
  | char (c : Char)
  /-- A surrogate, by its place among them. -/
  | surrogate (index : Fin 2048)
  deriving DecidableEq, Repr

/-- The number of a code point. -/
def CodePoint.toNat : CodePoint → Nat
  | .char c => c.toNat
  | .surrogate index => 0xD800 + index

/-- What texts are made of. -/
class Letter (α : Type) where
  ofChar : Char → α
  /-- The character that a letter is, if it is one. -/
  char? : α → Option Char
  code : α → Nat
  char?_ofChar (c : Char) : char? (ofChar c) = some c
  ofChar_of_char? {a : α} {c : Char} (h : char? a = some c) : ofChar c = a
  code_ofChar (c : Char) : code (ofChar c) = c.toNat

instance : Letter Char where
  ofChar c := c
  char? c := some c
  code := Char.toNat
  char?_ofChar _ := rfl
  ofChar_of_char? h := (Option.some.inj h).symm
  code_ofChar _ := rfl

instance : Letter CodePoint where
  ofChar := .char
  char?
    | .char c => some c
    | .surrogate _ => none
  code := CodePoint.toNat
  char?_ofChar _ := rfl
  ofChar_of_char? {a} _ h := by
    cases a with
    | char c => rw [Option.some.inj h]
    | surrogate index => cases h
  code_ofChar _ := rfl

variable {α : Type} [Letter α]

namespace Letter

/-- Whether a letter is a character with a property. -/
def is (p : Char → Bool) (a : α) : Bool := (char? a).any p

theorem is_ofChar (p : Char → Bool) (c : Char) : is p (ofChar c : α) = p c := by
  rw [is, char?_ofChar, Option.any_some]

theorem is_comp_ofChar (p : Char → Bool) : is p ∘ (ofChar : Char → α) = p :=
  funext fun c => is_ofChar p c

theorem ofChar_injective : Function.Injective (ofChar : Char → α) := by
  intro c d h
  have hsome : some c = some d := by rw [← char?_ofChar (α := α) c, h, char?_ofChar]
  exact Option.some.inj hsome

/-- Characters are letters as they are. -/
@[simp] theorem ofChar_char (c : Char) : (ofChar c : Char) = c := rfl

@[simp] theorem is_char (p : Char → Bool) : (is p : Char → Bool) = p := rfl

end Letter

/-- A text of characters. -/
def spelled (s : List Char) : List α := s.map Letter.ofChar

@[simp] theorem spelled_char (s : List Char) : (spelled s : List Char) = s := List.map_id s

theorem spelled_cons (c : Char) (s : List Char) :
    (spelled (c :: s) : List α) = Letter.ofChar c :: spelled s := rfl

theorem spelled_append (s rest : List Char) :
    (spelled (s ++ rest) : List α) = spelled s ++ spelled rest := List.map_append

theorem spelled_injective : Function.Injective (spelled : List Char → List α) :=
  fun _ _ h => (List.map_inj_right fun _ _ hsame => Letter.ofChar_injective hsame).1 h

/-- The characters of a text are those that spell it. -/
@[simp] theorem mem_spelled {c : Char} {s : List Char} :
    (Letter.ofChar c : α) ∈ spelled s ↔ c ∈ s := by
  constructor
  · intro h
    obtain ⟨d, hd, hsame⟩ := List.mem_map.1 h
    exact Letter.ofChar_injective hsame ▸ hd
  · exact List.mem_map_of_mem

theorem head?_spelled_eq_some_iff {c : Char} {s : List Char} :
    (spelled s : List α).head? = some (Letter.ofChar c) ↔ s.head? = some c := by
  rw [spelled, List.head?_map, ← Option.map_some]
  exact (Option.map_injective Letter.ofChar_injective).eq_iff

theorem any_spelled (p : Char → Bool) (s : List Char) :
    (spelled s : List α).any (Letter.is p) = s.any p := by
  rw [spelled, List.any_map, Letter.is_comp_ofChar]

/-! ### The bytes of a text -/

/-- Whether a letter is a character. -/
def isChar (a : α) : Bool := Letter.is (fun _ => true) a

/-- A text without surrogates. -/
def Encodable (s : List α) : Prop := ∀ a ∈ s, isChar a = true

instance (s : List α) : Decidable (Encodable s) :=
  inferInstanceAs (Decidable (∀ a ∈ s, isChar a = true))

/-- Surrogates that follow one another in a text. -/
structure Unencodable where
  /-- The number of the first one. -/
  code : Nat
  /-- How many letters stand before it. -/
  place : Nat
  /-- How many there are. -/
  count : Nat
  deriving DecidableEq, Repr

/-- The first surrogates in a text. -/
def firstSurrogates (s : List α) : Unencodable :=
  let rest := s.dropWhile isChar
  { code := (rest.head?.map Letter.code).getD 0
    place := (s.takeWhile isChar).length
    count := (rest.takeWhile fun a => !isChar a).length }

/-- The bytes of a text. -/
def encode (s : List α) : Except Unencodable (List UInt8) :=
  if Encodable s then .ok (s.flatMap fun a => utf8Bytes (Letter.code a))
  else .error (firstSurrogates s)

theorem encodable_append {s rest : List α} :
    Encodable (s ++ rest) ↔ Encodable s ∧ Encodable rest := List.forall_mem_append

theorem encodable_spelled (s : List Char) : Encodable (spelled s : List α) := by
  intro a ha
  obtain ⟨c, -, rfl⟩ := List.mem_map.1 ha
  exact Letter.is_ofChar _ c

/-- **A text without surrogates is one that characters spell.** -/
theorem encodable_iff {s : List α} : Encodable s ↔ ∃ t : List Char, s = spelled t := by
  constructor
  · intro h
    induction s with
    | nil => exact ⟨[], rfl⟩
    | cons a rest ih =>
      obtain ⟨ha, hrest⟩ := List.forall_mem_cons.1 h
      obtain ⟨t, ht⟩ := ih hrest
      obtain ⟨c, hc, -⟩ := Option.any_eq_true _ _ |>.1 ha
      exact ⟨c :: t, by rw [ht, ← Letter.ofChar_of_char? hc]; rfl⟩
  · rintro ⟨t, rfl⟩
    exact encodable_spelled t

/-- **Characters have bytes.** -/
theorem encode_spelled (s : List Char) : encode (spelled s : List α) = .ok (encodeUtf8 s) := by
  rw [encode, if_pos (encodable_spelled s)]
  simp only [spelled, List.flatMap_map, Letter.code_ofChar]
  rfl

theorem encode_char (s : List Char) : encode s = .ok (encodeUtf8 s) := by
  rw [← encode_spelled (α := Char) s, spelled_char]

/-- **And surrogates have none.** -/
theorem encode_of_not_encodable {s : List α} (h : ¬Encodable s) :
    encode s = .error (firstSurrogates s) := if_neg h

end Allotment.Text
