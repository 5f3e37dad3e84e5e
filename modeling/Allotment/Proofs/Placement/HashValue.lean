import Allotment.Placement.Search
import Mathlib.Data.Int.Bitwise
import Mathlib.Data.List.Induction
import Mathlib.Data.Nat.Digits.Defs
import Mathlib.Data.Nat.ModEq
import Mathlib.Data.Set.Function
import Mathlib.Tactic.Ring

/-!
# The arithmetic of the hashes

The polynomial hash is cut to 32 bits at every code point of a name, and the mixing for space B cuts an
integer that may have any size and sign. It does not matter where the cuts are made: the hash is that of
the whole number that the name stands for, and the mixing is that of the whole integer.

* `wholeValue` — the number that a name stands for in base 31, without any cut;
* `polynomial_eq_mod` — **PROVED**: cutting at every step comes to the same as cutting once;
* `polynomial_append` — **PROVED**: the hash of two names in a row comes from the hashes of the two;
* `secondary_eq_polynomial` — **PROVED**: the secondary hash is the polynomial of the name with its
  length behind it;
* `mix_b_eq_land` — **PROVED**: the mixing takes the exclusive or of an integer and its upper part, sign
  and all, and cuts what comes of it;
* `mix_b_mix_b` — **PROVED**: on the values of 32 bits it undoes itself;
* `hash_arithmetic` — **PROVED**: all of this together, and so no two hashes are merged;
* `primaryValue_eq_iff`, `secondaryValue_eq_iff` — **PROVED**: in either space, two names start the
  search from the same values just if they have the same hashes.
-/

namespace Allotment.Placement

/-! ### Names as numbers -/

/-- The number whose digits in base 31 are the code points of a name, highest first. -/
def wholeValue (name : List ℕ) : ℕ := Nat.ofDigits 31 name.reverse

theorem wholeValue_append (name more : List ℕ) :
    wholeValue (name ++ more) = wholeValue name * 31 ^ more.length + wholeValue more := by
  rw [wholeValue, List.reverse_append, Nat.ofDigits_append, List.length_reverse, ← wholeValue,
    ← wholeValue]
  ring

theorem wholeValue_concat (name : List ℕ) (c : ℕ) :
    wholeValue (name ++ [c]) = 31 * wholeValue name + c := by
  have hlast : wholeValue [c] = c := Nat.ofDigits_singleton
  rw [wholeValue_append, hlast, List.length_singleton]
  ring

/-- One step of the hash. -/
theorem polynomial_concat (name : List ℕ) (c : ℕ) :
    polynomial (name ++ [c]) = (31 * polynomial name + c) % wordCount := by
  rw [polynomial, List.foldl_append, List.foldl_cons, List.foldl_nil, ← polynomial]

/-- **Cutting at every step comes to the same as cutting once.** -/
theorem polynomial_eq_mod (name : List ℕ) : polynomial name = wholeValue name % wordCount := by
  -- the steps go from the front, so the name grows at its end
  induction name using List.reverseRecOn with
  | nil => rfl
  | append_singleton name c ih =>
    have hstep : 31 * (wholeValue name % wordCount) + c ≡ 31 * wholeValue name + c [MOD wordCount] :=
      ((Nat.mod_modEq _ _).mul_left 31).add_right c
    rw [polynomial_concat, ih, wholeValue_concat]
    exact hstep

theorem polynomial_lt (name : List ℕ) : polynomial name < wordCount := by
  rw [polynomial_eq_mod]
  exact Nat.mod_lt _ (by decide)

/-- **The hash of a name and one behind it.** -/
theorem polynomial_append (name more : List ℕ) : polynomial (name ++ more) =
    (polynomial name * 31 ^ more.length + polynomial more) % wordCount := by
  have hparts : polynomial name * 31 ^ more.length + polynomial more ≡
      wholeValue name * 31 ^ more.length + wholeValue more [MOD wordCount] := by
    rw [polynomial_eq_mod, polynomial_eq_mod]
    exact ((Nat.mod_modEq _ _).mul_right _).add (Nat.mod_modEq _ _)
  rw [polynomial_eq_mod, wholeValue_append]
  exact hparts.symm

/-- **The secondary hash is the polynomial of the name with its length behind.** -/
theorem secondary_eq_polynomial (name : List ℕ) :
    secondary name = polynomial (name ++ [name.length]) := by
  rw [polynomial_concat, secondary, Nat.mul_comm]

theorem secondary_lt (name : List ℕ) : secondary name < wordCount := by
  rw [secondary_eq_polynomial]
  exact polynomial_lt _

theorem digest_lt (name : List ℕ) : digest name < wordCount := by
  unfold digest
  split
  · exact polynomial_lt name
  · exact UInt32.toNat_lt _

/-! ### Integers cut to a number of bits -/

/-- The remainder by a power of two keeps the lowest bits, also of an integer below zero. -/
theorem testBit_toNat_emod (v : ℤ) (width k : ℕ) :
    (v % (2 ^ width : ℕ)).toNat.testBit k = (decide (k < width) && v.testBit k) := by
  cases v with
  | ofNat m =>
    rw [Int.ofNat_eq_natCast, ← Int.natCast_emod, Int.toNat_natCast, Nat.testBit_mod_two_pow]
    rfl
  | negSucc m =>
    have hlt : m % 2 ^ width < 2 ^ width := Nat.mod_lt _ (Nat.two_pow_pos width)
    have hrest : (Int.negSucc m % (2 ^ width : ℕ)).toNat = 2 ^ width - (m % 2 ^ width + 1) := by
      rw [Int.negSucc_emod _ (by exact_mod_cast Nat.two_pow_pos width), ← Int.natCast_emod]
      omega
    rw [hrest, Nat.testBit_two_pow_sub_succ hlt, Nat.testBit_mod_two_pow]
    cases hk : decide (k < width) with
    | true => simp [Int.testBit]
    | false => simp

/-- **Masking with all bits below a width** is taking the remainder. -/
theorem land_mask (v : ℤ) (width : ℕ) : Int.land v (2 ^ width - 1 : ℕ) = v % (2 ^ width : ℕ) := by
  obtain ⟨masked, hmasked⟩ : ∃ n : ℕ, Int.land v (2 ^ width - 1 : ℕ) = n := by
    cases v with
    | ofNat m => exact ⟨_, rfl⟩
    | negSucc m => exact ⟨_, rfl⟩
  have hnonneg : 0 ≤ v % (2 ^ width : ℕ) :=
    Int.emod_nonneg _ (by exact_mod_cast (Nat.two_pow_pos width).ne')
  have heq : masked = (v % (2 ^ width : ℕ)).toNat := by
    apply Nat.eq_of_testBit_eq
    intro k
    have hbit : masked.testBit k = (Int.land v (2 ^ width - 1 : ℕ)).testBit k := by
      rw [hmasked]
      rfl
    have hmask : Int.testBit (2 ^ width - 1 : ℕ) k = decide (k < width) :=
      Nat.testBit_two_pow_sub_one width k
    rw [hbit, Int.testBit_land, hmask, testBit_toNat_emod, Bool.and_comm]
  rw [hmasked, heq, Int.toNat_of_nonneg hnonneg]

/-- An exclusive or may be cut before or after. -/
theorem toNat_xor_emod (v w : ℤ) (width : ℕ) : (Int.xor v w % (2 ^ width : ℕ)).toNat =
    (v % (2 ^ width : ℕ)).toNat ^^^ (w % (2 ^ width : ℕ)).toNat := by
  apply Nat.eq_of_testBit_eq
  intro k
  rw [Nat.testBit_xor]
  simp only [testBit_toNat_emod, Int.testBit_lxor]
  cases decide (k < width) with
  | true => simp
  | false => simp

/-! ### The mixing -/

/-- The values of 32 bits. -/
def words : Set ℤ := {v | 0 ≤ v ∧ v < 2 ^ 32}

theorem natCast_mem_words {n : ℕ} : (n : ℤ) ∈ words ↔ n < wordCount := by
  have hcount : wordCount = 2 ^ 32 := rfl
  constructor
  · intro h
    have hlt := h.2
    omega
  · intro h
    exact ⟨Int.natCast_nonneg n, by omega⟩

/-- **The mixing is that of the whole integer,** cut at the end. -/
theorem mix_b_eq_land (v : ℤ) :
    mix .b v = Int.land (Int.xor v (v >>> (16 : ℕ))) (2 ^ 32 - 1 : ℕ) := by
  have hshift : v >>> (16 : ℕ) = v / halfCount := Int.shiftRight_eq_div_pow v 16
  have hnonneg : 0 ≤ Int.xor v (v / halfCount) % (2 ^ 32 : ℕ) := Int.emod_nonneg _ (by decide)
  rw [land_mask, hshift, ← Int.toNat_of_nonneg hnonneg, toNat_xor_emod]
  rfl

/-- A hash of 32 bits has its upper half folded into the lower. -/
theorem mix_b_natCast {word : ℕ} (h : word < wordCount) :
    mix .b word = (word ^^^ word >>> 16 : ℕ) := by
  have hupper : word / halfCount < wordCount := Nat.lt_of_le_of_lt (Nat.div_le_self _ _) h
  have hshift : word >>> 16 = word / halfCount := Nat.shiftRight_eq_div_pow word 16
  rw [hshift, mix, ← Int.natCast_ediv, ← Int.natCast_emod, ← Int.natCast_emod, Int.toNat_natCast,
    Int.toNat_natCast, Nat.mod_eq_of_lt h, Nat.mod_eq_of_lt hupper]

/-- Whatever is mixed, 32 bits come of it. -/
theorem mix_b_mem_words (v : ℤ) : mix .b v ∈ words := by
  have hword : ∀ w : ℤ, (w % wordCount).toNat < 2 ^ 32 := by
    intro w
    have hlt := Int.emod_lt_of_pos w (show (0 : ℤ) < wordCount by decide)
    have hcount : wordCount = 2 ^ 32 := rfl
    omega
  exact natCast_mem_words.2 (Nat.xor_lt_two_pow (hword v) (hword (v / halfCount)))

/-- **On the values of 32 bits the mixing undoes itself:** the upper half stays as it is, and so it is
folded into the lower half twice. -/
theorem mix_b_mix_b {v : ℤ} (hv : v ∈ words) : mix .b (mix .b v) = v := by
  obtain ⟨word, rfl⟩ := Int.eq_ofNat_of_zero_le hv.1
  have hword := natCast_mem_words.1 hv
  have hmixed := mix_b_mem_words word
  rw [mix_b_natCast hword, natCast_mem_words] at hmixed
  have hgone : word >>> 16 >>> 16 = 0 := by
    rw [← Nat.shiftRight_add]
    exact Nat.shiftRight_eq_zero _ _ hword
  rw [mix_b_natCast hword, mix_b_natCast hmixed, Nat.shiftRight_xor_distrib, hgone, Nat.xor_zero,
    Nat.xor_assoc, Nat.xor_self, Nat.xor_zero]

theorem injOn_mix_b : Set.InjOn (mix .b) words := Set.LeftInvOn.injOn fun _ => mix_b_mix_b

/-- **The hashes are whole numbers, cut to 32 bits once.** The polynomial hash comes from the number that
a name stands for, and that of two names in a row from the hashes of the two; the secondary hash is that of
the name with its length behind it. The mixing for space B is an exclusive or of whole integers, cut to 32
bits. On values of 32 bits it undoes itself, and so it merges no two of them. -/
theorem hash_arithmetic :
    (∀ name more : List ℕ, polynomial (name ++ more) =
      (polynomial name * 31 ^ more.length + polynomial more) % 2 ^ 32) ∧
    (∀ name : List ℕ, polynomial name = wholeValue name % 2 ^ 32) ∧
    (∀ name : List ℕ, secondary name = (31 * polynomial name + name.length) % 2 ^ 32 ∧
      secondary name = polynomial (name ++ [name.length]) ∧
      secondary name = wholeValue (name ++ [name.length]) % 2 ^ 32) ∧
    (∀ v : ℤ, mix .b v = Int.land (Int.xor v (v >>> (16 : ℕ))) (2 ^ 32 - 1 : ℕ) ∧
      mix .b v ∈ words) ∧
    (∀ v ∈ words, mix .b (mix .b v) = v) ∧ Set.InjOn (mix .b) words := by
  refine ⟨polynomial_append, polynomial_eq_mod, ?_, ?_, fun _ => mix_b_mix_b, injOn_mix_b⟩
  · intro name
    have hlast := secondary_eq_polynomial name
    refine ⟨?_, hlast, ?_⟩
    · rw [hlast, polynomial_concat]
      rfl
    · rw [hlast]
      exact polynomial_eq_mod _
  · exact fun v => ⟨mix_b_eq_land v, mix_b_mem_words v⟩

/-- The parts of this name hold surrogates and the highest code point, and go past 32 bits several times.
A word with a full upper half is mixed back to itself. Two words with the same lower half once they are
mixed still differ, in the upper one. Among all integers the mixing does merge: minus one, whose bits are
all set, comes to zero. -/
theorem hash_arithmetic_wrapped :
    polynomial ([0x10FFFF, 0xD800, 0x3A3] ++ [0xDFFF, 0x10FFFF, 0x10FFFF, 0x61]) =
      (polynomial [0x10FFFF, 0xD800, 0x3A3] * 31 ^ 4 +
        polynomial [0xDFFF, 0x10FFFF, 0x10FFFF, 0x61]) % 2 ^ 32 ∧
    0xFFFF0001 ∈ words ∧ mix .b 0xFFFF0001 = 0xFFFFFFFE ∧ mix .b 0xFFFFFFFE = 0xFFFF0001 ∧
    mix .b 0x10000 ≠ mix .b 1 ∧ mix .b (-1) = mix .b 0 := by
  obtain ⟨happend, -, -, -, hback, hinj⟩ := hash_arithmetic
  have hword : 0xFFFF0001 ∈ words := ⟨by decide, by decide⟩
  have hmixed : mix .b 0xFFFF0001 = 0xFFFFFFFE := by decide
  have hagain := hback _ hword
  rw [hmixed] at hagain
  have hapart : mix .b 0x10000 ≠ mix .b 1 :=
    hinj.ne ⟨by decide, by decide⟩ ⟨by decide, by decide⟩ (by decide)
  exact ⟨happend _ _, hword, hmixed, hagain, hapart, by decide⟩

/-! ### The values that a search starts from -/

/-- No two hashes are merged, in either space. -/
theorem mix_eq_iff {space : Space} {m n : ℕ} (hm : m < wordCount) (hn : n < wordCount) :
    mix space m = mix space n ↔ m = n := by
  rw [← Int.natCast_inj]
  cases space with
  | a => exact Iff.rfl
  | b => exact injOn_mix_b.eq_iff (natCast_mem_words.2 hm) (natCast_mem_words.2 hn)

/-- The first slots of two names are picked by the same value just if their digests are the same. -/
theorem primaryValue_eq_iff {z : Zone} {name other : List ℕ} :
    primaryValue z name = primaryValue z other ↔ digest name = digest other :=
  mix_eq_iff (digest_lt name) (digest_lt other)

/-- The second slots likewise, with the secondary hashes. -/
theorem secondaryValue_eq_iff {z : Zone} {name other : List ℕ} :
    secondaryValue z name = secondaryValue z other ↔ secondary name = secondary other :=
  mix_eq_iff (secondary_lt name) (secondary_lt other)

end Allotment.Placement
