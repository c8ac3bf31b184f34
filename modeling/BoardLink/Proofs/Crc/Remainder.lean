import Mathlib.Algebra.CharP.Two
import Mathlib.Algebra.Field.ZMod
import Mathlib.Algebra.Polynomial.Div
import Mathlib.Tactic.ComputeDegree
import Mathlib.Tactic.LinearCombination
import BoardLink.Proofs.Crc.Register

/-!
# The checksum as a remainder

Words and byte strings are polynomials over the field of two elements, with their bits as
coefficients. A step of the register multiplies by `X` and takes off the generator if the degree has
become too high, so the register holds a remainder of everything that has been shifted in.
-/

namespace BoardLink.Crc

open Polynomial

/-! ### Words and bits as polynomials -/

/-- A bit as a coefficient. -/
def coefficient (b : Bool) : ZMod 2 := if b then 1 else 0

lemma coefficient_xor (a b : Bool) : coefficient (a ^^ b) = coefficient a + coefficient b := by
  revert a b
  decide

lemma coefficient_injective : Function.Injective coefficient := by decide

/-- The polynomial of a word, the lowest bit as the constant coefficient. -/
noncomputable def poly (w : UInt16) : (ZMod 2)[X] :=
  ∑ i ∈ Finset.range 16, C (coefficient (w.toNat.testBit i)) * X ^ i

lemma testBit_of_le (w : UInt16) {n : ℕ} (h : 16 ≤ n) : w.toNat.testBit n = false :=
  Nat.testBit_lt_two_pow (Nat.lt_of_lt_of_le w.toNat_lt (Nat.pow_le_pow_right (by decide) h))

lemma coeff_poly (w : UInt16) (n : ℕ) : (poly w).coeff n = coefficient (w.toNat.testBit n) := by
  simp only [poly, finsetSum_coeff, coeff_C_mul_X_pow, Finset.sum_ite_eq, Finset.mem_range]
  split_ifs with h
  · rfl
  · rw [testBit_of_le w (Nat.not_lt.mp h)]
    rfl

lemma poly_xor (a b : UInt16) : poly (a ^^^ b) = poly a + poly b := by
  ext n
  rw [coeff_add, coeff_poly, coeff_poly, coeff_poly, UInt16.toNat_xor, Nat.testBit_xor,
    coefficient_xor]

lemma degree_poly_lt (w : UInt16) : (poly w).degree < (16 : ℕ) := by
  rw [degree_lt_iff_coeff_zero]
  intro n hn
  rw [coeff_poly, testBit_of_le w hn]
  rfl

lemma poly_injective : Function.Injective poly := by
  intro a b h
  apply UInt16.toNat_inj.mp
  apply Nat.eq_of_testBit_eq
  intro i
  apply coefficient_injective
  rw [← coeff_poly, ← coeff_poly, h]

/-- The polynomial of a string of bits, the last bit as the constant coefficient. -/
noncomputable def message (bits : List Bool) : (ZMod 2)[X] :=
  bits.foldl (fun p b => X * p + C (coefficient b)) 0

lemma message_concat (bits : List Bool) (b : Bool) :
    message (bits ++ [b]) = X * message bits + C (coefficient b) := by
  rw [message, List.foldl_append]
  rfl

/-! ### The generator -/

/-- What remainders are taken by. -/
noncomputable def generator : (ZMod 2)[X] := X ^ 16 + X ^ 12 + X ^ 5 + 1

lemma monic_generator : generator.Monic := by
  unfold generator
  monicity!

lemma degree_generator : generator.degree = (16 : ℕ) := by
  unfold generator
  compute_degree!

lemma poly_divisor (b : Bool) :
    poly (divisor b) = C (coefficient b) * (X ^ 12 + X ^ 5 + 1) := by
  cases b with
  | false => simp [poly, divisor, coefficient]
  | true =>
    have hpoly : poly 0x1021 = 1 + X ^ 5 + X ^ 12 := by
      simp [poly, coefficient, Finset.sum_range_succ, Nat.testBit]
    rw [divisor, if_pos rfl, hpoly, coefficient, if_pos rfl, C_1]
    ring

lemma poly_top (b : Bool) : poly (if b then top else 0) = C (coefficient b) * X ^ 15 := by
  cases b with
  | false => simp [poly, coefficient]
  | true => simp [poly, top, coefficient, Finset.sum_range_succ, Nat.testBit]

/-- A word moved up, with the bit that goes out taken off. -/
lemma poly_shiftLeft (w : UInt16) :
    poly (w <<< 1) = X * poly w + C (coefficient (w.toNat.testBit 15)) * X ^ 16 := by
  have hbits (i : ℕ) : (w <<< 1).toNat.testBit i =
      (decide (i < 16) && (decide (1 ≤ i) && w.toNat.testBit (i - 1))) := by
    rw [UInt16.toNat_shiftLeft, Nat.testBit_mod_two_pow, Nat.testBit_shiftLeft]
    rfl
  ext n
  rw [coeff_add, coeff_poly, hbits, coeff_C_mul_X_pow]
  cases n with
  | zero => simp [coefficient]
  | succ n =>
    rw [coeff_X_mul, coeff_poly]
    rcases Nat.lt_trichotomy n 15 with hlow | rfl | hhigh
    · have hin : n + 1 < 16 := by omega
      simp [hin, Nat.ne_of_lt hlow]
    · -- the bit that goes out comes in twice
      simp [CharTwo.add_self_eq_zero, coefficient]
    · simp [testBit_of_le w hhigh, Nat.ne_of_gt hhigh, coefficient]

/-- A step multiplies by `X` up to a multiple of the generator. -/
lemma poly_shift (w : UInt16) :
    poly (shift w) = X * poly w + C (coefficient (w.toNat.testBit 15)) * generator := by
  rw [shift_eq, poly_xor, poly_shiftLeft, poly_divisor, generator]
  ring

/-- What has been shifted in is what the register holds, up to a multiple of the generator. -/
lemma exists_poly_updateBits (crc : UInt16) (bits : List Bool) :
    ∃ q, poly (updateBits crc bits) + generator * q =
      X ^ bits.length * poly crc + X ^ 16 * message bits := by
  -- the bit shifted in last is the constant coefficient, so the string is taken apart from its end
  induction bits using List.reverseRecOn with
  | nil => exact ⟨0, by simp [updateBits, message]⟩
  | append_singleton bits b ih =>
    obtain ⟨q, hq⟩ := ih
    obtain ⟨c, hc⟩ : ∃ c, poly (updateBits crc (bits ++ [b])) =
        X * (poly (updateBits crc bits) + C (coefficient b) * X ^ 15) + c * generator := by
      rw [updateBits_append]
      show ∃ c, poly (shift (updateBits crc bits ^^^ if b then top else 0)) = _
      rw [poly_shift, poly_xor, poly_top]
      exact ⟨_, rfl⟩
    refine ⟨X * q - c, ?_⟩
    rw [hc, message_concat, List.length_append, List.length_singleton]
    linear_combination X * hq

/-- The register holds a remainder of what has been shifted in. -/
lemma poly_updateBits (crc : UInt16) (bits : List Bool) :
    poly (updateBits crc bits) =
      (X ^ bits.length * poly crc + X ^ 16 * message bits) %ₘ generator := by
  obtain ⟨q, hq⟩ := exists_poly_updateBits crc bits
  have hdegree : (poly (updateBits crc bits)).degree < generator.degree := by
    rw [degree_generator]
    exact degree_poly_lt _
  exact (div_modByMonic_unique q _ monic_generator ⟨hq, hdegree⟩).2.symm

/-- Carrying a checksum on over more data is to put each byte into the high half of the shift
register and to take eight steps. From any initial value, this gives the remainder by the generator
of the data with two bytes behind it, the initial value put on top of the first two; and no other
word has that polynomial. -/
theorem update_eq_register_and_remainder (crc : UInt16) (data : Bytes) :
    update crc data = data.foldl foldBitwise crc ∧
      ∀ w, w = update crc data ↔ poly w =
        (X ^ (8 * data.length) * poly crc + X ^ 16 * message data.bits) %ₘ generator := by
  constructor
  · have hfold : fold = foldBitwise := by
      funext crc byte
      exact (foldBitwise_eq crc byte).symm
    rw [update, hfold]
  · intro w
    rw [← Bytes.length_bits, ← poly_updateBits, ← update_eq, poly_injective.eq_iff]

end BoardLink.Crc
