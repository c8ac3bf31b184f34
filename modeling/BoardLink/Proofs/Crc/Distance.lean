import Mathlib.Data.Finset.Card
import Mathlib.Data.Nat.Bits
import Mathlib.Order.Interval.Finset.Nat
import Mathlib.Tactic.Common
import BoardLink.Frame.Encoding
import BoardLink.Proofs.Crc.Register

/-!
# How far intact strings are apart

Two intact strings of one length differ by a string of bits that leaves nothing in the register. Such a
string has an even number of bits set, since the divisor has. It has not just two, since the register
comes back to one bit only after more steps than a frame has bits. And it has none within sixteen places
alone, since these fit into the register.
-/

namespace BoardLink

namespace Bytes

/-! ### Differing bits -/

/-- The places at which the bits differ. -/
def differing (xs ys : Bytes) : Finset Nat :=
  (Finset.range (8 * xs.length)).filter fun i => xs.bit i ≠ ys.bit i

/-- The difference of the bits, place by place. -/
def difference (xs ys : Bytes) : List Bool :=
  (List.range (8 * xs.length)).map fun i => xs.bit i ^^ ys.bit i

variable {xs ys : Bytes}

lemma difference_eq_zipWith (h : xs.length = ys.length) :
    difference xs ys = List.zipWith Bool.xor xs.bits ys.bits := by
  rw [bits, bits, ← h, List.zipWith_map, List.zipWith_self]
  rfl

lemma length_difference : (difference xs ys).length = 8 * xs.length := by
  rw [difference, List.length_map, List.length_range]

lemma getElem_difference {i : Nat} (hi : i < (difference xs ys).length) :
    (difference xs ys)[i] = (xs.bit i ^^ ys.bit i) := by
  simp [difference]

lemma count_difference : (difference xs ys).count true = (differing xs ys).card := by
  have hcard : (differing xs ys).card =
      ((List.range (8 * xs.length)).filter fun i => xs.bit i ≠ ys.bit i).length := rfl
  rw [hcard, ← List.countP_eq_length_filter, difference, List.count, List.countP_map]
  have hplace : ∀ x y : Bool, ((x ^^ y) == true) = decide (x ≠ y) := by decide
  exact List.countP_congr fun i _ => iff_of_eq (congrArg (· = true) (hplace (xs.bit i) (ys.bit i)))

lemma true_mem_difference (hlength : xs.length = ys.length) (hne : xs ≠ ys) :
    true ∈ difference xs ys := by
  by_contra hmem
  refine hne (eq_of_bit_eq hlength fun i hi => ?_)
  have hi' : i < (difference xs ys).length := by rwa [length_difference]
  have hplace : (difference xs ys)[i] ≠ true := by
    intro h
    exact hmem (h ▸ List.getElem_mem hi')
  rw [getElem_difference] at hplace
  simpa using hplace

end Bytes

namespace Crc

/-! ### Parity -/

/-- Is an odd number of the `k` lowest bits set? -/
def odd (n : Nat) : Nat → Bool
  | 0 => false
  | k + 1 => odd n k ^^ n.testBit k

lemma odd_xor (m n k : Nat) : odd (m ^^^ n) k = (odd m k ^^ odd n k) := by
  have hswap : ∀ a b c d : Bool, ((a ^^ b) ^^ (c ^^ d)) = ((a ^^ c) ^^ (b ^^ d)) := by decide
  induction k with
  | zero => rfl
  | succ k ih => rw [odd, odd, odd, ih, Nat.testBit_xor, hswap]

/-- Moving up loses the bit that goes out. -/
lemma odd_shiftLeft (crc : UInt16) {k : Nat} (hk : k < 16) :
    odd (crc <<< 1).toNat (k + 1) = odd crc.toNat k := by
  have hup : (crc <<< 1).toNat = crc.toNat <<< 1 % 2 ^ 16 := by simp
  induction k with
  | zero => simp [odd, hup]
  | succ k ih =>
    have hmoved : (crc <<< 1).toNat.testBit (k + 1) = crc.toNat.testBit k := by
      rw [hup, Nat.testBit_mod_two_pow, Nat.testBit_shiftLeft]
      simp [hk]
    rw [odd, ih (by omega), hmoved, odd]

/-- What a step takes off makes up for the bit that goes out. -/
lemma odd_shift (crc : UInt16) : odd (shift crc).toNat 16 = odd crc.toNat 16 := by
  have hdivisor : ∀ out, odd (divisor out).toNat 16 = out := by decide
  rw [shift_eq, UInt16.toNat_xor, odd_xor, hdivisor, odd_shiftLeft _ (by decide)]
  rfl

lemma odd_updateBits (crc : UInt16) (bits : List Bool) :
    odd (updateBits crc bits).toNat 16 = (odd crc.toNat 16 ^^ (bits.count true).bodd) := by
  have hbit : ∀ b : Bool, odd (if b then top else 0 : UInt16).toNat 16 = b := by decide
  induction bits generalizing crc with
  | nil => exact (Bool.xor_false _).symm
  | cons b bits ih =>
    have hcount : ((b :: bits).count true).bodd = (b ^^ (bits.count true).bodd) := by
      cases b <;> simp
    show odd (updateBits (shiftIn crc b) bits).toNat 16 = _
    rw [ih, shiftIn, odd_shift, UInt16.toNat_xor, odd_xor, hbit, hcount, Bool.xor_assoc]

/-! ### One bit coming back -/

/-- Do the next `n` steps stay away from this register? -/
def avoids (goal : UInt16) : Nat → UInt16 → Bool
  | 0, _ => true
  | n + 1, crc => shift crc != goal && avoids goal n (shift crc)

lemma iterate_shift_ne_of_avoids {goal crc : UInt16} {n k : Nat} (h : avoids goal n crc = true)
    (hpos : 0 < k) (hk : k ≤ n) : shift^[k] crc ≠ goal := by
  induction n generalizing crc k with
  | zero => omega
  | succ n ih =>
    rw [avoids, Bool.and_eq_true, bne_iff_ne] at h
    obtain ⟨k, rfl⟩ : ∃ j, k = j + 1 := ⟨k - 1, by omega⟩
    rw [Function.iterate_succ_apply]
    rcases Nat.eq_zero_or_pos k with rfl | hpos
    · exact h.1
    · exact ih h.2 hpos (by omega)

/-- No frame is long enough for one bit to come back. -/
lemma iterate_shift_top_ne {k : Nat} (hpos : 0 < k) (hk : k < 8 * Frame.maxDecoded) :
    shift^[k] top ≠ top := by
  have havoids : avoids top (8 * Frame.maxDecoded) top = true := by decide +kernel
  exact iterate_shift_ne_of_avoids havoids hpos (by omega)

/-! ### Bits that leave nothing in the register -/

lemma iterate_shift_eq_zero {n : Nat} {crc : UInt16} : shift^[n] crc = 0 ↔ crc = 0 := by
  have hzero : shift^[n] 0 = 0 := Function.iterate_fixed rfl n
  constructor
  · intro h
    exact shift_injective.iterate n (h.trans hzero.symm)
  · rintro rfl
    exact hzero

variable {bits : List Bool}

/-- Two bits do not cancel each other within a frame. -/
lemma count_ne_two (hlength : bits.length ≤ 8 * Frame.maxDecoded) (h : updateBits 0 bits = 0) :
    bits.count true ≠ 2 := by
  intro hcount
  obtain ⟨before, rest, rfl, hbefore⟩ := List.eq_append_cons_of_mem
    (List.count_pos_iff.mp (hcount ▸ Nat.two_pos) : true ∈ bits)
  rw [List.count_append, List.count_eq_zero_of_not_mem hbefore, List.count_cons_self] at hcount
  have hrest : rest.count true = 1 := by omega
  obtain ⟨between, after, rfl, hbetween⟩ := List.eq_append_cons_of_mem
    (List.count_pos_iff.mp (hrest ▸ Nat.one_pos) : true ∈ rest)
  rw [List.count_append, List.count_eq_zero_of_not_mem hbetween, List.count_cons_self] at hrest
  have hafter : true ∉ after := List.count_eq_zero.mp (by omega)
  have hin (crc : UInt16) (bs : List Bool) :
      updateBits crc (true :: bs) = updateBits (shift (crc ^^^ top)) bs := rfl
  -- the first bit has moved on to the place of the second one when that comes in
  have hmet : shift^[between.length + 1] top = top := by
    rw [updateBits_append, updateBits_of_notMem _ hbefore, iterate_shift_eq_zero.mpr rfl, hin,
      updateBits_append, updateBits_of_notMem _ hbetween, hin, updateBits_of_notMem _ hafter,
      iterate_shift_eq_zero, UInt16.zero_xor] at h
    rw [Function.iterate_succ_apply]
    exact UInt16.xor_eq_zero_iff.mp (eq_zero_of_shift h)
  simp only [List.length_append, List.length_cons] at hlength
  exact iterate_shift_top_ne (Nat.succ_pos _) (by omega) hmet

/-- Bits in an even number that are not two are none or at least four. -/
lemma four_le_count (hlength : bits.length ≤ 8 * Frame.maxDecoded) (h : updateBits 0 bits = 0)
    (hmem : true ∈ bits) : 4 ≤ bits.count true := by
  have hodd : (bits.count true).bodd = false := by
    have hparity := odd_updateBits 0 bits
    have hnone : odd (0 : UInt16).toNat 16 = false := by decide
    rw [h, hnone, Bool.false_xor] at hparity
    exact hparity.symm
  have hpos : 0 < bits.count true := List.count_pos_iff.mpr hmem
  have htwo := count_ne_two hlength h
  have hmod := Nat.mod_two_of_bodd (bits.count true)
  rw [hodd] at hmod
  have heven : bits.count true % 2 = 0 := hmod
  omega

/-- A word's worth of bits is read off the register. -/
lemma notMem_of_length_le (hlength : bits.length ≤ 16) (h : updateBits 0 bits = 0) :
    true ∉ bits := by
  rw [updateBits_eq 0 hlength, UInt16.zero_xor, iterate_shift_eq_zero] at h
  intro hmem
  obtain ⟨i, hi, hset⟩ := List.getElem_of_mem hmem
  have hplace := testBit_word bits (show 15 - i < 16 by omega)
  have hback : 15 - (15 - i) = i := by omega
  rw [h, hback, List.getD_eq_getElem _ _ hi, hset] at hplace
  exact Bool.false_ne_true ((Nat.zero_testBit _).symm.trans hplace)

/-- Bits within sixteen places leave something in the register. -/
lemma notMem_of_burst (start : Nat) (h : updateBits 0 bits = 0)
    (hwithin : ∀ i (hi : i < bits.length), bits[i] = true → start ≤ i ∧ i < start + 16) :
    true ∉ bits := by
  have hsplit : bits = bits.take start ++ ((bits.drop start).take 16 ++ bits.drop (start + 16)) := by
    rw [← List.drop_drop, List.take_append_drop, List.take_append_drop]
  have hbefore : true ∉ bits.take start := by
    intro hmem
    obtain ⟨i, hi, hset⟩ := List.getElem_of_mem hmem
    rw [List.length_take] at hi
    rw [List.getElem_take] at hset
    have := hwithin i (by omega) hset
    omega
  have hafter : true ∉ bits.drop (start + 16) := by
    intro hmem
    obtain ⟨i, hi, hset⟩ := List.getElem_of_mem hmem
    rw [List.length_drop] at hi
    rw [List.getElem_drop] at hset
    have := hwithin (start + 16 + i) (by omega) hset
    omega
  -- zeros after the burst never make a register zero, so it was zero right after the burst
  have hburst : updateBits 0 ((bits.drop start).take 16) = 0 := by
    rw [hsplit, updateBits_append, updateBits_append, updateBits_of_notMem _ hbefore,
      iterate_shift_eq_zero.mpr rfl, updateBits_of_notMem _ hafter, iterate_shift_eq_zero] at h
    exact h
  have hinside := notMem_of_length_le (List.length_take_le _ _) hburst
  rw [hsplit, List.mem_append, List.mem_append]
  rintro (hmem | hmem | hmem)
  · exact hbefore hmem
  · exact hinside hmem
  · exact hafter hmem

/-! ### Intact strings -/

lemma updateBits_difference {xs ys : Bytes} (hlength : xs.length = ys.length)
    (hxs : intact xs = true) (hys : intact ys = true) :
    updateBits 0 (Bytes.difference xs ys) = 0 := by
  have hchecksum {zs : Bytes} (h : intact zs = true) : updateBits 0 zs.bits = 0 := by
    rw [intact, Bool.and_eq_true, beq_iff_eq] at h
    rw [← update_eq]
    exact h.2
  have hbits : xs.bits.length = ys.bits.length := by
    rw [Bytes.length_bits, Bytes.length_bits, hlength]
  rw [Bytes.difference_eq_zipWith hlength, ← UInt16.xor_self (a := 0), updateBits_zipWith _ _ hbits,
    hchecksum hxs, hchecksum hys]

/-- Two intact strings of one length that fit into a frame differ in at least four bits, and not only
within sixteen places. -/
theorem differing_of_intact {xs ys : Bytes} (hlength : xs.length = ys.length)
    (hfits : xs.length ≤ Frame.maxDecoded) (hxs : intact xs = true) (hys : intact ys = true)
    (hne : xs ≠ ys) :
    4 ≤ (Bytes.differing xs ys).card ∧
      ∀ start, ¬ Bytes.differing xs ys ⊆ Finset.Ico start (start + 16) := by
  have hzero := updateBits_difference hlength hxs hys
  have hmem := Bytes.true_mem_difference hlength hne
  constructor
  · rw [← Bytes.count_difference]
    refine four_le_count ?_ hzero hmem
    rw [Bytes.length_difference]
    omega
  · intro start hburst
    refine notMem_of_burst start hzero (fun i hi hset => ?_) hmem
    rw [Bytes.getElem_difference] at hset
    rw [Bytes.length_difference] at hi
    have hdiffer : i ∈ Bytes.differing xs ys := by
      rw [Bytes.differing, Finset.mem_filter, Finset.mem_range]
      exact ⟨hi, by simpa using hset⟩
    exact Finset.mem_Ico.mp (hburst hdiffer)

/-- The divisor itself is as close to nothing as can be: four bits within seventeen places. -/
theorem differing_of_intact_divisor :
    intact [0, 0, 0] = true ∧ intact [0x01, 0x10, 0x21] = true ∧
      Bytes.differing [0, 0, 0] [0x01, 0x10, 0x21] = {7, 11, 18, 23} ∧
      4 ≤ (Bytes.differing [0, 0, 0] [0x01, 0x10, 0x21]).card ∧
      ∀ start, ¬ Bytes.differing [0, 0, 0] [0x01, 0x10, 0x21] ⊆ Finset.Ico start (start + 16) :=
  ⟨by decide, by decide, by decide,
    differing_of_intact (by decide) (by decide) (by decide) (by decide) (by decide)⟩

end Crc

end BoardLink
