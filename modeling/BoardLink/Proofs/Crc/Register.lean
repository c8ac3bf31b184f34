import Mathlib.Data.Nat.Bitwise
import Mathlib.Logic.Function.Iterate
import Mathlib.Tactic.Common
import BoardLink.Proofs.Bytes
import BoardLink.Proofs.Crc

/-!
# The checksum bit by bit

The bits of a byte string enter the register one after the other, the highest bit of each byte first.
A step of the register is linear in exclusive or, so the registers after two strings of one length
differ by the register after their difference.
-/

namespace BoardLink

namespace Crc

/-! ### Steps of the register -/

/-- The top bit of the register, where bits come in and go out. -/
def top : UInt16 := 0x8000

private lemma and_top_eq_zero (crc : UInt16) :
    crc &&& top = 0 ↔ crc.toNat.testBit 15 = false := by
  rw [← UInt16.toNat_inj, UInt16.toNat_and]
  show crc.toNat &&& 2 ^ 15 = 0 ↔ _
  rw [Nat.and_two_pow]
  cases crc.toNat.testBit 15 with
  | false => simp
  | true => simp

/-- What a step takes off the register. -/
def divisor (out : Bool) : UInt16 := if out then 0x1021 else 0

lemma shift_eq (crc : UInt16) : shift crc = (crc <<< 1) ^^^ divisor (crc.toNat.testBit 15) := by
  have htop := and_top_eq_zero crc
  rw [shift, ← top]
  cases hbit : crc.toNat.testBit 15 with
  | false =>
    rw [if_pos (htop.mpr hbit), divisor, if_neg Bool.false_ne_true, UInt16.xor_zero]
  | true =>
    rw [if_neg (by rw [htop, hbit]; exact Bool.noConfusion), divisor, if_pos rfl]

lemma shift_xor (a b : UInt16) : shift (a ^^^ b) = shift a ^^^ shift b := by
  have hdivisor : ∀ x y, divisor (x ^^ y) = divisor x ^^^ divisor y := by decide
  rw [shift_eq, shift_eq, shift_eq, UInt16.toNat_xor, Nat.testBit_xor, hdivisor,
    UInt16.shiftLeft_xor]
  ac_rfl

lemma iterate_shift_xor (n : Nat) (a b : UInt16) :
    shift^[n] (a ^^^ b) = shift^[n] a ^^^ shift^[n] b := by
  induction n generalizing a b with
  | zero => rfl
  | succ n ih =>
    rw [Function.iterate_succ_apply, Function.iterate_succ_apply, Function.iterate_succ_apply,
      shift_xor, ih]

/-- A register whose top bit is free only moves up. -/
lemma shift_of_lt {crc : UInt16} (h : crc.toNat < 2 ^ 15) : shift crc = crc <<< 1 := by
  rw [shift_eq, Nat.testBit_lt_two_pow h]
  exact UInt16.xor_zero

/-- Only the divisor has an odd number in it, so nothing else can be taken off unseen. -/
lemma eq_zero_of_shift {crc : UInt16} (h : shift crc = 0) : crc = 0 := by
  have hlt := crc.toNat_lt
  apply UInt16.toNat_inj.mp
  by_cases htop : crc.toNat < 2 ^ 15
  · rw [shift_of_lt htop] at h
    have hmoved : crc.toNat * 2 % 65536 = 0 := by
      simpa [Nat.shiftLeft_eq] using congrArg UInt16.toNat h
    show crc.toNat = 0
    omega
  · have hset := Nat.testBit_of_two_pow_le_and_two_pow_add_one_gt (Nat.not_lt.mp htop) hlt
    rw [shift_eq, hset, UInt16.xor_eq_zero_iff] at h
    have hmoved : crc.toNat * 2 % 65536 = 0x1021 := by
      simpa [Nat.shiftLeft_eq, divisor] using congrArg UInt16.toNat h
    omega

lemma shift_injective : Function.Injective shift := by
  intro a b h
  have hzero : shift (a ^^^ b) = 0 := by rw [shift_xor, h, UInt16.xor_self]
  exact UInt16.xor_eq_zero_iff.mp (eq_zero_of_shift hzero)

/-! ### Bits shifted in -/

/-- One bit shifted in. -/
def shiftIn (crc : UInt16) (b : Bool) : UInt16 := shift (crc ^^^ if b then top else 0)

/-- The register after these bits. -/
def updateBits (crc : UInt16) (bits : List Bool) : UInt16 := bits.foldl shiftIn crc

lemma updateBits_append (crc : UInt16) (xs ys : List Bool) :
    updateBits crc (xs ++ ys) = updateBits (updateBits crc xs) ys :=
  List.foldl_append

/-- The register after a difference is the difference of the registers. -/
lemma updateBits_zipWith (a b : UInt16) {xs ys : List Bool} (h : xs.length = ys.length) :
    updateBits (a ^^^ b) (List.zipWith Bool.xor xs ys) = updateBits a xs ^^^ updateBits b ys := by
  have htop : ∀ x y : Bool, (if x ^^ y then top else 0) =
      (if x then top else 0) ^^^ (if y then top else 0) := by decide
  induction xs generalizing a b ys with
  | nil =>
    cases ys with
    | nil => rfl
    | cons y ys => cases h
  | cons x xs ih =>
    cases ys with
    | nil => cases h
    | cons y ys =>
      have hstep : shiftIn (a ^^^ b) (x ^^ y) = shiftIn a x ^^^ shiftIn b y := by
        rw [shiftIn, shiftIn, shiftIn, ← shift_xor, htop]
        ac_rfl
      show updateBits (shiftIn (a ^^^ b) (x ^^ y)) _ = _
      rw [hstep]
      exact ih _ _ (Nat.succ.inj h)

/-- Bits that are not set only move the register on. -/
lemma updateBits_of_notMem (crc : UInt16) {bits : List Bool} (h : true ∉ bits) :
    updateBits crc bits = shift^[bits.length] crc := by
  induction bits generalizing crc with
  | nil => rfl
  | cons b bits ih =>
    obtain ⟨hb, hbits⟩ := List.ne_and_not_mem_of_not_mem_cons h
    have hstep : shiftIn crc b = shift crc := by
      rw [Bool.eq_false_of_not_eq_true (Ne.symm hb)]
      exact congrArg shift UInt16.xor_zero
    show updateBits (shiftIn crc b) bits = _
    rw [hstep, ih _ hbits, List.length_cons, Function.iterate_succ_apply]

/-! ### Words shifted in -/

/-- Up to sixteen bits as the register holds them, the first one at the top. -/
def word : List Bool → UInt16
  | [] => 0
  | b :: bits => (if b then top else 0) ^^^ (word bits >>> 1)

/-- The places that a short list does not fill are free. -/
lemma testBit_word (bits : List Bool) {i : Nat} (hi : i < 16) :
    (word bits).toNat.testBit i = bits.getD (15 - i) false := by
  induction bits generalizing i with
  | nil =>
    rw [word, List.getD_nil]
    exact Nat.zero_testBit i
  | cons b bits ih =>
    have htop : (if b then top else 0 : UInt16).toNat.testBit i = (decide (i = 15) && b) := by
      revert b i
      decide
    have hmoved : (word bits >>> 1).toNat.testBit i = (word bits).toNat.testBit (i + 1) := by
      rw [UInt16.toNat_shiftRight, Nat.testBit_shiftRight, Nat.add_comm]
      rfl
    rw [word, UInt16.toNat_xor, Nat.testBit_xor, htop, hmoved]
    by_cases hlast : i = 15
    · have hnone : (word bits).toNat.testBit (i + 1) = false :=
        Nat.testBit_lt_two_pow (hlast ▸ (word bits).toNat_lt)
      simp [hlast, hlast ▸ hnone]
    · obtain ⟨j, hj⟩ : ∃ j, 15 - i = j + 1 := ⟨14 - i, by omega⟩
      have hj' : 15 - (i + 1) = j := by omega
      rw [ih (by omega), hj, hj', List.getD_cons_succ, decide_eq_false hlast, Bool.false_and,
        Bool.false_xor]

/-- A word that leaves the lowest place free comes back when it is moved down and then up. -/
private lemma shift_shiftRight {w : UInt16} (h : w.toNat.testBit 0 = false) :
    shift (w >>> 1) = w := by
  have hlt := w.toNat_lt
  have hdown : (w >>> 1).toNat = w.toNat / 2 := by simp [Nat.shiftRight_eq_div_pow]
  rw [Nat.testBit_zero, decide_eq_false_iff_not] at h
  rw [shift_of_lt (by omega)]
  apply UInt16.toNat_inj.mp
  have hup : ((w >>> 1) <<< 1).toNat = (w >>> 1).toNat * 2 % 65536 := by
    simp [Nat.shiftLeft_eq]
  omega

/-- Shifting bits in is putting them into the register at once and moving it on as often. -/
lemma updateBits_eq (crc : UInt16) {bits : List Bool} (h : bits.length ≤ 16) :
    updateBits crc bits = shift^[bits.length] (crc ^^^ word bits) := by
  induction bits generalizing crc with
  | nil => exact UInt16.xor_zero.symm
  | cons b bits ih =>
    rw [List.length_cons] at h
    have hfree : (word bits).toNat.testBit 0 = false := by
      rw [testBit_word bits (by decide), List.getD_eq_default _ _ (by omega)]
    have hstep : shift (crc ^^^ word (b :: bits)) = shiftIn crc b ^^^ word bits := by
      rw [word, ← UInt16.xor_assoc, shift_xor, shift_shiftRight hfree, shiftIn]
    show updateBits (shiftIn crc b) bits = _
    rw [ih _ (by omega), List.length_cons, Function.iterate_succ_apply, hstep]

/-! ### Bytes shifted in -/

/-- A word is its low byte and its high byte. -/
private lemma eq_low_xor_high (w : UInt16) :
    w = w.toUInt8.toUInt16 ^^^ ((w >>> 8).toUInt8.toUInt16 <<< 8) := by
  have hlt := w.toNat_lt
  apply UInt16.toNat_inj.mp
  apply Nat.eq_of_testBit_eq
  intro i
  have hlow : w.toUInt8.toUInt16.toNat = w.toNat % 2 ^ 8 := by simp
  have hhigh : ((w >>> 8).toUInt8.toUInt16 <<< 8).toNat = (w.toNat >>> 8) <<< 8 := by
    simp [Nat.shiftLeft_eq, Nat.shiftRight_eq_div_pow]
    omega
  rw [UInt16.toNat_xor, Nat.testBit_xor, hlow, hhigh, Nat.testBit_mod_two_pow,
    Nat.testBit_shiftLeft, Nat.testBit_shiftRight]
  by_cases hi : i < 8
  · simp [hi, Nat.not_le.mpr hi]
  · simp [hi, Nat.not_lt.mp hi, Nat.add_sub_cancel' (Nat.not_lt.mp hi)]

/-- Eight steps take the low byte of the register to the top and the top byte out. -/
lemma foldBitwise_eq (crc : UInt16) (byte : UInt8) : foldBitwise crc byte = fold crc byte := by
  have hlow : ∀ x : UInt8, shift^[8] x.toUInt16 = x.toUInt16 <<< 8 :=
    forall_byte (by decide +kernel)
  have hhigh : ∀ x : UInt8, shift^[8] (x.toUInt16 <<< 8) = fold 0 x :=
    forall_byte (by decide +kernel)
  have hmoved : crc.toUInt8.toUInt16 <<< 8 = crc <<< 8 := by
    apply UInt16.toNat_inj.mp
    simp [Nat.shiftLeft_eq]
    omega
  have hzero : fold crc byte = (crc <<< 8) ^^^ fold 0 ((crc >>> 8).toUInt8 ^^^ byte) := by
    simp [fold, UInt16.xor_assoc]
  have hsplit : crc ^^^ (byte.toUInt16 <<< 8) =
      crc.toUInt8.toUInt16 ^^^ (((crc >>> 8).toUInt8 ^^^ byte).toUInt16 <<< 8) := by
    rw [UInt8.toUInt16_xor, UInt16.shiftLeft_xor, ← UInt16.xor_assoc, ← eq_low_xor_high]
  calc foldBitwise crc byte = shift^[8] (crc ^^^ (byte.toUInt16 <<< 8)) := rfl
    _ = (crc.toUInt8.toUInt16 <<< 8) ^^^ fold 0 ((crc >>> 8).toUInt8 ^^^ byte) := by
      rw [hsplit, iterate_shift_xor, hlow, hhigh]
    _ = fold crc byte := by rw [hmoved, hzero]

/-- A byte string goes into the register bit by bit. -/
lemma update_eq (crc : UInt16) (data : Bytes) : update crc data = updateBits crc data.bits := by
  have hword : ∀ byte : UInt8, word (Bytes.bits [byte]) = byte.toUInt16 <<< 8 :=
    forall_byte (by decide +kernel)
  induction data generalizing crc with
  | nil => rfl
  | cons byte data ih =>
    have hshort : (Bytes.bits [byte]).length ≤ 16 := by
      rw [Bytes.length_bits, List.length_singleton]
      decide
    have hbyte : updateBits crc (Bytes.bits [byte]) = fold crc byte := by
      rw [updateBits_eq crc hshort, hword, ← foldBitwise_eq]
      rfl
    show update (fold crc byte) data = _
    rw [Bytes.bits_cons, updateBits_append, hbyte, ih]

end Crc

end BoardLink
