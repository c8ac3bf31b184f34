import Mathlib.Data.List.Basic
import Mathlib.Logic.Function.Basic
import Mathlib.Tactic.Common
import BoardLink.Crc

/-!
# What a checksum tells

Every string that ends with its own checksum has the checksum zero, and no other string that differs
from it in one byte has.
-/

namespace BoardLink.Crc

lemma update_append (crc : UInt16) (xs ys : Bytes) :
    update crc (xs ++ ys) = update (update crc xs) ys := by
  simp [update, List.foldl_append]

/-- The register's own high byte takes that byte off and moves the low one up. -/
lemma fold_high (crc : UInt16) : fold crc (crc >>> 8).toUInt8 = crc <<< 8 := by
  simp [fold]

/-- The low byte is the high one after it has moved up. -/
private lemma high_shiftLeft (crc : UInt16) : ((crc <<< 8) >>> 8).toUInt8 = crc.toUInt8 := by
  apply UInt8.toNat_inj.mp
  simp [Nat.shiftLeft_eq, Nat.shiftRight_eq_div_pow]
  omega

/-- The two bytes of the register leave nothing in it. -/
lemma update_ofWord (crc : UInt16) : update crc (Bytes.ofWord crc) = 0 := by
  have hgone : (crc <<< 8) <<< 8 = 0 := by
    apply UInt16.toNat_inj.mp
    simp [Nat.shiftLeft_eq]
    omega
  calc update crc (Bytes.ofWord crc) = fold (crc <<< 8) crc.toUInt8 := by
        simp [update, Bytes.ofWord, fold_high]
    _ = (crc <<< 8) <<< 8 := by rw [← high_shiftLeft, fold_high]
    _ = 0 := hgone

lemma checksum_withTrailer (data : Bytes) : checksum (withTrailer data) = 0 := by
  rw [withTrailer, checksum, update_append]
  exact update_ofWord _

lemma length_withTrailer (data : Bytes) : (withTrailer data).length = data.length + size := by
  simp [withTrailer, Bytes.ofWord, size]

lemma intact_withTrailer (data : Bytes) : intact (withTrailer data) = true := by
  simp [intact, checksum_withTrailer, length_withTrailer]

lemma withTrailer_ne_nil (data : Bytes) : withTrailer data ≠ [] := by
  intro h
  have hlength := length_withTrailer data
  rw [h, List.length_nil] at hlength
  cases hlength

/-! ### Strings that differ in one byte -/

/-- Four places to the right twice are all eight, so the second time undoes the first. -/
lemma xor_shiftRight_involutive : Function.Involutive fun x : UInt8 => x ^^^ (x >>> 4) := by
  intro x
  have hgone : (x >>> 4) >>> 4 = 0 := by
    apply UInt8.toNat_inj.mp
    have hx := x.toNat_lt
    simp [Nat.shiftRight_eq_div_pow]
    omega
  simp only [UInt8.shiftRight_xor, hgone, UInt8.xor_zero, UInt8.xor_assoc, UInt8.xor_self]

/-- Five places to the left twice are more than eight. -/
lemma xor_shiftLeft_involutive : Function.Involutive fun x : UInt8 => x ^^^ (x <<< 5) := by
  intro x
  have hgone : (x <<< 5) <<< 5 = 0 := by
    apply UInt8.toNat_inj.mp
    simp [Nat.shiftLeft_eq]
    omega
  simp only [UInt8.shiftLeft_xor, hgone, UInt8.xor_zero, UInt8.xor_assoc, UInt8.xor_self]

/-- What of the register's high byte and a byte shifted in gets into the low byte. -/
def mix (x : UInt8) : UInt8 :=
  let x := x ^^^ (x >>> 4)
  x ^^^ (x <<< 5)

lemma mix_injective : Function.Injective mix :=
  xor_shiftLeft_involutive.injective.comp xor_shiftRight_involutive.injective

lemma toUInt8_fold (crc : UInt16) (byte : UInt8) :
    (fold crc byte).toUInt8 = mix ((crc >>> 8).toUInt8 ^^^ byte) := by
  have hgone (x : UInt16) : (x <<< 8).toUInt8 = 0 := by
    apply UInt8.toNat_inj.mp
    simp [Nat.shiftLeft_eq]
  have hgone' (x : UInt16) : (x <<< 12).toUInt8 = 0 := by
    apply UInt8.toNat_inj.mp
    simp [Nat.shiftLeft_eq]
    omega
  have hlow (x : UInt8) : (x.toUInt16 <<< 5).toUInt8 = x <<< 5 := by
    apply UInt8.toNat_inj.mp
    simp [Nat.shiftLeft_eq]
  simp only [fold, mix, UInt16.toUInt8_xor, hgone, hgone', hlow, UInt8.toUInt8_toUInt16,
    UInt8.zero_xor]
  exact UInt8.xor_comm _ _

/-- Registers become equal only if what goes into the low byte is equal. -/
lemma xor_eq_of_fold_eq {crc crc' : UInt16} {byte byte' : UInt8}
    (h : fold crc byte = fold crc' byte') :
    (crc >>> 8).toUInt8 ^^^ byte = (crc' >>> 8).toUInt8 ^^^ byte' := by
  have hlow := congrArg UInt16.toUInt8 h
  rw [toUInt8_fold, toUInt8_fold] at hlow
  exact mix_injective hlow

lemma fold_injective (crc : UInt16) : Function.Injective (fold crc) := by
  intro byte byte' h
  exact (UInt8.xor_right_inj _).mp (xor_eq_of_fold_eq h)

lemma fold_left_injective (byte : UInt8) : Function.Injective fun crc => fold crc byte := by
  intro crc crc' h
  have hxor := xor_eq_of_fold_eq h
  have hhigh : (crc >>> 8).toUInt8 = (crc' >>> 8).toUInt8 := (UInt8.xor_left_inj _).mp hxor
  have hlow : crc <<< 8 = crc' <<< 8 := by
    simpa [fold, hxor] using h
  have hhigh : crc.toNat / 256 % 256 = crc'.toNat / 256 % 256 := by
    simpa [Nat.shiftRight_eq_div_pow] using congrArg UInt8.toNat hhigh
  have hlow : crc.toNat * 256 % 65536 = crc'.toNat * 256 % 65536 := by
    simpa [Nat.shiftLeft_eq] using congrArg UInt16.toNat hlow
  have hlt := crc.toNat_lt
  have hlt' := crc'.toNat_lt
  apply UInt16.toNat_inj.mp
  omega

lemma update_injective (data : Bytes) : Function.Injective fun crc => update crc data := by
  induction data with
  | nil => exact Function.injective_id
  | cons byte data ih => exact ih.comp (fold_left_injective byte)

/-- No byte can be changed alone without changing the checksum. -/
lemma checksum_ne_of_ne {before after : Bytes} {x y : UInt8} (h : x ≠ y) :
    checksum (before ++ x :: after) ≠ checksum (before ++ y :: after) := by
  intro heq
  rw [checksum, checksum, update_append, update_append] at heq
  exact h (fold_injective _ (update_injective after heq))

/-! ### Strings that end with their checksum -/

lemma eq_high_of_toUInt8_fold {crc : UInt16} {byte : UInt8} (h : (fold crc byte).toUInt8 = 0) :
    byte = (crc >>> 8).toUInt8 := by
  have hzero : mix 0 = 0 := rfl
  rw [toUInt8_fold, ← hzero] at h
  exact (UInt8.xor_eq_zero_iff.mp (mix_injective h)).symm

/-- Only the two bytes of the register leave nothing in it. -/
lemma update_pair_eq_zero {crc : UInt16} {x y : UInt8} :
    update crc [x, y] = 0 ↔ [x, y] = Bytes.ofWord crc := by
  constructor
  · intro h
    have hsecond : fold (fold crc x) y = 0 := h
    have hy := eq_high_of_toUInt8_fold (congrArg UInt16.toUInt8 hsecond)
    have hmoved : fold crc x <<< 8 = 0 := by rw [← fold_high, ← hy, hsecond]
    have hlow : (fold crc x).toUInt8 = 0 := by
      apply UInt8.toNat_inj.mp
      have hnat := congrArg UInt16.toNat hmoved
      simp [Nat.shiftLeft_eq] at hnat ⊢
      omega
    have hx := eq_high_of_toUInt8_fold hlow
    rw [hx, fold_high, high_shiftLeft] at hy
    rw [hx, hy, Bytes.ofWord]
  · intro h
    rw [h]
    exact update_ofWord crc

/-- Whether a string is intact is seen from its last two bytes. -/
lemma intact_iff {frame : Bytes} : intact frame = true ↔ size ≤ frame.length ∧
    frame.drop (frame.length - 2) = Bytes.ofWord (checksum (frame.take (frame.length - 2))) := by
  rw [intact, Bool.and_eq_true, decide_eq_true_iff, beq_iff_eq, and_congr_right_iff]
  intro hlength
  obtain ⟨x, y, hlast⟩ : ∃ x y, frame.drop (frame.length - 2) = [x, y] := by
    rw [← List.length_eq_two, List.length_drop]
    exact Nat.sub_sub_self hlength
  rw [hlast, ← update_pair_eq_zero, ← hlast, checksum, checksum, ← update_append,
    List.take_append_drop]

end BoardLink.Crc
