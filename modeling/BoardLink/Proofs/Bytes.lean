import Mathlib.Data.List.GetD
import Mathlib.Tactic.Common
import BoardLink.Bytes

/-!
# Bits of byte strings

A byte string as a string of bits: the bytes in order, the highest bit of each byte first.
-/

namespace BoardLink

/-- What holds of the bytes of all numbers below 256 holds of all bytes. -/
lemma forall_byte {p : UInt8 → Prop} (h : ∀ n : Fin 256, p (.ofNat n)) (b : UInt8) : p b := by
  rw [← UInt8.ofNat_toNat (x := b)]
  exact h ⟨b.toNat, b.toNat_lt⟩

namespace Bytes

/-- The bit at place `i`, the highest bit of the first byte at place zero. -/
def bit (bs : Bytes) (i : Nat) : Bool := (bs.getD (i / 8) 0).toNat.testBit (7 - i % 8)

/-- All bits in order. -/
def bits (bs : Bytes) : List Bool := (List.range (8 * bs.length)).map bs.bit

lemma length_bits (bs : Bytes) : bs.bits.length = 8 * bs.length := by
  rw [bits, List.length_map, List.length_range]

lemma bits_cons (b : UInt8) (bs : Bytes) : bits (b :: bs) = bits [b] ++ bits bs := by
  have hfirst : ∀ i ∈ List.range 8, bit (b :: bs) i = bit [b] i := by
    intro i hi
    have hdiv : i / 8 = 0 := Nat.div_eq_of_lt (List.mem_range.mp hi)
    rw [bit, bit, hdiv]
    rfl
  have hrest : ∀ i ∈ List.range (8 * bs.length), bit (b :: bs) (8 + i) = bit bs i := by
    intro i _
    have hdiv : (8 + i) / 8 = i / 8 + 1 := by omega
    have hmod : (8 + i) % 8 = i % 8 := by omega
    rw [bit, hdiv, hmod, List.getD_cons_succ, bit]
  have hlength : 8 * (b :: bs).length = 8 + 8 * bs.length := by
    rw [List.length_cons]
    omega
  have hmoved : (List.range (8 * bs.length)).map (bit (b :: bs) ∘ (8 + ·)) = bits bs :=
    List.map_congr_left hrest
  rw [bits, hlength, List.range_add, List.map_append, List.map_map, hmoved,
    List.map_congr_left hfirst]
  rfl

/-- The bits tell the byte string. -/
lemma eq_of_bit_eq {xs ys : Bytes} (hlength : xs.length = ys.length)
    (hbit : ∀ i < 8 * xs.length, xs.bit i = ys.bit i) : xs = ys := by
  apply List.ext_getElem hlength
  intro k hk hk'
  apply UInt8.toNat_inj.mp
  apply Nat.eq_of_testBit_eq
  intro j
  by_cases hj : j < 8
  · have hdiv : (8 * k + (7 - j)) / 8 = k := by omega
    have hmod : 7 - (8 * k + (7 - j)) % 8 = j := by omega
    have hplace := hbit (8 * k + (7 - j)) (by omega)
    rw [bit, bit, hdiv, hmod, List.getD_eq_getElem _ _ hk, List.getD_eq_getElem _ _ hk'] at hplace
    exact hplace
  · have hfree (b : UInt8) : b.toNat.testBit j = false :=
      Nat.testBit_lt_two_pow (Nat.lt_of_lt_of_le b.toNat_lt
        (Nat.pow_le_pow_right Nat.two_pos (Nat.not_lt.mp hj)))
    rw [hfree, hfree]

/-! ### Words -/

lemma toNat_toWord (high low : UInt8) : (toWord high low).toNat = high.toNat * 256 + low.toNat := by
  have hhigh := high.toNat_lt
  have hlow : low.toNat < 2 ^ 8 := low.toNat_lt
  have hmod : high.toNat <<< 8 % 65536 = high.toNat <<< 8 := by
    rw [Nat.shiftLeft_eq]
    exact Nat.mod_eq_of_lt (by omega)
  simp only [toWord, UInt16.toNat_or, UInt16.toNat_shiftLeft, UInt8.toNat_toUInt16]
  show high.toNat <<< 8 % 65536 ||| low.toNat = _
  rw [hmod, ← Nat.shiftLeft_add_eq_or_of_lt hlow, Nat.shiftLeft_eq]

lemma toNat_high (w : UInt16) : (w >>> 8).toUInt8.toNat = w.toNat / 256 := by
  have hlt := w.toNat_lt
  simp only [UInt16.toNat_toUInt8, UInt16.toNat_shiftRight]
  show w.toNat >>> 8 % 256 = _
  rw [Nat.shiftRight_eq_div_pow]
  omega

lemma length_words (bs : Bytes) : bs.words.length = bs.length / 2 := by
  induction bs using words.induct with
  | case1 high low rest ih =>
    rw [words, List.length_cons, List.length_cons, List.length_cons, ih]
    omega
  | case2 bs hshort =>
    match bs, hshort with
    | [], _ => rfl
    | [_], _ => simp [words]
    | high :: low :: rest, hshort => exact absurd rfl (hshort high low rest)

/-- Words can be read back from the bytes in which they are written. -/
lemma words_flatMap_ofWord (ws : List UInt16) : words (ws.flatMap ofWord) = ws := by
  induction ws with
  | nil => rfl
  | cons w ws ih =>
    have hw : toWord (w >>> 8).toUInt8 w.toUInt8 = w := by
      apply UInt16.toNat_inj.mp
      rw [toNat_toWord, toNat_high, UInt16.toNat_toUInt8]
      exact Nat.div_add_mod' w.toNat 256
    rw [List.flatMap_cons, ofWord, List.cons_append, List.cons_append, List.nil_append, words, hw, ih]

end Bytes

/-! ### Hexadecimal text -/

private lemma digitChar_eq {n : Nat} (h : n < 16) : n.digitChar = hexDigit n := by
  revert n
  decide

/-- The last of several digits and those in front of it. -/
private lemma toList_hexNat_succ (width n : Nat) :
    (hexNat (width + 2) n).toList = (hexNat (width + 1) (n / 16)).toList ++ [hexDigit (n % 16)] := by
  simp only [hexNat, String.toList_ofList]
  rcases Nat.lt_or_ge n 16 with hlt | hge
  · rw [Nat.div_eq_of_lt hlt, Nat.mod_eq_of_lt hlt, Nat.toDigits_of_lt_base hlt,
      Nat.toDigits_of_lt_base (by decide), digitChar_eq hlt]
    show List.replicate (width + 1) '0' ++ _ = List.replicate width '0' ++ ['0'] ++ _
    rw [List.replicate_succ']
  · rw [Nat.toDigits_of_base_le (by decide) hge, digitChar_eq (Nat.mod_lt n (by decide)),
      List.length_append, List.length_singleton, Nat.add_sub_add_right (width + 1) 1,
      List.append_assoc]

/-- A word has four hexadecimal digits, two for each of its bytes. -/
lemma hexNat_eq_hex (w : UInt16) : hexNat 4 w.toNat = (Bytes.ofWord w).hex := by
  have hlt := w.toNat_lt
  have hfirst {n : Nat} (h : n < 16) : (hexNat 1 n).toList = [hexDigit n] := by
    rw [hexNat, Nat.toDigits_of_lt_base h, digitChar_eq h, String.toList_ofList]
    rfl
  apply String.toList_inj.mp
  rw [toList_hexNat_succ, toList_hexNat_succ, toList_hexNat_succ, hfirst (by omega)]
  have hdigits : (Bytes.ofWord w).hex.toList =
      hexByte (w >>> 8).toUInt8 ++ (hexByte w.toUInt8 ++ []) := String.toList_ofList
  rw [hdigits, hexByte, hexByte, Bytes.toNat_high, UInt16.toNat_toUInt8]
  simp only [List.cons_append, List.nil_append, List.cons.injEq, and_true]
  refine ⟨?_, ?_, ?_, ?_⟩
  all_goals
    congr 1
    omega

end BoardLink
