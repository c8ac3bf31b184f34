/-!
# Byte strings

Byte strings as lists, big-endian words, and the hexadecimal text in which bytes are shown.
-/

namespace BoardLink

abbrev Bytes := List UInt8

namespace Bytes

/-- The two bytes of a word, the high one first. -/
def ofWord (w : UInt16) : Bytes := [(w >>> 8).toUInt8, w.toUInt8]

/-- The word whose high byte comes first. -/
def toWord (high low : UInt8) : UInt16 := (high.toUInt16 <<< 8) ||| low.toUInt16

/-- Consecutive pairs of bytes read as words; an odd byte at the end is left out. -/
def words : Bytes → List UInt16
  | high :: low :: rest => toWord high low :: words rest
  | _ => []

end Bytes

/-! ### Hexadecimal text -/

def hexDigit (n : Nat) : Char :=
  Char.ofNat (if n < 10 then 48 + n else 87 + n)

/-- A number in hexadecimal with at least `width` digits, filled up with zeros. -/
def hexNat (width n : Nat) : String :=
  let digits := (Nat.toDigits 16 n)
  String.ofList (List.replicate (width - digits.length) '0' ++ digits)

def hexByte (b : UInt8) : List Char := [hexDigit (b.toNat / 16), hexDigit (b.toNat % 16)]

def Bytes.hex (bs : Bytes) : String := String.ofList (bs.flatMap hexByte)

/-- All bytes in hexadecimal, a blank before each. -/
def Bytes.dump (bs : Bytes) : String := String.ofList (bs.flatMap fun b => ' ' :: hexByte b)

end BoardLink
