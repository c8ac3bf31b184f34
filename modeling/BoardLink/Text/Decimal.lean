/-!
# Decimal numbers

Numbers of 64 bits as users type them: digits, with a plus sign before them or not.
-/

namespace BoardLink.Text

inductive NumberError where
  | empty
  | invalidDigit
  | tooLarge
  deriving DecidableEq, Repr

def NumberError.message : NumberError → String
  | .empty => "cannot parse integer from empty string"
  | .invalidDigit => "invalid digit found in string"
  | .tooLarge => "number too large to fit in target type"

/-- The largest number of 64 bits. -/
def largestNumber : Nat := 18446744073709551615

/-- Reads digits after those that stand for `n`. The first fault counts, be it a character that is
no digit or one digit too many. -/
def readDigits (n : Nat) : List Char → Except NumberError Nat
  | [] => .ok n
  | c :: cs =>
    if c.isDigit then
      let n := 10 * n + (c.toNat - 48)
      if n ≤ largestNumber then readDigits n cs else .error .tooLarge
    else .error .invalidDigit

def readNumber : List Char → Except NumberError Nat
  | [] => .error .empty
  | ['+'] => .error .invalidDigit
  | '+' :: cs => readDigits 0 cs
  | cs => readDigits 0 cs

end BoardLink.Text
