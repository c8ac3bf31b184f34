import BoardLink.Toml.Text

/-!
# Numbers in a document

Integers of 64 bits, in decimal with a sign or in three other bases without; floating-point numbers;
and dates and times of day. Underscores may stand between digits. Numbers that are no integers are
kept as they are written.
-/

namespace BoardLink.Toml

open Reader

/-- Digits after a first one, with single underscores between digits. -/
def moreDigits (isDigit : Char → Bool) : Reader (List Char)
  | '_' :: c :: rest =>
    if isDigit c then (moreDigits isDigit rest).map fun (ds, rest) => (c :: ds, rest) else none
  | c :: rest =>
    if c = '_' then none
    else if isDigit c then (moreDigits isDigit rest).map fun (ds, rest) => (c :: ds, rest)
    else some ([], c :: rest)
  | [] => some ([], [])

def digits (isDigit : Char → Bool) : Reader (List Char) := do
  let d ← satisfy isDigit
  return d :: (← moreDigits isDigit)

def ofDigits (base : Nat) (ds : List Char) : Nat := ds.foldl (fun n d => base * n + hexValue d) 0

def sign : Reader (List Char) := do
  return (← perhaps (satisfy fun c => c == '+' || c == '-')).toList

/-! ### Integers -/

/-- A sign and digits, of which the first is no zero unless it is the only one. -/
def decimal : Reader (List Char × List Char) := do
  let s ← sign
  match ← perhaps (satisfy fun c => '1' ≤ c && c ≤ '9') with
  | some d => return (s, d :: (← moreDigits Char.isDigit))
  | none => return (s, [← satisfy (· == '0')])

/-- An integer in another base, after its mark. -/
def based (mark : Char) (base : Nat) (isDigit : Char → Bool) : Reader Int := do
  chars ['0', mark]
  return ofDigits base (← digits isDigit)

def largestInteger : Nat := 9223372036854775807

def integer : Reader Int := do
  let n ← based 'x' 16 isHexDigit <|> based 'o' 8 (fun c => '0' ≤ c && c ≤ '7') <|>
    based 'b' 2 (fun c => c == '0' || c == '1') <|> do
      let (s, ds) ← decimal
      return if s = ['-'] then -(ofDigits 10 ds : Int) else ofDigits 10 ds
  check (-(largestInteger : Int) - 1 ≤ n && n ≤ largestInteger)
  return n

/-! ### Floating-point numbers -/

def fraction : Reader (List Char) := do
  char '.'
  digits Char.isDigit

def exponent : Reader Int := do
  let _ ← satisfy fun c => c == 'e' || c == 'E'
  let s ← sign
  let n := ofDigits 10 (← digits Char.isDigit)
  return if s = ['-'] then -(n : Int) else n

/-- Is `m` times ten to the power `e` too large for 64 bits? From half a unit above the largest
number on, it is. -/
def overflows (m : Nat) (e : Int) : Bool :=
  let size : Int := (Nat.toDigits 10 m).length + e
  let bound := Nat.pow 2 970 * (Nat.pow 2 54 - 1)
  m != 0 && 300 < size &&
    (400 < size || (bound * Nat.pow 10 (-e).toNat ≤ m * Nat.pow 10 e.toNat : Bool))

/-- A decimal number with a fraction or an exponent that is not too large. -/
def finiteFloat : Reader Unit := do
  let (s, ds) ← decimal
  let (fs, e) ← (do return ([], ← exponent)) <|> do
    let fs ← fraction
    return (fs, (← perhaps exponent).getD 0)
  check (s = ['-'] || !overflows (ofDigits 10 (ds ++ fs)) (e - fs.length))

def float : Reader Unit := finiteFloat <|> do
  let _ ← sign
  chars ['i', 'n', 'f'] <|> chars ['n', 'a', 'n']

/-! ### Dates and times -/

/-- A number of that many digits, between two bounds. -/
def field (width low high : Nat) : Reader Nat := do
  let n := ofDigits 10 (← times width Char.isDigit)
  check (low ≤ n && n ≤ high)
  return n

def daysIn (year month : Nat) : Nat :=
  if month = 2 then if year % 4 = 0 ∧ (year % 100 ≠ 0 ∨ year % 400 = 0) then 29 else 28
  else if month = 4 ∨ month = 6 ∨ month = 9 ∨ month = 11 then 30
  else 31

/-- A date. -/
def date : Reader Unit := do
  let year ← field 4 0 9999
  char '-'
  let month ← field 2 1 12
  char '-'
  let _ ← field 2 1 (daysIn year month)

/-- A time of day, with a leap second and parts of a second. -/
def timeOfDay : Reader Unit := do
  let _ ← field 2 0 23
  char ':'
  let _ ← field 2 0 59
  char ':'
  let _ ← field 2 0 60
  let _ ← perhaps do
    char '.'
    let _ ← satisfy Char.isDigit
    let _ ← takeWhile Char.isDigit

def offset : Reader Unit := (do let _ ← satisfy fun c => c == 'Z' || c == 'z') <|> do
  let _ ← satisfy fun c => c == '+' || c == '-'
  let _ ← field 2 0 23
  char ':'
  let _ ← field 2 0 59

/-- A date, a time of day, or both. -/
def moment : Reader Unit := (do
    date
    let _ ← perhaps do
      let _ ← satisfy fun c => c == 'T' || c == 't' || c == ' '
      timeOfDay
      let _ ← perhaps offset) <|>
  timeOfDay

end BoardLink.Toml
