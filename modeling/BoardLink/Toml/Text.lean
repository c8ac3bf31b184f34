import BoardLink.Bytes
import BoardLink.Toml.Reader

/-!
# Strings in a document

A string is written between double quotes, where a backslash escapes, or between single quotes, where
every character stands for itself; and either on one line or, between three quotes, on several.
-/

namespace BoardLink.Toml

open Reader

/-! ### Reading -/

/-- May the character stand in a string as it is, quotes and backslash aside? -/
def isTextChar (c : Char) : Bool := c == '\t' || (' ' ≤ c && c ≠ '\x7f')

def hexValue (c : Char) : Nat :=
  if c.isDigit then c.toNat - 48
  else if c.isLower then c.toNat - 87
  else c.toNat - 55

def isHexDigit (c : Char) : Bool :=
  c.isDigit || ('a' ≤ c && c ≤ 'f') || ('A' ≤ c && c ≤ 'F')

/-- A character by number, in that many hexadecimal digits. Surrogates are no characters. -/
def numbered (digits : Nat) : Reader Char := do
  let ds ← times digits isHexDigit
  let n := ds.foldl (fun n d => 16 * n + hexValue d) 0
  check (n < 0xD800 || (0xDFFF < n && n < 0x110000))
  return Char.ofNat n

def escaped : Reader Char := do
  match ← satisfy fun _ => true with
  | 'b' => return '\x08'
  | 't' => return '\t'
  | 'n' => return '\n'
  | 'f' => return '\x0c'
  | 'r' => return '\r'
  | '"' => return '"'
  | '\\' => return '\\'
  | 'u' => numbered 4
  | 'U' => numbered 8
  | _ => failure

def basicChar : Reader Char :=
  satisfy (fun c => isTextChar c && c ≠ '"' && c ≠ '\\') <|> do
    char '\\'
    escaped

/-- A string between double quotes. -/
def basicString : Reader (List Char) := do
  char '"'
  let s ← many (← left) basicChar
  char '"'
  return s

def literalString : Reader (List Char) := do
  char '\''
  let s ← takeWhile fun c => isTextChar c && c ≠ '\''
  char '\''
  return s

/-- A backslash at the end of a line, with all blanks and line ends after it. -/
def lineContinuation : Reader (List Char) := do
  char '\\'
  blanks
  newline
  let _ ← many (← left) ((do let _ ← satisfy isBlank) <|> newline)
  return []

def innerNewline : Reader (List Char) := do
  newline
  return ['\n']

/-- One or two quotes inside a string, which do not end it. -/
def innerQuotes (q : Char) : Reader (List Char) := do
  match ← peek 3 with
  | [a, b, c] =>
    if a = q ∧ b ≠ q then
      char q
      return [q]
    else if a = q ∧ b = q ∧ c ≠ q then
      chars [q, q]
      return [q, q]
    else failure
  | _ => failure

/-- The three quotes that end a string; up to two more before them belong to the string. -/
def closingQuotes (q : Char) : Reader (List Char) := do
  match ← peek 5 with
  | [a, b, c, d, e] =>
    if a = q ∧ b = q ∧ c = q ∧ d = q ∧ e = q then
      chars [q, q, q, q, q]
      return [q, q]
    else if a = q ∧ b = q ∧ c = q ∧ d = q then
      chars [q, q, q, q]
      return [q]
    else
      chars [q, q, q]
      return []
  | [a, b, c, d] =>
    if a = q ∧ b = q ∧ c = q ∧ d = q then
      chars [q, q, q, q]
      return [q]
    else
      chars [q, q, q]
      return []
  | _ =>
    chars [q, q, q]
    return []

/-- A string on several lines between three quotes of a kind, given what else may stand in it. A
line end right at the start does not belong to it. -/
def multiline (q : Char) (piece : Reader (List Char)) : Reader (List Char) := do
  chars [q, q, q]
  let _ ← perhaps newline
  let pieces ← many (← left) (piece <|> innerNewline <|> innerQuotes q)
  let last ← closingQuotes q
  return pieces.flatten ++ last

def multilineBasic : Reader (List Char) :=
  multiline '"' ((do return [← basicChar]) <|> lineContinuation)

def multilineLiteral : Reader (List Char) :=
  multiline '\'' (do return [← satisfy fun c => isTextChar c && c ≠ '\''])

def string : Reader String := do
  return String.ofList (← multilineBasic <|> basicString <|> multilineLiteral <|> literalString)

/-! ### Writing -/

/-- What a string contains, as far as it bears on how it is written. -/
structure TextTraits where
  /-- Control characters other than the tab and the line feed. -/
  controls : Bool
  backslash : Bool
  newline : Bool
  singleQuotes : Nat
  doubleQuotes : Nat

/-- The most occurrences of a character in a row, after `current` of them. -/
def longestRun (q : Char) (current : Nat) : List Char → Nat
  | [] => current
  | c :: cs => if c = q then longestRun q (current + 1) cs else max current (longestRun q 0 cs)

/-- Is the character a control character that cannot stand in a string as it is? -/
def isControl (c : Char) : Bool := (c < ' ' && c ≠ '\t' && c ≠ '\n') || c == '\x7f'

def TextTraits.of (s : List Char) : TextTraits where
  controls := s.any isControl
  backslash := s.contains '\\'
  newline := s.contains '\n'
  singleQuotes := longestRun '\'' 0 s
  doubleQuotes := longestRun '"' 0 s

/-- A character between double quotes. Line feeds stand as they are where lines are kept. -/
def writeBasicChar (keepLines : Bool) (c : Char) : List Char :=
  if c = '\x08' then ['\\', 'b']
  else if c = '\t' then ['\\', 't']
  else if c = '\n' then if keepLines then ['\n'] else ['\\', 'n']
  else if c = '\x0c' then ['\\', 'f']
  else if c = '\r' then ['\\', 'r']
  else if c = '\\' then ['\\', '\\']
  else if isControl c then ['\\', 'u'] ++ (hexNat 4 c.toNat).toList.map Char.toUpper
  else [c]

/-- The inside of a string between double quotes, after `quotes` quotes in a row. A quote is escaped
where it would end the string: each on a single line, the third in a row on several lines. -/
def writeBasic (keepLines : Bool) (quotes : Nat) : List Char → List Char
  | [] => []
  | c :: cs =>
    if c = '"' then
      if quotes < (if keepLines then 2 else 0) then '"' :: writeBasic keepLines (quotes + 1) cs
      else '\\' :: '"' :: writeBasic keepLines 0 cs
    else writeBasicChar keepLines c ++ writeBasic keepLines 0 cs

/-- Three quotes at both ends of the inside of a string; if it has several lines, it starts on a
line of its own. -/
def writeMultiline (q : Char) (newline : Bool) (inside : List Char) : List Char :=
  [q, q, q] ++ (if newline then ['\n'] else []) ++ inside ++ [q, q, q]

def writeOneLine (s : List Char) : List Char := '"' :: writeBasic false 0 s ++ ['"']

def writeLines (newline : Bool) (s : List Char) : List Char :=
  writeMultiline '"' newline (writeBasic true 0 s)

/-- A string in the first of these ways that needs no escape: double quotes on one line, single
quotes on one line, double quotes on several, single quotes on several; else with escapes. -/
def writeString (s : String) : String :=
  let cs := s.toList
  let t := TextTraits.of cs
  String.ofList <|
    if !t.controls && !t.backslash && t.doubleQuotes == 0 && !t.newline then writeOneLine cs
    else if !t.controls && t.singleQuotes == 0 && !t.newline then '\'' :: cs ++ ['\'']
    else if !t.controls && !t.backslash && t.doubleQuotes ≤ 2 then writeLines t.newline cs
    else if !t.controls && t.singleQuotes ≤ 2 then writeMultiline '\'' t.newline cs
    else if t.newline then writeLines t.newline cs
    else writeOneLine cs

end BoardLink.Toml
