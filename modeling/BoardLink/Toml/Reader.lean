/-!
# Reading text

A reader takes characters from the front of a text and gives a value, or refuses the text.
-/

namespace BoardLink.Toml

/-- Takes characters from the front of a text. -/
abbrev Reader := StateT (List Char) Option

namespace Reader

def satisfy (fits : Char → Bool) : Reader Char
  | c :: cs => if fits c then some (c, cs) else none
  | [] => none

def char (c : Char) : Reader Unit := do let _ ← satisfy (· == c)

def chars : List Char → Reader Unit
  | [] => return ()
  | c :: cs => do
    char c
    chars cs

/-- Takes all characters that fit, up to the first that does not. -/
def takeWhile (fits : Char → Bool) : Reader (List Char) := fun cs =>
  some (cs.takeWhile fits, cs.dropWhile fits)

/-- Takes exactly `n` characters that fit. -/
def times (n : Nat) (fits : Char → Bool) : Reader (List Char) :=
  match n with
  | 0 => return []
  | n + 1 => do return (← satisfy fits) :: (← times n fits)

/-- What comes next, which stays. -/
def peek (n : Nat) : Reader (List Char) := fun cs => some (cs.take n, cs)

/-- What a reader takes, if it takes anything. -/
def perhaps {α : Type} (r : Reader α) : Reader (Option α) := fun cs =>
  match r cs with
  | some (a, rest) => some (some a, rest)
  | none => some (none, cs)

def check (b : Bool) : Reader Unit := if b then return () else failure

/-- As many rounds as the reader can go, but no more than `limit`. -/
def many {α : Type} (limit : Nat) (r : Reader α) : Reader (List α) :=
  match limit with
  | 0 => return []
  | limit + 1 => do
    match ← perhaps r with
    | none => return []
    | some a => return a :: (← many limit r)

def left : Reader Nat := fun cs => some (cs.length, cs)

end Reader

/-! ### Blanks, comments and lines -/

def isBlank (c : Char) : Bool := c == ' ' || c == '\t'

/-- May the character stand in a comment? Control characters other than the tab may not. -/
def isCommentChar (c : Char) : Bool := c == '\t' || (' ' ≤ c && c ≠ '\x7f')

open Reader

def blanks : Reader Unit := do let _ ← takeWhile isBlank

def newline : Reader Unit := char '\n' <|> chars ['\r', '\n']

def comment : Reader Unit := do
  char '#'
  let _ ← takeWhile isCommentChar

/-- Takes the end of a line or the end of the text. -/
def lineEnd : Reader Unit := fun cs => if cs.isEmpty then some ((), cs) else newline cs

/-- Takes what may follow a statement on its line: blanks and a comment. -/
def trailing : Reader Unit := do
  blanks
  let _ ← perhaps comment
  lineEnd

/-- Takes blanks, line ends and comments. -/
def spacing : Reader Unit := do
  let item : Reader Unit := (do let _ ← satisfy isBlank) <|> newline <|> do
    comment
    newline
  let _ ← many (← left) item

end BoardLink.Toml
