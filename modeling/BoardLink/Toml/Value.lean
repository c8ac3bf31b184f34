import BoardLink.Toml.Number

/-!
# Values of a document

Strings, numbers, truth values, arrays and tables, and how they are written inside a statement.
-/

namespace BoardLink.Toml

open Reader

/-- A value. Of floating-point numbers, dates and times only the kind is kept. -/
inductive Value where
  | string (s : String)
  | integer (n : Int)
  | float
  | boolean (b : Bool)
  | moment
  | array (elements : List Value)
  | table (entries : List (String × Value))

namespace Value

def string? : Value → Option String
  | .string s => some s
  | _ => none

def nat? : Value → Option Nat
  | .integer (.ofNat n) => some n
  | _ => none

def bool? : Value → Option Bool
  | .boolean b => some b
  | _ => none

def array? : Value → Option (List Value)
  | .array elements => some elements
  | _ => none

end Value

/-! ### Keys -/

/-- May the character stand in a key without quotes? -/
def isKeyChar (c : Char) : Bool := c.isAlphanum || c == '_' || c == '-'

def keyPart : Reader String := do
  blanks
  let part ← basicString <|> literalString <|> do
    let c ← satisfy isKeyChar
    return c :: (← takeWhile isKeyChar)
  blanks
  return String.ofList part

/-- How deep arrays, tables and keys may be nested. -/
def maxDepth : Nat := 79

def key : Reader (List String) := do
  let first ← keyPart
  let rest ← many (← left) do
    char '.'
    keyPart
  check (rest.length < maxDepth)
  return first :: rest

/-- A key and a value, which `value` reads. -/
def assignment (value : Reader Value) : Reader (List String × Value) := do
  let k ← key
  char '='
  blanks
  return (k, ← value)

/-! ### Tables inside a statement -/

/-- A table under construction: whether a key with points made it, and its entries. -/
inductive InlineTable where
  | value (v : Value)
  | table (dotted : Bool) (entries : List (String × InlineTable))

namespace InlineTable

mutual

def toValue : InlineTable → Value
  | .value v => v
  | .table _ entries => .table (toEntries entries)

def toEntries : List (String × InlineTable) → List (String × Value)
  | [] => []
  | (k, t) :: rest => (k, t.toValue) :: toEntries rest

end

def replace (k : String) (t : InlineTable) :
    List (String × InlineTable) → List (String × InlineTable)
  | [] => [(k, t)]
  | (j, u) :: rest => if j = k then (k, t) :: rest else (j, u) :: replace k t rest

/-- Adds a value under a key. Only a table that keys with points made can take more by such a key. -/
def insert (v : Value) (entries : List (String × InlineTable)) :
    List String → Option (List (String × InlineTable))
  | [] => none
  | [k] => if (entries.lookup k).isSome then none else some (entries ++ [(k, .value v)])
  | k :: path =>
    match entries.lookup k with
    | none => (insert v [] path).map fun sub => entries ++ [(k, .table true sub)]
    | some (.table true sub) => (insert v sub path).map fun sub => replace k (.table true sub) entries
    | some _ => none

def ofAssignments : List (String × InlineTable) → List (List String × Value) →
    Option (List (String × InlineTable))
  | entries, [] => some entries
  | entries, (path, v) :: rest => do ofAssignments (← insert v entries path) rest

end InlineTable

/-! ### Values -/

def separated {α : Type} (item : Reader α) : Reader (List α) := do
  match ← perhaps item with
  | none => return []
  | some first => return first :: (← many (← left) do
      char ','
      item)

/-- An array, whose elements `value` reads. A comma may follow the last. -/
def array (value : Reader Value) : Reader Value := do
  char '['
  let elements ← separated do
    spacing
    let v ← value
    spacing
    return v
  if !elements.isEmpty then
    let _ ← perhaps (char ',')
  spacing
  char ']'
  return .array elements

/-- A table on one line, whose values `value` reads. -/
def inlineTable (value : Reader Value) : Reader Value := do
  char '{'
  blanks
  let assignments ← separated do
    let a ← assignment value
    blanks
    return a
  blanks
  char '}'
  match InlineTable.ofAssignments [] assignments with
  | some entries => return .table (InlineTable.toEntries entries)
  | none => failure

/-- A value with at most `depth` arrays and tables around another. -/
def value (depth : Nat) : Reader Value := do
  match ← peek 1 with
  | ['"'] | ['\''] => return .string (← string)
  | ['['] => match depth with
    | 0 => failure
    | depth + 1 => array (value depth)
  | ['{'] => match depth with
    | 0 => failure
    | depth + 1 => inlineTable (value depth)
  | ['t'] => do
    chars "true".toList
    return .boolean true
  | ['f'] => do
    chars "false".toList
    return .boolean false
  | _ =>
    (do moment; return .moment) <|> (do float; return .float) <|> do return .integer (← integer)

end BoardLink.Toml
