import BoardLink.Toml.Value

/-!
# Documents

A document is a list of statements, each on its own line: an assignment, the header of a table, or
the header of the next table of an array. No key is assigned twice and no table is opened twice.
-/

namespace BoardLink.Toml

open Reader

/-! ### Tables under construction -/

/-- A part of a document under construction. -/
inductive Node where
  | value (v : Value)
  /-- A table; `implied` until it has a header of its own, `dotted` if a key with points made it. -/
  | table (implied dotted : Bool) (entries : List (String × Node))
  | tables (elements : List Node)

abbrev Entries := List (String × Node)

namespace Node

mutual

def toValue : Node → Value
  | .value v => v
  | .table _ _ entries => .table (toEntries entries)
  | .tables elements => .array (toElements elements)

def toEntries : List (String × Node) → List (String × Value)
  | [] => []
  | (k, n) :: rest => (k, n.toValue) :: toEntries rest

def toElements : List Node → List Value
  | [] => []
  | n :: rest => n.toValue :: toElements rest

end

end Node

namespace Entries

def replace (k : String) (n : Node) : Entries → Entries
  | [] => [(k, n)]
  | (j, m) :: rest => if j = k then (k, n) :: rest else (j, m) :: replace k n rest

def erase (k : String) (es : Entries) : Entries := es.filter fun (j, _) => j ≠ k

/-- Changes the table that a path leads to, and makes tables on the way where there are none. Of an
array of tables the path leads into the last. A path of an assignment, which is `dotted`, does not
lead through tables that have headers. The change is told whether a key with points made the
table. -/
def modify {α : Type} (dotted : Bool) (change : Bool → Entries → Option (α × Entries)) :
    (path : List String) → (here : Bool) → Entries → Option (α × Entries)
  | [], here, es => change here es
  | k :: path, _, es =>
    match es.lookup k with
    | none => do
      let (a, sub) ← modify dotted change path dotted []
      return (a, es ++ [(k, .table true dotted sub)])
    | some (.value _) => none
    | some (.table implied here sub) =>
      -- a key with points must not reopen a table that has a header
      if dotted && !implied then none
      else do
        let (a, sub) ← modify dotted change path here sub
        return (a, replace k (.table implied here sub) es)
    | some (.tables elements) =>
      match elements.getLast? with
      | some (.table implied here sub) => do
        let (a, sub) ← modify dotted change path here sub
        return (a, replace k (.tables (elements.dropLast ++ [.table implied here sub])) es)
      | _ => none

def splitPath (path : List String) : Option (List String × String) :=
  path.getLast?.map fun k => (path.dropLast, k)

def assign (path : List String) (v : Value) (es : Entries) : Option Entries := do
  let (way, k) ← splitPath path
  let change (here : Bool) (es : Entries) : Option (Unit × Entries) :=
    if here == way.isEmpty || (es.lookup k).isSome then none else some ((), es ++ [(k, .value v)])
  let ((), es) ← es.modify true change way false
  return es

/-- Opens a table: takes out what headers below it made before, if that is all there is. -/
def openTable (path : List String) (es : Entries) : Option (Entries × Entries) := do
  let (way, k) ← splitPath path
  let change (_ : Bool) (es : Entries) : Option (Entries × Entries) :=
    match es.lookup k with
    | none => some ([], es)
    | some (.table true false sub) => some (sub, es.erase k)
    | some _ => none
  es.modify false change way false

/-- Checks that an array of tables can get one more. -/
def openElement (path : List String) (es : Entries) : Option Entries := do
  let (way, k) ← splitPath path
  let change (_ : Bool) (es : Entries) : Option (Unit × Entries) :=
    match es.lookup k with
    | none => some ((), es ++ [(k, .tables [])])
    | some (.tables _) => some ((), es)
    | some _ => none
  let ((), es) ← es.modify false change way false
  return es

/-- Puts a finished table in its place. -/
def closeTable (es : Entries) (path : List String) (table : Entries) : Option Entries := do
  let (way, k) ← splitPath path
  let change (_ : Bool) (es : Entries) : Option (Unit × Entries) :=
    some ((), es.replace k (.table false false table))
  let ((), es) ← es.modify false change way false
  return es

/-- Puts a finished table at the end of its array. -/
def closeElement (es : Entries) (path : List String) (table : Entries) : Option Entries := do
  let (way, k) ← splitPath path
  let change (_ : Bool) (es : Entries) : Option (Unit × Entries) :=
    match es.lookup k with
    | some (.tables elements) =>
      some ((), es.replace k (.tables (elements ++ [.table false false table])))
    | _ => none
  let ((), es) ← es.modify false change way false
  return es

end Entries

/-! ### Statements -/

inductive Statement where
  | assign (path : List String) (v : Value)
  | table (path : List String)
  | element (path : List String)
  | nothing

def statement : Reader Statement := do
  blanks
  match ← peek 2 with
  | ['[', '['] =>
    chars ['[', '[']
    let path ← key
    chars [']', ']']
    trailing
    return .element path
  | '[' :: _ =>
    char '['
    let path ← key
    char ']'
    trailing
    return .table path
  | '#' :: _ =>
    comment
    lineEnd
    return .nothing
  | '\n' :: _ | '\r' :: _ =>
    newline
    return .nothing
  | [] => return .nothing
  | _ =>
    let (path, v) ← assignment (value maxDepth)
    trailing
    return .assign path v

/-- The table that statements add to. -/
inductive Place where
  | root
  | table (path : List String)
  | element (path : List String)

/-- A document under construction: what is finished, the table that statements add to, and the place
it belongs to. -/
structure Draft where
  finished : Entries := []
  current : Entries := []
  place : Place := .root

namespace Draft

/-- Puts the current table in its place. -/
def close (d : Draft) : Option Entries :=
  match d.place with
  | .root => some d.current
  | .table path => d.finished.closeTable path d.current
  | .element path => d.finished.closeElement path d.current

/-- Adds a statement. -/
def add (d : Draft) : Statement → Option Draft
  | .nothing => some d
  | .assign path v => (d.current.assign path v).map fun current => { d with current }
  | .table path => do
    let (current, finished) ← (← d.close).openTable path
    return { finished, current, place := .table path }
  | .element path => do
    let finished ← (← d.close).openElement path
    return { finished, current := [], place := .element path }

/-- Adds all statements of a text; each but an empty rest takes at least one character. -/
def addAll : (limit : Nat) → Draft → List Char → Option Draft
  | _, d, [] => some d
  | 0, _, _ :: _ => none
  | limit + 1, d, cs => do
    let (s, cs) ← statement cs
    addAll limit (← d.add s) cs

end Draft

/-- Reads a document and gives the entries of its outermost table. A byte order mark at the start is
skipped. -/
def parse (text : String) : Option (List (String × Value)) := do
  let cs :=
    match text.toList with
    | '\ufeff' :: cs => cs
    | cs => cs
  let d ← Draft.addAll cs.length {} cs
  return Node.toEntries (← d.close)

end BoardLink.Toml
