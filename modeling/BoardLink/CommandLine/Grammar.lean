/-!
# Arguments of a program

Arguments are options, by long name after two hyphens or by single letters after one, and at most
one command, which takes all arguments after it. An option is either alone or has a value: attached
to it, with or without an equals sign, or as the next argument. Options count in the order in which
they are given, so the first fault or the first call for help decides.
-/

namespace BoardLink.CommandLine

/-- Why a program does nothing but print a text. -/
inductive Stop where
  | answer (text : String)
  | misuse (reason : String)
  deriving DecidableEq, Repr

/-- The options `O` and the commands of a program, and how its settings `S` take in an option. -/
structure Grammar (O S : Type) where
  long : List (String × O)
  short : List (Char × O)
  takesValue : O → Bool
  give : O → Option String → S → Except Stop S
  commands : List String := []

/-- An option that is not taken in yet. -/
inductive Pending (O : Type) where
  | nothing
  /-- The next argument is its value. -/
  | waiting (o : O)
  | complete (o : O) (value : String)

namespace Grammar

variable {O S : Type}

/-- An argument that has no place. -/
def unexpected (arg : String) : Stop := .misuse s!"unexpected argument '{arg}' found"

def settle (g : Grammar O S) (s : S) : Pending O → Except Stop S
  | .nothing => .ok s
  | .waiting o => g.give o none s
  | .complete o value => g.give o (some value) s

/-- An option without a value next to it. One that has a value waits for it. -/
def start (g : Grammar O S) (o : O) (s : S) (p : Pending O) : Except Stop (S × Pending O) := do
  let s ← g.settle s p
  if g.takesValue o then return (s, .waiting o) else return (← g.give o none s, .nothing)

def attach (g : Grammar O S) (o : O) (value : List Char) (s : S) (p : Pending O) :
    Except Stop (S × Pending O) := do
  let s ← g.settle s p
  return (← g.give o (some (String.ofList value)) s, .nothing)

/-- A long option and what stands after an equals sign. -/
def longOption (g : Grammar O S) (arg name : String) (value : Option (List Char)) (s : S)
    (p : Pending O) : Except Stop (S × Pending O) :=
  match g.long.lookup name with
  | none => .error (unexpected arg)
  | some o =>
    match value with
    | none => g.start o s p
    | some value =>
      if g.takesValue o then g.attach o value s p
      else .error (.misuse s!"unexpected value for '--{name}' found; no more were expected")

/-- Short options in one argument. What follows one that has a value is the value. -/
def shortOptions (g : Grammar O S) (arg : String) :
    List Char → S → Pending O → Except Stop (S × Pending O)
  | [], s, p => .ok (s, p)
  | c :: cs, s, p =>
    match g.short.lookup c with
    | none => .error (unexpected arg)
    | some o =>
      if g.takesValue o then
        match cs with
        | [] => g.start o s p
        | '=' :: value => g.attach o value s p
        | value => g.attach o value s p
      else do
        let (s, p) ← g.start o s p
        g.shortOptions arg cs s p

/-- A long name, and what stands after the first equals sign. -/
def splitLong : List Char → List Char × Option (List Char)
  | [] => ([], none)
  | '=' :: value => ([], some value)
  | c :: cs =>
    let (name, value) := splitLong cs
    (c :: name, value)

/-- What a program was given: its settings, an option not taken in yet, and a command with all
arguments after it. -/
structure Given (O S : Type) where
  settings : S
  pending : Pending O
  command : Option (String × List String) := none

/-- Reads arguments up to a command. After two hyphens alone there is no place for any argument. -/
def read (g : Grammar O S) : List String → S → Pending O → Except Stop (Given O S)
  | [], s, p => .ok { settings := s, pending := p }
  | arg :: args, s, p =>
    let waits :=
      match p with
      | .waiting _ => true
      | _ => false
    if !waits && g.commands.contains arg then
      .ok { settings := s, pending := p, command := some (arg, args) }
    else
      match arg.toList with
      | ['-', '-'] =>
        match args with
        | [] => .ok { settings := s, pending := p }
        | next :: _ => .error (unexpected next)
      | '-' :: '-' :: cs => do
        let (name, value) := splitLong cs
        let (s, p) ← g.longOption arg (String.ofList name) value s p
        g.read args s p
      | '-' :: c :: cs => do
        let (s, p) ← g.shortOptions arg (c :: cs) s p
        g.read args s p
      | _ =>
        match p with
        | .waiting o => g.read args s (.complete o arg)
        | _ => .error (unexpected arg)

def readAll (g : Grammar O S) (args : List String) (s : S) : Except Stop S := do
  let given ← g.read args s .nothing
  g.settle given.settings given.pending

end Grammar

end BoardLink.CommandLine
