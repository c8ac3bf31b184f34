import BoardLink.Catalog
import BoardLink.CommandLine.Command
import BoardLink.CommandLine.System
import BoardLink.Config.Text

/-!
# Running the program

The commands themselves: what they read and write, what they print, and the number they end with.
-/

namespace BoardLink.CommandLine

/-- How the program ended. -/
structure Outcome where
  code : Nat := 0
  output : String := ""
  errors : String := ""
  deriving DecidableEq, Repr

/-! ### Failures -/

/-- Causes with numbers before them. -/
def numbered (n : Nat) : List String → List String
  | [] => []
  | cause :: causes => s!"    {n}: {cause}" :: numbered (n + 1) causes

/-- The report on a failure. A single cause has no number. -/
def Failure.report (f : Failure) : String :=
  let causes :=
    match f.causes with
    | [] => []
    | [cause] => ["", "Caused by:", "    " ++ cause]
    | causes => "" :: "Caused by:" :: numbered 0 causes
  Help.lines (("Error: " ++ f.context) :: causes)

def Failure.ofOverload : OverloadError → Failure
  | .noColon spec =>
    { context := "invalid overload " ++ Text.quoted spec ++ " (expected slot:driver)" }
  | .badSlot spec e =>
    { context := "invalid slot in overload " ++ Text.quoted spec, causes := [e.message] }

def Failure.ofOverride : OverrideError → Failure
  | .overload e => .ofOverload e
  | .config e => { context := e.message, causes := e.chain.tail }

def Failure.outcome (f : Failure) : Outcome := { code := 1, errors := f.report }

/-! ### Commands -/

def padLeft (width : Nat) (s : String) : String :=
  String.ofList (List.replicate (width - s.length) ' ') ++ s

def padRight (width : Nat) (s : String) : String :=
  s ++ String.ofList (List.replicate (width - s.length) ' ')

def peripheralLine (p : Peripheral) : String :=
  String.intercalate " " [padLeft 4 (toString p.id.toNat), "", padRight 10 p.name,
    padRight 10 p.hardware, padLeft 4 (toString p.pins.toNat), "", "0x" ++ hexNat 2 p.directions.toNat]

def peripheralTable : String :=
  Help.lines ("  id  name       hardware   pins  dirs" :: Catalog.peripherals.map peripheralLine)

def exampleConfig : Config := { overloads := [{ slot := 8, driver := "tonegen" }] }

/-- The text of a configuration file, with its heading. -/
def generatedText (c : Config) : Except ConfigError String := do
  return "# pclinkd configuration\n# Generated by pclinkd gen-config\n\n" ++ (← c.toText)

def overloadLine (o : Overload) : String :=
  let known := if (Catalog.byName o.driver).isSome then "" else " (not in catalog)"
  s!"  slot {o.slot} -> {o.driver}{known}"

def summary (c : Config) : String :=
  Help.lines (["Configuration valid!", "", "Serial port: " ++ c.serialPort,
    s!"Slots:       {c.maxSlots}", s!"Ack timeout: {c.ackTimeout} ms"] ++
    c.overloads.map overloadLine)

section

variable {m : Type → Type} [Monad m] {D : Type}

def loadConfig (sys : System m D) (path : String) : m (Except ConfigError Config) := do
  match ← sys.read path with
  | .error e => return .error (.io e)
  | .ok text => return Config.ofText text

/-- The configuration to start from: that of a file, or the default. -/
def baseConfig (sys : System m D) : Option String → m (Except Failure Config)
  | none => return .ok {}
  | some path => do
    match ← loadConfig sys path with
    | .error e => return .error { context := "loading " ++ path, causes := e.chain }
    | .ok c => return .ok c

/-- The configuration to serve a board with. -/
def buildConfig (sys : System m D) (path : Option String) (overrides : Overrides) :
    m (Except Failure Config) := do
  match ← baseConfig sys path with
  | .error f => return .error f
  | .ok c => return (c.override overrides).mapError Failure.ofOverride

def connectAndServe (sys : System m D) (c : Config) : m (Except Failure Unit) := do
  match ← sys.connect c.serialPort with
  | .error e => return .error { context := "opening " ++ c.serialPort, causes := [e.message] }
  | .ok device => sys.serve c device

/-- Carries out a command. -/
def Command.run (sys : System m D) : Command → m Outcome
  | .serve path overrides => do
    match ← buildConfig sys path overrides with
    | .error f => return f.outcome
    | .ok c =>
      match ← connectAndServe sys c with
      | .error f => return f.outcome
      | .ok () => return {}
  | .generate path => do
    match generatedText exampleConfig with
    | .error e => return Failure.outcome { context := e.message }
    | .ok text =>
      match ← sys.write path text with
      | .error e => return Failure.outcome { context := "writing " ++ path, causes := [e.message] }
      | .ok () => return { output := Help.lines ["Generated configuration file: " ++ path] }
  | .validate path => do
    match ← loadConfig sys path with
    | .error e => return { code := 1, errors := Help.lines ["Configuration invalid: " ++ e.message] }
    | .ok c => return { output := summary c }
  | .drivers => return { output := peripheralTable }

def run (sys : System m D) (args : List String) : m Outcome := do
  match Command.ofProgram args with
  | .error (.answer text) => return { output := text }
  | .error (.misuse reason) =>
    return { code := 2,
             errors := Help.lines ["error: " ++ reason, "", "For more information, try '--help'."] }
  | .ok command => command.run sys

end

end BoardLink.CommandLine
