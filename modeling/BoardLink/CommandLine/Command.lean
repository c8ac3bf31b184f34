import BoardLink.CommandLine.Grammar
import BoardLink.CommandLine.Help
import BoardLink.Config.Overrides

/-!
# Commands of the program

What the program can be told to do by its arguments: to serve a board, to write an example
configuration, to check one, or to list the peripherals.
-/

namespace BoardLink.CommandLine

/-- What the program is told to do. -/
inductive Command where
  /-- Serve the board, with the configuration of a file or the default. -/
  | serve (config : Option String) (overrides : Overrides)
  | generate (output : String)
  | validate (config : String)
  | drivers
  deriving DecidableEq, Repr

/-! ### Values of options -/

def required (name : String) : Option String → Except Stop String
  | some value => .ok value
  | none => .error (.misuse s!"a value is required for '--{name}' but none was supplied")

/-- The value of an option that names a file, which is not empty. -/
def filePath (name value : String) : Except Stop String :=
  required name (if value.isEmpty then none else some value)

/-- Fails if the option was given before. -/
def once (name : String) (given : Bool) : Except Stop Unit :=
  if given then .error (.misuse s!"the argument '--{name}' cannot be used multiple times")
  else .ok ()

/-! ### Options of the program -/

inductive ProgramOption where
  | config
  | serialPort
  | logLevel
  | tracePackets
  | overload
  | help
  | version
  deriving DecidableEq, Repr

structure ProgramSettings where
  config : Option String := none
  overrides : Overrides := {}
  deriving DecidableEq, Repr

def ProgramSettings.give (s : ProgramSettings) (value : Option String) :
    ProgramOption → Except Stop ProgramSettings
  | .config => do
    let name := "config"
    let value ← required name value
    once name s.config.isSome
    return { s with config := ← filePath name value }
  | .serialPort => do
    let name := "serial-port"
    let value ← required name value
    once name s.overrides.serialPort.isSome
    return { s with overrides := { s.overrides with serialPort := value } }
  | .logLevel => do
    let name := "log-level"
    let value ← required name value
    once name s.overrides.logLevel.isSome
    return { s with overrides := { s.overrides with logLevel := value } }
  | .tracePackets => do
    once "trace-packets" s.overrides.tracePackets
    return { s with overrides := { s.overrides with tracePackets := true } }
  | .overload => do
    let specs := (Text.splitAll ',' (← required "overload" value).toList).map String.ofList
    return { s with overrides := { s.overrides with overloads := s.overrides.overloads ++ specs } }
  | .help => .error (.answer Help.program)
  | .version => .error (.answer Help.version)

def program : Grammar ProgramOption ProgramSettings where
  long := [("config", .config), ("serial-port", .serialPort), ("log-level", .logLevel),
    ("trace-packets", .tracePackets), ("overload", .overload), ("help", .help),
    ("version", .version)]
  short := [('c', .config), ('s', .serialPort), ('o', .overload), ('h', .help), ('V', .version)]
  takesValue o := o ∉ [.tracePackets, .help, .version]
  give o value s := s.give value o
  commands := Help.ofCommand.map Prod.fst

/-! ### Options of commands -/

inductive CommandOption where
  | file
  | help
  deriving DecidableEq, Repr

/-- The grammar of a command's arguments, which name at most one file. -/
def fileGrammar (long : String) (short : Char) (text : String) :
    Grammar CommandOption (Option String) where
  long := [(long, .file), ("help", .help)]
  short := [(short, .file), ('h', .help)]
  takesValue o := o = .file
  give
    | .file, value, s => do
      let value ← required long value
      once long s.isSome
      return some (← filePath long value)
    | .help, _, _ => .error (.answer text)

def plainGrammar (text : String) : Grammar Unit Unit where
  long := [("help", ())]
  short := [('h', ())]
  takesValue _ := false
  give _ _ _ := .error (.answer text)

def help : List String → Stop
  | [] => .answer Help.program
  | name :: rest =>
    match Help.ofCommand.lookup name, rest with
    | some text, [] => .answer text
    | some _, other :: _ => .misuse s!"unrecognized subcommand '{other}'"
    | none, _ => .misuse s!"unrecognized subcommand '{name}'"

def Command.ofArguments (args : List String) : String → Except Stop Command
  | "gen-config" => do
    let file ← (fileGrammar "output" 'o' Help.generate).readAll args none
    return .generate (file.getD "pclinkd.toml")
  | "validate" => do
    match ← (fileGrammar "config" 'c' Help.validate).readAll args none with
    | some file => return .validate file
    | none => .error (.misuse "the following required arguments were not provided:\n  --config <CONFIG>")
  | "drivers" => do
    (plainGrammar Help.drivers).readAll args ()
    return .drivers
  | _ => .error (help args)

def Command.ofProgram (args : List String) : Except Stop Command := do
  let given ← program.read args {} .nothing
  match given.command with
  | some (name, args) =>
    let command ← Command.ofArguments args name
    let _ ← program.settle given.settings given.pending
    return command
  | none =>
    let s ← program.settle given.settings given.pending
    return .serve s.config s.overrides

end BoardLink.CommandLine
