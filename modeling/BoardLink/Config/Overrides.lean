import BoardLink.Config.Basic
import BoardLink.Text.Decimal
import BoardLink.Text.Pieces
import BoardLink.Text.Quoted

/-!
# Settings that override a configuration

Whoever starts the daemon can override single settings. Assignments of drivers are given as texts
such as `8:tonegen`, and each of them replaces what the configuration has for its slot.
-/

namespace BoardLink

inductive OverloadError where
  | noColon (spec : String)
  | badSlot (spec : String) (error : Text.NumberError)
  deriving DecidableEq, Repr

/-- Reads an assignment: a slot, a colon and a driver. -/
def Overload.ofSpec (spec : String) : Except OverloadError Overload :=
  match Text.splitFirst ':' spec.toList with
  | none => .error (.noColon spec)
  | some (slot, driver) =>
    match Text.readNumber (Text.trim slot) with
    | .error e => .error (.badSlot spec e)
    | .ok slot => .ok { slot, driver := String.ofList (Text.trim driver) }

/-- Settings that take precedence over those of a configuration. -/
structure Overrides where
  serialPort : Option String := none
  logLevel : Option String := none
  tracePackets : Bool := false
  overloads : List String := []
  deriving DecidableEq, Repr

inductive OverrideError where
  | overload (error : OverloadError)
  | config (error : ConfigError)
  deriving DecidableEq, Repr

namespace Config

/-- The configuration with an assignment in place of those for the same slot. -/
def assign (c : Config) (o : Overload) : Config :=
  { c with overloads := c.overloads.filter (fun p => p.slot ≠ o.slot) ++ [o] }

/-- The configuration with one assignment after the other. -/
def assignAll (c : Config) : List String → Except OverloadError Config
  | [] => .ok c
  | spec :: specs =>
    match Overload.ofSpec spec with
    | .error e => .error e
    | .ok o => (c.assign o).assignAll specs

/-- The configuration with all overrides, unchecked. -/
def merge (c : Config) (o : Overrides) : Except OverloadError Config :=
  { c with
    serialPort := o.serialPort.getD c.serialPort
    logLevel := o.logLevel.getD c.logLevel
    tracePackets := o.tracePackets || c.tracePackets }.assignAll o.overloads

def override (c : Config) (o : Overrides) : Except OverrideError Config :=
  match c.merge o with
  | .error e => .error (.overload e)
  | .ok c => (c.validate.map fun () => c).mapError OverrideError.config

end Config

end BoardLink
