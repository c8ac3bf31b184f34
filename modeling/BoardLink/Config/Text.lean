import BoardLink.Config.Basic
import BoardLink.Toml.Document

/-!
# Configurations as text

A configuration is written as a TOML document, one key per setting and one table per assignment.
Settings that are missing have their default, and keys that are unknown are skipped.
-/

namespace BoardLink

open Toml (Value)

/-- An assignment: a table with a slot and a driver, or an array that begins with the two. -/
def Overload.ofValue : Value → Option Overload
  | .table entries => do
    let slot ← (← entries.lookup "slot").nat?
    let driver ← (← entries.lookup "driver").string?
    return { slot, driver }
  | .array (slot :: driver :: _) => do
    return { slot := ← slot.nat?, driver := ← driver.string? }
  | _ => none

namespace Config

/-! ### Reading -/

/-- A setting of a table, or its default. -/
def setting {α : Type} (entries : List (String × Value)) (key : String) (read : Value → Option α)
    (default : α) : Option α :=
  match entries.lookup key with
  -- only a missing key has its default; one of the wrong type spoils the document
  | none => some default
  | some v => read v

def ofEntries (entries : List (String × Value)) : Option Config := do
  let d : Config := {}
  return {
    serialPort := ← setting entries "serial_port" Value.string? d.serialPort
    bufferSize := ← setting entries "rx_buffer_size" Value.nat? d.bufferSize
    maxSlots := ← setting entries "max_slots" Value.nat? d.maxSlots
    maxResources := ← setting entries "max_resources" Value.nat? d.maxResources
    maxTimers := ← setting entries "max_timers" Value.nat? d.maxTimers
    ackTimeout := ← setting entries "ack_timeout_ms" Value.nat? d.ackTimeout
    logLevel := ← setting entries "log_level" Value.string? d.logLevel
    tracePackets := ← setting entries "trace_packets" Value.bool? d.tracePackets
    overloads := ← setting entries "overload"
      (fun v => do (← v.array?).mapM Overload.ofValue) d.overloads }

def ofText (text : String) : Except ConfigError Config :=
  match (Toml.parse text).bind ofEntries with
  | none => .error .toml
  | some c => c.validate.map fun () => c

/-! ### Writing -/

def line (key value : String) : String := key ++ " = " ++ value ++ "\n"

/-- A number, which must be an integer of the document format. -/
def writeNat (n : Nat) : Except ConfigError String :=
  if n ≤ Toml.largestInteger then .ok (toString n) else .error (.invalid "out-of-range value for u64 type")

/-- A table for each assignment, or an empty array. -/
def writeOverloads : List Overload → Except ConfigError String
  | [] => .ok (line "overload" "[]")
  | os => do
    let tables ← os.mapM fun o => do
      return "\n[[overload]]\n" ++ line "slot" (← writeNat o.slot) ++
        line "driver" (Toml.writeString o.driver)
    return String.join tables

def toText (c : Config) : Except ConfigError String := do
  return line "serial_port" (Toml.writeString c.serialPort) ++
    line "rx_buffer_size" (← writeNat c.bufferSize) ++
    line "max_slots" (← writeNat c.maxSlots) ++
    line "max_resources" (← writeNat c.maxResources) ++
    line "max_timers" (← writeNat c.maxTimers) ++
    line "ack_timeout_ms" (← writeNat c.ackTimeout) ++
    line "log_level" (Toml.writeString c.logLevel) ++
    line "trace_packets" (if c.tracePackets then "true" else "false") ++
    (← writeOverloads c.overloads)

end Config

end BoardLink
