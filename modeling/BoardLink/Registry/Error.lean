import BoardLink.Identifiers
import BoardLink.Text.Quoted

/-!
# Errors of the registry
-/

namespace BoardLink

/-- What can be wrong with a request to the registry of cores, slots and resources. -/
inductive RegistryError where
  | slotPoolExhausted (slots : Nat)
  | unknownSlot (slot : Nat)
  | unknownResource (slot : Nat) (name : String)
  | resourceTableFull (slot : Nat)
  | resourceBusy (name : String) (session : SessionId)
  | notReadable (name : String)
  | notWritable (name : String)
  | notBroadcastable (name : String)
  | coreAlreadyBound (core : Nat)
  | noCore (slot : Nat)
  | noDriver (slot : Nat)
  | badValue (name value : String)
  deriving DecidableEq, Repr

open Text in
def RegistryError.message : RegistryError → String
  | .slotPoolExhausted n => s!"no free driver slot (pool of {n})"
  | .unknownSlot n => s!"slot {n} is not in use"
  | .unknownResource n name => s!"slot {n} has no resource {quoted name}"
  | .resourceTableFull n => s!"slot {n} has no room for another resource"
  | .resourceBusy name session =>
    s!"resource {quoted name} is busy with a request from session {session.number.toNat}"
  | .notReadable name => s!"resource {quoted name} is not readable"
  | .notWritable name => s!"resource {quoted name} is not writable"
  | .notBroadcastable name => s!"resource {quoted name} does not broadcast"
  | .coreAlreadyBound n => s!"core {n} is already bound to a driver"
  | .noCore n => s!"slot {n} has no core"
  | .noDriver n => s!"slot {n} has no driver loaded"
  | .badValue name value => s!"invalid value {quoted value} for resource {quoted name}"

end BoardLink
