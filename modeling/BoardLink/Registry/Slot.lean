import BoardLink.Packet
import BoardLink.Resource

/-!
# Driver slots

A slot holds one instance of a driver, of any type `D`, with its name, its resources and the core
it was bound to last.
-/

namespace BoardLink

/-- An instance of a driver. -/
structure Slot (D : Type) where
  id : SlotId
  name : String
  description : String := ""
  /-- The name under which the driver was asked for. -/
  driverName : String
  core : Option CoreId := none
  resources : List Resource := []
  maxResources : Nat
  /-- The driver, unless it is away for a callback or was never found. -/
  driver : Option D := none
  deriving DecidableEq, Repr

namespace Slot

variable {D : Type}

def fresh (id : SlotId) (driverName : String) (maxResources : Nat) : Slot D :=
  { id, name := driverName, driverName, maxResources }

def hasDriver (s : Slot D) : Bool := s.driver.isSome

def resource? (s : Slot D) (i : Nat) : Option Resource := s.resources[i]?

def resourceIndex (s : Slot D) (name : String) : Option Nat :=
  s.resources.findIdx? fun r => r.name = name

/-- One more resource, if there is room, and its number. -/
def addResource (s : Slot D) (resource : Resource) : Except RegistryError (Nat × Slot D) :=
  if s.resources.length < s.maxResources then
    .ok (s.resources.length, { s with resources := s.resources ++ [resource] })
  else .error (.resourceTableFull s.id.toNat)

def setResource (s : Slot D) (i : Nat) (r : Resource) : Slot D :=
  { s with resources := s.resources.set i r }

/-- The sessions that hold a lock, in the order of the resources. -/
def holders (s : Slot D) : List SessionId := s.resources.filterMap Resource.lock

/-- The slot as others see it: only whether there is a driver. -/
def outline (s : Slot D) : Slot Unit := { s with driver := s.driver.map fun _ => () }

end Slot

end BoardLink
