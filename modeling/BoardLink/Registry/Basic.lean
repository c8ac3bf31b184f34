import BoardLink.Registry.Slot

/-!
# The registry

Two tables that refer to each other: the sixteen cores of the board, each with the driver number the
board reports and the slot bound to it, and a pool of driver slots. A slot that is used again is
overwritten, and its generation then moves on.
-/

namespace BoardLink

structure Core where
  /-- The number of the driver that the board asks for; zero for none. -/
  driverId : UInt16 := 0
  slot : Option SlotId := none
  deriving DecidableEq, Repr

namespace Registry

/-- A place in the pool of slots. -/
structure Place (D : Type) where
  /-- How often a slot was put here. -/
  generation : UInt32 := 0
  slot : Option (Slot D) := none
  deriving DecidableEq, Repr

end Registry

/-- The cores and the driver slots. -/
structure Registry (D : Type) where
  cores : Vector Core coreCount
  places : Array (Registry.Place D)
  maxResources : Nat
  deriving DecidableEq

namespace Registry

variable {D : Type}

def empty (maxSlots maxResources : Nat) : Registry D where
  cores := Vector.replicate coreCount {}
  places := Array.replicate maxSlots {}
  maxResources

/-! ### Reading -/

def core (r : Registry D) (c : CoreId) : Core := r.cores[c]

def driverIds (r : Registry D) : List UInt16 := r.cores.toList.map Core.driverId

def maxSlots (r : Registry D) : Nat := r.places.size

/-- The slot of an identifier, if it is in use. -/
def slot? (r : Registry D) (id : SlotId) : Option (Slot D) :=
  match r.places[id.toNat]? with
  | some place => place.slot
  | none => none

def generation? (r : Registry D) (id : SlotId) : Option UInt32 :=
  r.places[id.toNat]?.map Place.generation

def resource? (r : Registry D) (id : SlotId) (i : Nat) : Option Resource :=
  (r.slot? id).bind fun s => s.resource? i

/-- The slots in use, in order. -/
def slots (r : Registry D) : List (Slot D) := r.places.toList.filterMap Place.slot

def findSlot (r : Registry D) (name : String) : Option SlotId :=
  (r.slots.find? fun s => s.name = name).map Slot.id

/-- The slot whose driver gets the packets of a core: the one bound to it, if it holds a driver. -/
def route (r : Registry D) (c : CoreId) : Option SlotId :=
  match (r.core c).slot with
  | none => none
  | some id =>
    match r.slot? id with
    | some s => if s.hasDriver then some id else none
    | none => none

/-- The registry as drivers see it: of the other drivers only whether they are there. -/
def outline (r : Registry D) : Registry Unit where
  cores := r.cores
  places := r.places.map fun p => { generation := p.generation, slot := p.slot.map Slot.outline }
  maxResources := r.maxResources

/-! ### Writing -/

def setCore (r : Registry D) (c : CoreId) (core : Core) : Registry D :=
  { r with cores := r.cores.set c core }

def setDriverId (r : Registry D) (c : CoreId) (id : UInt16) : Registry D :=
  r.setCore c { r.core c with driverId := id }

def setCoreSlot (r : Registry D) (c : CoreId) (slot : Option SlotId) : Registry D :=
  r.setCore c { r.core c with slot }

def setSlot (r : Registry D) (id : SlotId) (s : Slot D) : Registry D :=
  { r with places := r.places.modify id.toNat fun p => { p with slot := some s } }

/-- The slot of an identifier, which must be in use. -/
def getSlot (r : Registry D) (id : SlotId) : Except RegistryError (Slot D) :=
  match r.slot? id with
  | some s => .ok s
  | none => .error (.unknownSlot id.toNat)

def setResource (r : Registry D) (id : SlotId) (i : Nat) (resource : Resource) : Registry D :=
  match r.slot? id with
  | some s => r.setSlot id (s.setResource i resource)
  | none => r

/-! ### Cores and slots -/

/-- Binds a core to a slot in use. The same pair again is no change, and a core of another slot is
refused. -/
def bindCore (r : Registry D) (c : CoreId) (id : SlotId) : Except RegistryError (Registry D) :=
  match (r.core c).slot with
  | some bound => if bound = id then .ok r else .error (.coreAlreadyBound c.val)
  | none =>
    match r.slot? id with
    | none => .error (.unknownSlot id.toNat)
    | some s => .ok ((r.setSlot id { s with core := some c }).setCoreSlot c (some id))

/-- Takes a core from a slot and says whether the slot had it. -/
def releaseCore (r : Registry D) (c : CoreId) (id : SlotId) : Bool × Registry D :=
  if (r.core c).slot = some id then
    let r := r.setCoreSlot c none
    match r.slot? id with
    | some s => (true, r.setSlot id { s with core := none })
    | none => (true, r)
  else (false, r)

/-- Puts a fresh instance in a place of the pool. The core that the instance before it was bound to
last is free then. -/
def install (r : Registry D) (id : SlotId) (driverName : String) :
    Except RegistryError (Registry D) :=
  match r.places[id.toNat]? with
  | none => .error (.unknownSlot id.toNat)
  | some place =>
    let r :=
      -- a core that names this place without being named by it keeps its binding
      match place.slot.bind Slot.core with
      | some c => r.setCoreSlot c none
      | none => r
    .ok { r with
      places := r.places.modify id.toNat fun p =>
        { generation := p.generation + 1, slot := some (.fresh id driverName r.maxResources) } }

/-- Puts a fresh instance in the first free place. -/
def allocate (r : Registry D) (driverName : String) : Except RegistryError (SlotId × Registry D) :=
  match r.places.findIdx? fun p => p.slot.isNone with
  | none => .error (.slotPoolExhausted r.maxSlots)
  -- a place past 65535 is known by the number of an earlier one
  | some i => (r.install (.ofNat i) driverName).map fun r => (.ofNat i, r)

/-! ### Drivers -/

def setDriver (r : Registry D) (id : SlotId) (driver : D) : Except RegistryError (Registry D) :=
  (r.getSlot id).map fun s => r.setSlot id { s with driver := some driver }

/-- Takes the driver out of its slot for a callback, together with the slot's generation. -/
def takeDriver (r : Registry D) (id : SlotId) : Option (D × UInt32 × Registry D) :=
  match r.places[id.toNat]? with
  | some { generation, slot := some s } =>
    match s.driver with
    | some driver => some (driver, generation, r.setSlot id { s with driver := none })
    | none => none
  | _ => none

/-- Puts a driver back after its callback. If the slot is in another generation by now, or holds a
driver, the driver is dropped. -/
def restoreDriver (r : Registry D) (id : SlotId) (driver : D) (generation : UInt32) : Registry D :=
  match r.places[id.toNat]? with
  | some { generation := current, slot := some s } =>
    -- a driver found there stays, whatever the generation
    if current = generation ∧ !s.hasDriver then r.setSlot id { s with driver := some driver } else r
  | _ => r

end Registry

end BoardLink
