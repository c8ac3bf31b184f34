import BoardLink.Registry.Basic

/-!
# Commands to the registry

All that one can ask of a registry from outside, as data, and what is answered.
-/

namespace BoardLink.Registry

inductive Command (D : Type) where
  | allocate (driverName : String)
  | install (slot : SlotId) (driverName : String)
  | bind (core : CoreId) (slot : SlotId)
  | release (core : CoreId) (slot : SlotId)
  | route (core : CoreId)
  | core (core : CoreId)
  | setDriverId (core : CoreId) (id : UInt16)
  | driverIds
  | setDriver (slot : SlotId) (driver : D)
  | find (name : String)
  | maxSlots
  | addResource (slot : SlotId) (resource : Resource)
  | identity (slot : SlotId) (name description : String)
  | resourceIndex (slot : SlotId) (name : String)
  | lock (slot : SlotId) (resource : Nat) (session : SessionId)
  | unlock (slot : SlotId) (resource : Nat)
  | subscribe (slot : SlotId) (resource : Nat) (handle : Handle)
  | unsubscribe (slot : SlotId) (resource : Nat)

inductive Answer where
  | done
  | flag (b : Bool)
  | number (n : Nat)
  | index (i : Option Nat)
  | slot (s : Option SlotId)
  | installed (s : SlotId)
  | core (c : CoreId) (known : Core)
  | driverIds (ids : List UInt16)
  | session (s : Option SessionId)
  | handle (h : Option Handle)
  /-- The slot is in use but has no resource of that number. -/
  | noResource
  deriving DecidableEq

variable {D E : Type}

def Command.map (f : D → E) : Command D → Command E
  | .allocate name => .allocate name
  | .install slot name => .install slot name
  | .bind c slot => .bind c slot
  | .release c slot => .release c slot
  | .route c => .route c
  | .core c => .core c
  | .setDriverId c id => .setDriverId c id
  | .driverIds => .driverIds
  | .setDriver slot driver => .setDriver slot (f driver)
  | .find name => .find name
  | .maxSlots => .maxSlots
  | .addResource slot resource => .addResource slot resource
  | .identity slot name description => .identity slot name description
  | .resourceIndex slot name => .resourceIndex slot name
  | .lock slot resource session => .lock slot resource session
  | .unlock slot resource => .unlock slot resource
  | .subscribe slot resource handle => .subscribe slot resource handle
  | .unsubscribe slot resource => .unsubscribe slot resource

/-- Does `f` to a resource of a slot in use, if there is one of that number. -/
def onResource (r : Registry D) (slot : SlotId) (i : Nat)
    (f : Resource → Except RegistryError (Answer × Resource)) :
    Except RegistryError (Answer × Registry D) := do
  let s ← r.getSlot slot
  match s.resource? i with
  -- a missing resource is an answer, only a missing slot is an error
  | none => return (.noResource, r)
  | some resource =>
    let (answer, resource) ← f resource
    return (answer, r.setSlot slot (s.setResource i resource))

/-- Carries out a command. A command that fails changes nothing. -/
def perform (r : Registry D) : Command D → Except RegistryError (Answer × Registry D)
  | .allocate name => (r.allocate name).map fun (slot, r) => (.slot (some slot), r)
  | .install slot name => (r.install slot name).map fun r => (.installed slot, r)
  | .bind c slot => (r.bindCore c slot).map fun r => (.done, r)
  | .release c slot => let (held, r) := r.releaseCore c slot; .ok (.flag held, r)
  | .route c => .ok (.slot (r.route c), r)
  | .core c => .ok (.core c (r.core c), r)
  | .setDriverId c id => .ok (.done, r.setDriverId c id)
  | .driverIds => .ok (.driverIds r.driverIds, r)
  | .setDriver slot driver => (r.setDriver slot driver).map fun r => (.done, r)
  | .find name => .ok (.slot (r.findSlot name), r)
  | .maxSlots => .ok (.number r.maxSlots, r)
  | .addResource slot resource => do
    let (i, s) ← (← r.getSlot slot).addResource resource
    return (.number i, r.setSlot slot s)
  | .identity slot name description => do
    let s ← r.getSlot slot
    return (.done, r.setSlot slot { s with name, description })
  | .resourceIndex slot name => .ok (.index ((r.slot? slot).bind (·.resourceIndex name)), r)
  | .lock slot i session => r.onResource slot i fun resource => do
    return (.done, ← resource.tryLock session)
  | .unlock slot i => r.onResource slot i fun resource =>
    .ok (.session resource.lock, resource.unlock)
  | .subscribe slot i handle => r.onResource slot i fun resource => do
    return (.done, ← resource.subscribe handle)
  | .unsubscribe slot i => r.onResource slot i fun resource =>
    .ok (.handle resource.broadcast, resource.unsubscribe)

end BoardLink.Registry
