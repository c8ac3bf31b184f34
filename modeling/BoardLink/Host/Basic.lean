import BoardLink.Driver.Enumerator
import BoardLink.Driver.Factory
import BoardLink.Host.Journal

/-!
# The host of the drivers

The host holds what drivers work on: the registry, the timers, the link and the outbox for the
users. It carries out the operations of a driver's program one by one and calls drivers. A driver is
taken out of its slot for the time of a call. Slots that are filled during a call are initialised
after it, and what those initialisations fill comes before the rest.
-/

namespace BoardLink

/-- A driver in a slot, with a number that no other driver of the same host ever has. -/
structure Instance (P : Type) where
  serial : Nat
  driver : Occupant P

/-- What drivers work on. -/
structure Host (L P : Type) where
  registry : Registry (Instance P)
  timers : TimerTable
  transmitter : Transmitter L
  outbox : Outbox := {}
  journal : Journal := []
  nextSerial : Nat := 0

namespace Host

/-- What stays the same throughout a call from outside. -/
structure Setting (P : Type) where
  factory : Factory P
  ackTimeout : Nat
  now : Nat

def noAck : String :=
  "ERROR 101 : Missing ACK from the FPGA card. Is link overloaded?\n"

variable {L P : Type}

def record (h : Host L P) (e : Entry) : Host L P := { h with journal := h.journal ++ [e] }

def setResource (h : Host L P) (slot : SlotId) (i : Nat) (r : Resource) : Host L P :=
  { h with registry := h.registry.setResource slot i r }

def getResource (h : Host L P) (slot : SlotId) (i : Nat) : Except RegistryError Resource := do
  match (← h.registry.getSlot slot).resource? i with
  | some r => return r
  | none => .error (.unknownResource slot.toNat s!"#{i}")

/-! ### Waiting for an answer of the board -/

/-- Locks a resource for a session and arms the timer that ends the wait. If no timer can be armed,
the resource is not locked. -/
def armReply (h : Host L P) (slot : SlotId) (i : Nat) (session : SessionId)
    (timeout token now : Nat) : Except Error Unit × Host L P :=
  match h.getResource slot i with
  | .error e => (.error (.registry e), h)
  | .ok r =>
    match r.tryLock session with
    | .error e => (.error (.registry e), h)
    | .ok r =>
      match h.timers.add .oneShot timeout slot token now with
      | .error e => (.error (.timer e), h)
      | .ok (id, timers) =>
        (.ok (),
          (({ h with timers }.setResource slot i { r with pendingTimer := some id }).record
            (.armed id slot)).record (.locked slot i session))

/-- Tells an answer to the session that waits for it and ends the wait. -/
def completeReply (h : Host L P) (slot : SlotId) (i : Nat) (text : String) :
    Option SessionId × Host L P :=
  match h.getResource slot i with
  | .error _ => (none, h)
  | .ok r =>
    let h := h.setResource slot i r.settle
    let h :=
      match r.pendingTimer with
      | some id => { h with timers := (h.timers.cancel id).2 }
      | none => h
    match r.lock with
    | none => (none, h)
    | some session =>
      (some session,
        { h with outbox := h.outbox.answer session text }.record (.answered slot i session))

/-- Ends the wait of a session whose request failed. -/
def abandonReply (h : Host L P) (slot : SlotId) (i : Nat) (session : SessionId) : Host L P :=
  match h.registry.resource? slot i with
  | none => h
  | some r =>
    if r.lock = some session then
      let h := (h.setResource slot i r.settle).record (.abandoned slot i session)
      match r.pendingTimer with
      | some id => { h with timers := (h.timers.cancel id).2 }
      | none => h
    else h

/-- Ends every wait that a timer guards: the locks go, and the sessions are told. -/
def expireReplies (h : Host L P) (owner : SlotId) (id : TimerId) : Host L P :=
  match h.registry.slot? owner with
  | none => h
  | some s =>
    let guarded := s.resources.zipIdx.filter fun (r, _) => r.pendingTimer = some id
    let waiting := guarded.filterMap fun (r, i) => r.lock.map fun session => (i, session)
    let resources := s.resources.map fun r => if r.pendingTimer = some id then r.settle else r
    let stats := h.transmitter.stats
    { h with
      registry := h.registry.setSlot owner { s with resources }
      outbox := waiting.foldl (fun o (_, session) => o.answer session noAck) h.outbox
      transmitter := { h.transmitter with
        stats := { stats with missingAcks := stats.missingAcks + guarded.length } }
      journal := h.journal ++ waiting.map fun (i, session) => .expired owner i session }

/-! ### Filling slots -/

def holders (h : Host L P) (slot : SlotId) : List SessionId :=
  match h.registry.slot? slot with
  | some s => s.holders
  | none => []

/-- A fresh occupant for a slot, without its driver. -/
def installFresh (h : Host L P) (slot : SlotId) (name : String) :
    Except RegistryError (Host L P) :=
  (h.registry.install slot name).map fun registry =>
    { h with registry }.record (.installed slot (h.holders slot))

def setDriver (h : Host L P) (slot : SlotId) (driver : Occupant P) :
    Except RegistryError (Host L P) :=
  (h.registry.setDriver slot { serial := h.nextSerial, driver }).map fun registry =>
    { h with registry, nextSerial := h.nextSerial + 1 }.record (.created h.nextSerial slot)

def dropTimers (h : Host L P) (slot : SlotId) : Host L P :=
  if (h.registry.slot? slot).isSome then
    { h with timers := (h.timers.cancelOwner slot).2 }
  else h

/-- Takes a core from the slot that has it, unless that is `slot` itself. -/
def freeCore (h : Host L P) (slot : SlotId) (core : CoreId) : Host L P :=
  match (h.registry.core core).slot with
  | none => h
  | some owner =>
    -- its own core is left to the installation that follows
    if owner = slot then h else { h with registry := (h.registry.releaseCore core owner).2 }

/-- Makes room in a slot: the timers of the occupant before are cancelled, and the core is taken
from the slot that has it. -/
def vacate (h : Host L P) (slot : SlotId) (core : Option CoreId) : Host L P :=
  match core with
  | some c => (h.dropTimers slot).freeCore slot c
  | none => h.dropTimers slot

def bindTo (h : Host L P) (slot : SlotId) (core : Option CoreId) :
    Except RegistryError (Host L P) :=
  match core with
  | some c => (h.registry.bindCore c slot).map fun registry => { h with registry }
  | none => .ok h

/-- Gives a slot in use the driver of a name. If no driver has that name, the slot stays without. -/
def loadDriver (h : Host L P) (factory : Factory P) (slot : SlotId) (name : String) :
    Except RegistryError (Host L P) :=
  match factory.create name with
  | some driver => h.setDriver slot driver
  | none => .ok h

/-- Puts a new instance of a driver into a slot with room for it and binds it to a core. What was
done before a step fails stays done. -/
def fill (h : Host L P) (factory : Factory P) (slot : SlotId) (name : String)
    (core : Option CoreId) : Except RegistryError Unit × Host L P :=
  match h.installFresh slot name with
  | .error e => (.error e, h)
  | .ok h =>
    match h.bindTo slot core with
    | .error e => (.error e, h)
    | .ok h =>
      match h.loadDriver factory slot name with
      | .error e => (.error e, h)
      | .ok h => (.ok (), h)

/-- Puts a new instance of a driver into a slot and binds it to a core. The timers of the occupant
before it are cancelled, and the core is taken from the slot that had it. If no driver has that
name, the slot stays without. -/
def installDriver (h : Host L P) (factory : Factory P) (slot : SlotId) (name : String)
    (core : Option CoreId) : Except RegistryError Unit × Host L P :=
  (h.vacate slot core).fill factory slot name core

/-! ### Operations -/

def commandEntries (h : Host L P) :
    Registry.Command (Occupant P) → Registry.Answer → List Entry
  | .allocate _, .slot (some slot) => [.installed slot (h.holders slot)]
  | .install slot _, _ => [.installed slot (h.holders slot)]
  | .setDriver slot _, _ => [.created h.nextSerial slot]
  | _, _ => []

def command (h : Host L P) (c : Registry.Command (Occupant P)) :
    Except RegistryError Registry.Answer × Host L P :=
  match h.registry.perform (c.map fun driver => { serial := h.nextSerial, driver }) with
  | .error e => (.error e, h)
  | .ok (answer, registry) =>
    (.ok answer,
      { h with
        registry
        -- a serial is spent on every command, so that none is given twice
        nextSerial := h.nextSerial + 1
        journal := h.journal ++ h.commandEntries c answer })

/-- A change of a driver's own slot. -/
def onSlot {α : Type} (h : Host L P) (slot : SlotId)
    (f : Slot (Instance P) → Except RegistryError (α × Slot (Instance P))) :
    Except RegistryError α × Host L P :=
  match h.registry.getSlot slot with
  | .error e => (.error e, h)
  | .ok s =>
    match f s with
    | .error e => (.error e, h)
    | .ok (a, s) => (.ok a, { h with registry := h.registry.setSlot slot s })

/-- A text for those who subscribed to a resource. When nobody listens any more, the subscription
ends. -/
def broadcast (h : Host L P) (slot : SlotId) (i : Nat) (text : String) :
    Option BroadcastStatus × Host L P :=
  match h.registry.resource? slot i with
  | none => (none, h)
  | some r =>
    match r.broadcast with
    | none => (none, h)
    | some handle =>
      let (status, outbox) := h.outbox.broadcast handle text
      let h := { h with outbox }
      (some status, if status = .cleared then h.setResource slot i r.unsubscribe else h)

variable [Link L]

def sendTo (h : Host L P) (core : CoreId) (packet : Packet) : Except TxError Unit × Host L P :=
  let (result, transmitter) := h.transmitter.send core packet
  (result, { h with transmitter })

def send (h : Host L P) (slot : SlotId) (packet : Packet) : Except Error Unit × Host L P :=
  match (h.registry.slot? slot).bind Slot.core with
  | none => (.error (.registry (.noCore slot.toNat)), h)
  | some core =>
    let (result, h) := h.sendTo core packet
    (result.mapError Error.tx, h)

/-- Carries out one operation of the driver in `slot`. -/
def perform (h : Host L P) (setting : Setting P) (slot : SlotId) :
    (op : Op P) → op.Result × Host L P
  | .view =>
    ({ slot, registry := h.registry.outline, now := setting.now, ackTimeout := setting.ackTimeout }, h)
  | .setIdentity name description =>
    h.onSlot slot fun s => .ok ((), { s with name, description })
  | .addResource resource => h.onSlot slot fun s => s.addResource resource
  | .bindCore core =>
    match h.registry.bindCore core slot with
    | .error e => (.error e, h)
    | .ok registry => (.ok (), { h with registry })
  | .send packet => h.send slot packet
  | .sendTo core packet => h.sendTo core packet
  | .addTimer kind period token =>
    match h.timers.add kind period slot token setting.now with
    | .error e => (.error e, h)
    | .ok (id, timers) => (.ok id, { h with timers }.record (.armed id slot))
  | .cancelTimer id =>
    let (found, timers) := h.timers.cancel id
    (found, { h with timers })
  | .say session text => ((), { h with outbox := h.outbox.send session text })
  | .prompt session => ((), { h with outbox := h.outbox.prompt session })
  | .awaitReply resource session token =>
    h.armReply slot resource session setting.ackTimeout token setting.now
  | .completeReply resource text => h.completeReply slot resource text
  | .broadcast resource text => h.broadcast slot resource text
  | .installDriver target name core => h.installDriver setting.factory target name core
  | .registry command => h.command command
  | .note n => ((), h.record (.noted n))

/-- The slots that an operation leaves to be initialised. -/
def spawned : (op : Op P) → op.Result → List SlotId
  | .installDriver slot _ _, .ok () => [slot]
  | _, _ => []

/-! ### Calls -/

/-- Runs a program of the driver in `slot` and tells which slots are to be initialised. -/
def run {α : Type} (setting : Setting P) (slot : SlotId) :
    Program P α → Host L P → α × Host L P × List SlotId
  | .done a, h => (a, h, [])
  | .step op next, h =>
    let (r, h) := h.perform setting slot op
    let (a, h, slots) := run setting slot (next r) h
    (a, h, spawned op r ++ slots)

variable [Driver P]

/-- Calls the driver in a slot, if there is one. It is away from its slot until it has answered. -/
def call (h : Host L P) (setting : Setting P) (slot : SlotId) (c : Callback) :
    Option (c.Result × Host L P × List SlotId) :=
  match h.registry.takeDriver slot with
  | none => none
  | some (inst, generation, registry) =>
    let h := { h with registry }.record (.called slot inst.serial c)
    let ((result, driver), h, slots) := run setting slot (inst.driver.respond c) h
    -- a slot that was filled again during the call keeps its new occupant
    let registry := h.registry.restoreDriver slot { inst with driver } generation
    some (result, { h with registry }, slots)

/-- Initialises slots in order, each followed by the slots that it fills in turn. A list that is not
through after `limit` slots is taken never to end. -/
def initialise (setting : Setting P) : (limit : Nat) → List SlotId → Host L P → Option (Host L P)
  | _, [], h => some h
  | 0, _ :: _, _ => none
  | limit + 1, slot :: rest, h =>
    match h.call setting slot .init with
    | none => initialise setting limit rest h
    | some (_, h, slots) => initialise setting limit (slots ++ rest) h

end Host

end BoardLink
