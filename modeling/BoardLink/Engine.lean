import BoardLink.Frame.Buffer
import BoardLink.Frame.Validation
import BoardLink.Host.Basic

/-!
# The engine

The engine ties the link, the decoder and the host together. It owns no loop: whoever does calls it
when the link can be read, when a timer is due and when a user asks for something. No call waits.
A call that never ends, because drivers go on filling slots or the link goes on being interrupted,
has no value.
-/

namespace BoardLink

inductive RouteStatus where
  | delivered (slot : SlotId)
  /-- No slot has a driver for the core. -/
  | unrouted (core : CoreId)
  | rejected (error : PacketError)
  deriving DecidableEq, Repr

structure EngineOptions where
  bufferSize : Nat
  maxSlots : Nat
  maxResources : Nat
  maxTimers : Nat
  ackTimeout : Nat
  tracePackets : Bool
  overloads : Overloads
  deriving DecidableEq, Repr

structure Engine (L P : Type) where
  host : Host L P
  buffer : ReceiveBuffer
  decoder : Decoder := {}
  factory : Factory P
  /-- Assignments for the enumerator, until it is started. -/
  overloads : Overloads
  ackTimeout : Nat
  /-- The most initialisations that one call of a driver may lead to. -/
  initLimit : Nat := 1000000
  /-- Packets and frames shown on the trace, and not yet taken. -/
  dumps : List Dump := []

namespace Engine

variable {L P : Type} [Link L]

def create (options : EngineOptions) (link : L) (factory : Factory P) : Engine L P where
  host := {
    registry := .empty options.maxSlots options.maxResources
    timers := .empty options.maxTimers
    transmitter := .ofLink link options.tracePackets }
  buffer := .empty options.bufferSize
  factory
  overloads := options.overloads
  ackTimeout := options.ackTimeout

def setting (e : Engine L P) (now : Nat) : Host.Setting P :=
  { factory := e.factory, ackTimeout := e.ackTimeout, now }

/-- The counters of the link, those of the decoder among them. -/
def stats (e : Engine L P) : LinkStats Nat :=
  { e.host.transmitter.stats with
    framesDecoded := e.decoder.stats.frames
    protocolViolations := e.decoder.stats.violations }

def nextDeadline (e : Engine L P) : Option Nat := e.host.timers.nextDeadline

def timeUntilNext (e : Engine L P) (now : Nat) : Option Nat := e.host.timers.timeUntilNext now

def mapStats (e : Engine L P) (f : LinkStats Nat → LinkStats Nat) : Engine L P :=
  let t := e.host.transmitter
  { e with host := { e.host with transmitter := { t with stats := f t.stats } } }

def dump (e : Engine L P) (d : Dump) : Engine L P := { e with dumps := e.dumps ++ [d] }

/-- Another host, from which the packets it showed are taken over. -/
def withHost (e : Engine L P) (host : Host L P) : Engine L P :=
  { e with
    host := { host with transmitter := { host.transmitter with dumps := [] } }
    dumps := e.dumps ++ host.transmitter.dumps }

variable [Driver P]

/-! ### Calling drivers -/

/-- Initialises slots, each followed by the slots that it fills. -/
def initialise (e : Engine L P) (now : Nat) (slots : List SlotId) : Option (Engine L P) :=
  (Host.initialise (e.setting now) e.initLimit slots e.host).map e.withHost

/-- Calls the driver in a slot and then initialises the slots that it filled. The result is missing
when the slot has no driver. -/
def call (e : Engine L P) (now : Nat) (slot : SlotId) (c : Callback) :
    Option (Option c.Result × Engine L P) :=
  match e.host.call (e.setting now) slot c with
  | none => some (none, e)
  | some (result, host, slots) =>
    ((e.withHost host).initialise now slots).map fun e => (some result, e)

/-- Puts the enumerator into its slot and lets it ask the board for its table. -/
def start (e : Engine L P) (now : Nat) : Option (Except Error Unit × Engine L P) :=
  -- an occupant of the slot is overwritten, and its timers stay armed
  match e.host.installFresh .enumerator Enumerator.name with
  | .error err => some (.error (.registry err), e)
  | .ok host =>
    let driver := .enumerator (.ofOverloads e.overloads)
    let e := { e with host, overloads := [] }
    match host.setDriver .enumerator driver with
    | .error err => some (.error (.registry err), e)
    | .ok host =>
      match { e with host }.call now .enumerator .init with
      | none => none
      | some (some result, e) => some (result, e)
      | some (none, e) => some (.error (.registry (.noDriver SlotId.enumerator.toNat)), e)

def install (e : Engine L P) (now : Nat) (slot : SlotId) (name : String) (core : Option CoreId) :
    Option (Except RegistryError Unit × Engine L P) :=
  match e.host.installDriver e.factory slot name core with
  | (.error err, host) => some (.error err, { e with host })
  | (.ok (), host) => (({ e with host }).initialise now [slot]).map fun e => (.ok (), e)

/-! ### Receiving -/

/-- Counts and shows a frame that fails a check. -/
def reject (e : Engine L P) (frame : Bytes) (err : PacketError) : RouteStatus × Engine L P :=
  let e := if e.host.transmitter.trace then e.dump (.rejected frame) else e
  (.rejected err, e.mapStats fun s => s.recordRejection err)

/-- Gives a packet to the driver of its core. -/
def route (e : Engine L P) (now : Nat) (core : CoreId) (packet : Packet) :
    Option (RouteStatus × Engine L P) :=
  let e := e.mapStats fun s => { s with packetsAccepted := s.packetsAccepted + 1 }
  match e.host.registry.route core with
  | none =>
    some (.unrouted core, e.mapStats fun s => { s with routingMisses := s.routingMisses + 1 })
  | some slot =>
    (e.call now slot (.packet packet)).map fun (_, e) =>
      (.delivered slot, e.mapStats fun s => { s with packetsRouted := s.packetsRouted + 1 })

/-- Checks a frame and gives its packet to the driver of its core. -/
def dispatch (e : Engine L P) (now : Nat) (frame : Bytes) : Option (RouteStatus × Engine L P) :=
  match Frame.validate frame with
  | .error err => some (e.reject frame err)
  | .ok accepted =>
    -- the frame is shown as accepted before its packet is taken apart
    let e := if e.host.transmitter.trace then e.dump (.accepted frame) else e
    match Packet.ofBytes accepted.packet with
    | .error err => some (e.reject frame err)
    | .ok packet => e.route now accepted.core packet

def dispatchAll (e : Engine L P) (now : Nat) :
    List Bytes → Option (List RouteStatus × Engine L P)
  | [] => some ([], e)
  | frame :: frames => do
    let (status, e) ← e.dispatch now frame
    let (statuses, e) ← e.dispatchAll now frames
    return (status :: statuses, e)

/-- Takes over what the decoder makes of some bytes. -/
def decoded (e : Engine L P) (now : Nat) (decoder : Decoder) (emissions : List Emission) :
    Option (List RouteStatus × Engine L P) :=
  let dumps := e.dumps ++ (Emission.discards emissions).map Dump.rejected
  { e with decoder, dumps }.dispatchAll now (Emission.frames emissions)

/-- Takes bytes as if they had been read from the link. -/
def feed (e : Engine L P) (now : Nat) (bytes : Bytes) : Option (List RouteStatus × Engine L P) :=
  let e := e.mapStats fun s => { s with bytesRead := s.bytesRead + bytes.length }
  let (decoder, emissions) := e.decoder.feed bytes
  e.decoded now decoder emissions

def drain (e : Engine L P) (now : Nat) : Option (Engine L P) :=
  let (buffer, decoder, emissions) := e.buffer.decode e.decoder
  ({ e with buffer }.decoded now decoder emissions).map Prod.snd

/-- One read from the link into the buffer. -/
def readLink (e : Engine L P) : Except IoError Nat × Engine L P :=
  let (link, outcome) := Link.read e.host.transmitter.link e.buffer.spare
  let written := outcome.toOption.getD []
  let reported := outcome.map List.length
  (reported,
    { e with
      host := { e.host with transmitter := { e.host.transmitter with link } }
      buffer := e.buffer.receive written reported })

/-- Reads and dispatches until nothing more is there, at most `reads` times, with `total` bytes read
so far. -/
def pollReads (now : Nat) : (reads : Nat) → (total : Nat) → Engine L P →
    Option (Except LinkError Nat × Engine L P)
  | 0, _, _ => none
  | reads + 1, total, e =>
    match e.readLink with
    | (.ok 0, e) => some (.error .closed, e)
    | (.ok n, e) => do
      let e := e.mapStats fun s => { s with bytesRead := s.bytesRead + n }
      pollReads now reads (total + n) (← e.drain now)
    | (.error err, e) =>
      if err.kind = .wouldBlock then some (.ok total, e)
      -- an interrupted read is no end of the link: it is tried again
      else if err.kind = .interrupted then pollReads now reads total e
      else some (.error (.io err), e)

/-- Reads and dispatches until nothing more is there, and tells how many bytes came. The end of the
input and any other error are fatal. -/
def pollLink (e : Engine L P) (now : Nat) : Option (Except LinkError Nat × Engine L P) :=
  pollReads now (Link.backlog e.host.transmitter.link + 1) 0 e

/-! ### Sending -/

/-- Sends a packet on nobody's behalf. -/
def send (e : Engine L P) (core : CoreId) (packet : Packet) : Except TxError Unit × Engine L P :=
  let (result, host) := e.host.sendTo core packet
  (result, e.withHost host)

/-! ### Timers -/

/-- Fires one timer if it still can: the waits it guards end, and its owner is called. -/
def fireTimer (e : Engine L P) (now : Nat) (id : TimerId) : Option (Bool × Engine L P) :=
  match e.host.timers.fire id now with
  | none => some (false, e)
  | some (expiry, timers) =>
    let host := { e.host with timers }.record (.fired id expiry.owner)
    -- the locks are gone before the owner is called, which may begin to wait anew
    let host := host.expireReplies expiry.owner id
    match { e with host }.call now expiry.owner (.timer expiry.token) with
    | none => none
    | some (_, e) => some (true, e)

def fireTimers (e : Engine L P) (now : Nat) : List TimerId → Option (Nat × Engine L P)
  | [] => some (0, e)
  | id :: ids => do
    let (fired, e) ← e.fireTimer now id
    let (n, e) ← e.fireTimers now ids
    return (n + fired.toNat, e)

/-- Fires every timer due at `now`. A timer that an earlier one of them led to be cancelled does not
fire. -/
def pollTimers (e : Engine L P) (now : Nat) : Option (Nat × Engine L P) :=
  e.fireTimers now (e.host.timers.due now)

/-! ### Users -/

def findResource (e : Engine L P) (slot : SlotId) (name : String) :
    Except RegistryError (Nat × Resource) := do
  let s ← e.host.registry.getSlot slot
  match s.resourceIndex name with
  | none => .error (.unknownResource slot.toNat name)
  | some i =>
    match s.resource? i with
    | none => .error (.unknownResource slot.toNat name)
    | some r => return (i, r)

def screen (name : String) (r : Resource) (request : Request) : Except RegistryError Unit :=
  match request with
  | .get => if r.isReadable then free else .error (.notReadable name)
  | .set _ => if r.isWritable then free else .error (.notWritable name)
where
  free : Except RegistryError Unit :=
    match r.lock with
    | some holder => .error (.resourceBusy name holder)
    | none => .ok ()

/-- What follows from the driver's answer to a request. -/
def settle (e : Engine L P) (now : Nat) (slot : SlotId) (i : Nat) (session : SessionId) :
    Except Error Outcome → Except Error Outcome × Engine L P
  | .ok (.reply text) =>
    let outbox := e.host.outbox.answer session text
    (.ok (.reply text), { e with host := { e.host with outbox } })
  | .ok .pending =>
    -- a driver may have begun the wait itself, with a token of its own
    if (e.host.registry.resource? slot i).bind Resource.lock = some session then (.ok .pending, e)
    else
      match e.host.armReply slot i session e.ackTimeout i now with
      | (.error err, host) => (.error err, { e with host })
      | (.ok (), host) => (.ok .pending, { e with host })
  | .error err => (.error err, { e with host := e.host.abandonReply slot i session })

/-- Puts a user's request to a resource. An answer given at once is told to the session. An answer
that comes later leaves the resource locked for the session, and a timer bounds the wait. On an
error nothing is told, and the session waits for nothing. -/
def request (e : Engine L P) (now : Nat) (slot : SlotId) (name : String) (session : SessionId)
    (request : Request) : Option (Except Error Outcome × Engine L P) :=
  match e.findResource slot name with
  | .error err => some (.error (.registry err), e)
  | .ok (i, r) =>
    match screen name r request with
    | .error err => some (.error (.registry err), e)
    | .ok () =>
      match e.call now slot (.request i session request) with
      | none => none
      | some (none, e) => some (.error (.registry (.noDriver slot.toNat)), e)
      | some (some result, e) => some (e.settle now slot i session result)

def subscribe (e : Engine L P) (slot : SlotId) (name : String) (handle : Handle) :
    Except RegistryError (Engine L P) := do
  let (i, r) ← e.findResource slot name
  return { e with host := e.host.setResource slot i (← r.subscribe handle) }

def unsubscribe (e : Engine L P) (slot : SlotId) (name : String) :
    Except RegistryError (Option Handle × Engine L P) := do
  let (i, r) ← e.findResource slot name
  return (r.broadcast, { e with host := e.host.setResource slot i r.unsubscribe })

end Engine

end BoardLink
