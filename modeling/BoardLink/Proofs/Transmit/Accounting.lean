import Mathlib.Tactic.Common
import BoardLink.Link.Scripted
import BoardLink.Proofs.Frame.Encoding
import BoardLink.Proofs.Transmit.Counting

/-!
# What is counted on transmission

A packet is refused before anything is written, or its frame goes out in one write, and then the
result and the counters follow what the link says of this write, true or not. A counter has 64 bits,
so it grows by what it should just when the sum fits. The frame is built in a buffer that is kept from
one packet to the next, and nothing of an earlier packet is in it when it is written.
-/

namespace BoardLink

variable {L : Type}

/-! ### Refusals -/

namespace Transmitter

section Exits

variable [Link L] (t : Transmitter L) (core : CoreId) {packet : Bytes}

/-- Will the packet be written, whatever becomes of the write? -/
def Accepts (packet : Bytes) : Prop :=
  t.isOpen = true ∧ Header.size ≤ packet.length ∧ packet.length ≤ Packet.maxLength

instance : Decidable (t.Accepts packet) := inferInstanceAs (Decidable (_ ∧ _ ∧ _))

/-- The frame of a packet to a core. -/
def frameOf (core : CoreId) (packet : Bytes) : Bytes := Frame.wire (address core packet)

/-- What the link makes of the frame of a packet. -/
def writeOf (packet : Bytes) : L × Except IoError Nat := Link.write t.link (frameOf core packet)

/-- What is written for a packet, with what the link says of it. -/
def writes (packet : Bytes) : List (Bytes × Except IoError Nat) :=
  if t.Accepts packet then [(frameOf core packet, (t.writeOf core packet).2)] else []

end Exits

end Transmitter

/-! ### Sending in place -/

/-- A transmitter and the buffer in which it builds its frames. -/
structure Sender (L : Type) where
  transmitter : Transmitter L
  buffer : Bytes := []

namespace Sender

open Transmitter

/-- The result of a run, and the sender in the end. -/
def ending : EStateM.Result TxError (Sender L) Unit → Except TxError Unit × Sender L
  | .ok () s => (.ok (), s)
  | .error e s => (.error e, s)

/-- A change of the counters. -/
def count (f : LinkStats Nat → LinkStats Nat) : EStateM TxError (Sender L) Unit :=
  modify fun s => { s with transmitter.stats := f s.transmitter.stats }

@[simp] lemma run_count (f : LinkStats Nat → LinkStats Nat) (s : Sender L) :
    (count f).run s = .ok () { s with transmitter.stats := f s.transmitter.stats } := rfl

/-- A packet is shown, if packets are. -/
def dump (packet : Bytes) : EStateM TxError (Sender L) Unit :=
  modify fun s => { s with
    transmitter.dumps :=
      if s.transmitter.trace then s.transmitter.dumps ++ [.sent packet] else s.transmitter.dumps }

@[simp] lemma run_dump (packet : Bytes) (s : Sender L) :
    (dump packet).run s = .ok () { s with
      transmitter.dumps :=
        if s.transmitter.trace then s.transmitter.dumps ++ [.sent packet]
        else s.transmitter.dumps } := rfl

/-- The frame of a packet is written behind what is in the buffer. -/
def build (packet : Bytes) : EStateM TxError (Sender L) Nat := fun s =>
  match (Frame.encodeInPlace packet).run s.buffer with
  | .ok expected buffer => .ok expected { s with buffer }
  | .error e buffer => .error (.frame e) { s with buffer }

/-- What a write of `expected` bytes comes to. -/
def settle (expected : Nat) : Except IoError Nat → EStateM TxError (Sender L) Unit
  | .ok sent =>
    if sent = expected then do
      count fun c => { c with bytesWritten := c.bytesWritten + sent }
      count fun c => { c with packetsSent := c.packetsSent + 1 }
    else do
      count fun c => { c with bytesWritten := c.bytesWritten + sent }
      count fun c => { c with txErrors := c.txErrors + 1 }
      throw (.partialWrite sent expected)
  | .error e =>
    if e.kind = .wouldBlock then do
      count fun c => { c with txWouldBlock := c.txWouldBlock + 1 }
      throw .wouldBlock
    else do
      count fun c => { c with txErrors := c.txErrors + 1 }
      throw (.io e)

variable [Link L]

/-- What is in the buffer goes to the link. -/
def flush : EStateM TxError (Sender L) (Except IoError Nat) := fun s =>
  let (link, outcome) := Link.write s.transmitter.link s.buffer
  .ok outcome { s with transmitter.link := link }

@[simp] lemma run_flush (s : Sender L) :
    flush.run s = .ok (Link.write s.transmitter.link s.buffer).2 { s with
      transmitter.link := (Link.write s.transmitter.link s.buffer).1 } := rfl

/-- Sending in place, step by step. -/
def send (core : CoreId) (packet : Bytes) : EStateM TxError (Sender L) Unit := do
  if packet.length < Header.size then throw (.tooShort packet.length)
  if !(← get).transmitter.isOpen then throw .notConnected
  let packet := address core packet
  modify fun s => { s with buffer := [] }
  let expected ← build packet
  dump packet
  let outcome ← flush
  settle expected outcome

end Sender

/-! ### Watching the link -/

/-- A link with all that was written to it, each write with what the link said of it. -/
structure WatchedLink (L : Type) where
  link : L
  writes : List (Bytes × Except IoError Nat)

namespace WatchedLink

/-- A write is passed on and recorded. -/
def write [Link L] (l : WatchedLink L) (bytes : Bytes) : WatchedLink L × Except IoError Nat :=
  let (link, outcome) := Link.write l.link bytes
  ({ link, writes := l.writes ++ [(bytes, outcome)] }, outcome)

instance [Link L] : Link (WatchedLink L) where
  read l n := let (link, r) := Link.read l.link n; ({ l with link }, r)
  write := write
  isOpen l := Link.isOpen l.link
  describe l := Link.describe l.link
  backlog l := Link.backlog l.link

end WatchedLink

namespace Transmitter

/-- A transmitter whose link has been watched. -/
def watched (t : Transmitter L) (writes : List (Bytes × Except IoError Nat)) :
    Transmitter (WatchedLink L) :=
  { t with link := { link := t.link, writes } }

/-- A transmitter whose link is no longer watched. -/
def unwatched (t : Transmitter (WatchedLink L)) : Transmitter L := { t with link := t.link.link }

end Transmitter

/-! ### Attempts -/

/-- What comes of a packet that is sent in place over a watched link. -/
structure Attempt (L : Type) where
  result : Except TxError Unit
  after : Sender L
  writes : List (Bytes × Except IoError Nat)

namespace Sender

open Transmitter

/-- The counters of the link. -/
def counters (s : Sender L) : LinkStats UInt64 := s.transmitter.stats.counters

variable [Link L]

/-- An attempt to send a packet. -/
def attempt (s : Sender L) (core : CoreId) (packet : Bytes) : Attempt L :=
  let (result, after) :=
    ending ((send core packet).run { s with transmitter := s.transmitter.watched [] })
  { result
    after := { after with transmitter := after.transmitter.unwatched }
    writes := after.transmitter.link.writes }

end Sender

end BoardLink
