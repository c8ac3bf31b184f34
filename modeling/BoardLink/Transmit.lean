import BoardLink.Link.Basic
import BoardLink.Frame.Encoding

/-!
# Sending packets

The transmitter owns the link and its counters. A packet gets its sentinel nibbles, a checksum and
a frame, and goes out in one write. Nothing is sent again: a write that is refused or cut short is
reported, and the sender decides.
-/

namespace BoardLink

/-- Why a packet was not sent. -/
inductive TxError where
  | tooShort (length : Nat)
  | notConnected
  | frame (error : FrameError)
  | wouldBlock
  | partialWrite (sent expected : Nat)
  | io (error : IoError)
  deriving DecidableEq, Repr

namespace TxError

def message : TxError → String
  | .tooShort n => s!"packet of {n} bytes is shorter than a header"
  | .notConnected => "link to the board is not open"
  | .frame e => e.message
  | .wouldBlock => "link would block"
  | .partialWrite sent expected => s!"short write: sent {sent} of {expected} bytes"
  | .io e => "write to board failed: " ++ e.message

def isWouldBlock : TxError → Bool
  | .wouldBlock => true
  | _ => false

end TxError

/-! ### Counters -/

/-- What is counted on a link, in numbers of some kind. -/
structure LinkStats (N : Type) where
  bytesRead : N
  bytesWritten : N
  framesDecoded : N
  protocolViolations : N
  packetsAccepted : N
  rejectedShort : N
  rejectedCrc : N
  rejectedOpcode : N
  rejectedCore : N
  rejectedCount : N
  packetsRouted : N
  routingMisses : N
  packetsSent : N
  txWouldBlock : N
  txErrors : N
  missingAcks : N
  deriving DecidableEq, Repr

namespace LinkStats

instance : Zero (LinkStats Nat) := ⟨⟨0, 0, 0, 0, 0, 0, 0, 0, 0, 0, 0, 0, 0, 0, 0, 0⟩⟩

def packetsRejected {N : Type} [Add N] (s : LinkStats N) : N :=
  s.rejectedShort + s.rejectedCrc + s.rejectedOpcode + s.rejectedCore + s.rejectedCount

def recordRejection (s : LinkStats Nat) : PacketError → LinkStats Nat
  | .tooShort _ | .tooLong _ | .countOverflow _ => { s with rejectedShort := s.rejectedShort + 1 }
  | .crcMismatch => { s with rejectedCrc := s.rejectedCrc + 1 }
  | .noOperation _ => { s with rejectedOpcode := s.rejectedOpcode + 1 }
  | .coreOutOfRange _ => { s with rejectedCore := s.rejectedCore + 1 }
  | .readCountMismatch .. => { s with rejectedCount := s.rejectedCount + 1 }

/-- The counters as the program has them: in 64 bits, where zero follows the last number. -/
def counters (s : LinkStats Nat) : LinkStats UInt64 where
  bytesRead := .ofNat s.bytesRead
  bytesWritten := .ofNat s.bytesWritten
  framesDecoded := .ofNat s.framesDecoded
  protocolViolations := .ofNat s.protocolViolations
  packetsAccepted := .ofNat s.packetsAccepted
  rejectedShort := .ofNat s.rejectedShort
  rejectedCrc := .ofNat s.rejectedCrc
  rejectedOpcode := .ofNat s.rejectedOpcode
  rejectedCore := .ofNat s.rejectedCore
  rejectedCount := .ofNat s.rejectedCount
  packetsRouted := .ofNat s.packetsRouted
  routingMisses := .ofNat s.routingMisses
  packetsSent := .ofNat s.packetsSent
  txWouldBlock := .ofNat s.txWouldBlock
  txErrors := .ofNat s.txErrors
  missingAcks := .ofNat s.missingAcks

end LinkStats

/-! ### Packet dumps -/

inductive Dump where
  /-- A packet sent, with its sentinels and without checksum. -/
  | sent (bytes : Bytes)
  | accepted (bytes : Bytes)
  /-- A frame that failed a check, or bytes that a violation discarded. -/
  | rejected (bytes : Bytes)
  deriving DecidableEq, Repr

def Dump.line : Dump → String
  | .sent bytes => ">>" ++ bytes.dump
  | .accepted bytes => "<<" ++ bytes.dump
  | .rejected bytes => "<X" ++ bytes.dump

/-! ### The transmitter -/

/-- The owner of the link. -/
structure Transmitter (L : Type) where
  link : L
  name : String
  /-- All that was ever counted. -/
  stats : LinkStats Nat := 0
  trace : Bool
  dumps : List Dump := []

namespace Transmitter

variable {L : Type} [Link L]

def ofLink (link : L) (trace : Bool) : Transmitter L := { link, name := Link.describe link, trace }

def isOpen (t : Transmitter L) : Bool := Link.isOpen t.link

/-- A packet with the sentinel nibbles, addressed to a core. -/
def address (core : CoreId) : Bytes → Bytes
  | command :: _ :: rest => (command ||| commandSentinel) :: (coreSentinel ||| core.toByte) :: rest
  | short => short

/-- What a write of `expected` bytes came to. -/
def writeResult (expected : Nat) : Except IoError Nat → Except TxError Unit
  | .ok sent => if sent = expected then .ok () else .error (.partialWrite sent expected)
  | .error e => .error (if e.kind = .wouldBlock then .wouldBlock else .io e)

/-- The counters after a write of `expected` bytes. -/
def countWrite (s : LinkStats Nat) (expected : Nat) : Except IoError Nat → LinkStats Nat
  | .ok sent =>
    -- the link's word is taken for the count, even beyond the frame
    let s := { s with bytesWritten := s.bytesWritten + sent }
    if sent = expected then { s with packetsSent := s.packetsSent + 1 }
    else { s with txErrors := s.txErrors + 1 }
  | .error e =>
    if e.kind = .wouldBlock then { s with txWouldBlock := s.txWouldBlock + 1 }
    else { s with txErrors := s.txErrors + 1 }

/-- Sends a packet, given as bytes, to a core. -/
def sendBytes (t : Transmitter L) (core : CoreId) (packet : Bytes) :
    Except TxError Unit × Transmitter L :=
  if packet.length < Header.size then (.error (.tooShort packet.length), t)
  else if !t.isOpen then (.error .notConnected, t)
  else
    let packet := address core packet
    match Frame.encode packet with
    | .error e => (.error (.frame e), t)
    | .ok frame =>
      let (link, outcome) := Link.write t.link frame
      (writeResult frame.length outcome,
        { t with
          link
          stats := countWrite t.stats frame.length outcome
          dumps := if t.trace then t.dumps ++ [.sent packet] else t.dumps })

def send (t : Transmitter L) (core : CoreId) (packet : Packet) :
    Except TxError Unit × Transmitter L :=
  t.sendBytes core packet.toBytes

end Transmitter

end BoardLink
