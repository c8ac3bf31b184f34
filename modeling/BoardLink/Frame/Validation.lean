import BoardLink.Frame.Encoding

/-!
# Which frames are packets

A decoded frame reaches a driver only if it is long enough, its checksum holds, it carries an
operation, its core exists and, where the board returns data, the three counts agree: what was
asked for is what came and what was kept back. The first check that fails names the error.
-/

namespace BoardLink

structure Accepted where
  core : CoreId
  /-- Header and data, without the checksum. -/
  packet : Bytes
  deriving DecidableEq, Repr

namespace Frame

def minLength : Nat := Header.size + Crc.size

/-- The counts of a frame in which the board returns data: asked for, returned, kept back. -/
def readCounts (frame : Bytes) (count : UInt8) : Nat × Int × Nat :=
  (count.toNat, (frame.length : Int) - (minLength + 1 : Nat),
    (frame.getD (frame.length - 3) 0).toNat)

/-- The checks of a decoded frame, in order. -/
def validate (frame : Bytes) : Except PacketError Accepted :=
  if frame.length < minLength then .error (.tooShort frame.length)
  else if !Crc.intact frame then .error .crcMismatch
  else
    match frame with
    | command :: core :: _ :: count :: _ =>
      if Operation.ofCommand command = .nop then .error (.noOperation command)
      else
        match CoreId.ofWire core with
        | .error e => .error e
        | .ok core =>
          let (requested, returned, remaining) := readCounts frame count
          -- more bytes than asked for make a negative number, which no count byte equals
          if command &&& readBit ≠ 0 ∧ (remaining : Int) ≠ requested - returned then
            .error (.readCountMismatch requested returned remaining)
          else .ok { core, packet := frame.take (frame.length - Crc.size) }
    -- not reached, as the length was checked first
    | short => .error (.tooShort short.length)

end Frame

end BoardLink
