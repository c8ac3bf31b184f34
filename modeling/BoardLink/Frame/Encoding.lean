import BoardLink.Packet

/-!
# Frames on the wire

A frame is a packet and its checksum between two delimiters. A delimiter or an escape byte inside
is written as an escape and a marker, so a delimiter on the wire always ends a frame.
-/

namespace BoardLink

inductive FrameError where
  | tooLarge (length limit : Nat)
  deriving DecidableEq, Repr

def FrameError.message : FrameError → String
  | .tooLarge length limit =>
    s!"logical packet of {length} bytes exceeds the {limit}-byte frame capacity"

namespace Frame

/-- The byte that starts and ends a frame. -/
def delimiter : UInt8 := 0xC0

/-- The byte that announces an escaped byte. -/
def escape : UInt8 := 0xDB

/-- What follows an escape in place of a delimiter. -/
def delimiterMark : UInt8 := 0xDC

/-- What follows an escape in place of an escape. -/
def escapeMark : UInt8 := 0xDD

/-- The length of the longest packet with its checksum. -/
def maxDecoded : Nat := Packet.maxLength + Crc.size

/-- The length of the longest frame: every byte escaped, and two delimiters. -/
def maxEncoded : Nat := 2 * maxDecoded + 2

def isReserved (b : UInt8) : Bool := b == delimiter || b == escape

def stuffByte (b : UInt8) : Bytes :=
  if b = delimiter then [escape, delimiterMark]
  else if b = escape then [escape, escapeMark]
  else [b]

/-- A byte string as it stands inside a frame. -/
def stuff (bs : Bytes) : Bytes := bs.flatMap stuffByte

/-- The frame of a packet that is not too long. -/
def encode (packet : Bytes) : Except FrameError Bytes :=
  if packet.length ≤ Packet.maxLength then
    .ok (delimiter :: (stuff (Crc.withTrailer packet) ++ [delimiter]))
  else .error (.tooLarge packet.length Packet.maxLength)

/-- A frame put behind what `out` holds, and the number of bytes that this adds. -/
def append (out packet : Bytes) : Except FrameError (Bytes × Nat) :=
  (encode packet).map fun frame => (out ++ frame, frame.length)

/-- The length of a packet's frame, without building it. -/
def encodedLength (packet : Bytes) : Nat :=
  packet.length + Crc.size + (Crc.withTrailer packet).countP isReserved + 2

end Frame

end BoardLink
