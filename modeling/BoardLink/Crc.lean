import BoardLink.Bytes

/-!
# The checksum of a packet

A 16-bit cyclic redundancy check over the polynomial `x^16 + x^12 + x^5 + 1`, started from zero and
sent high byte first. Nothing is exclusive-ored at the end, so the checksum of a string that ends
with its own checksum is zero.
-/

namespace BoardLink.Crc

def size : Nat := 2

/-- One byte shifted in, both nibbles at once. -/
def fold (crc : UInt16) (byte : UInt8) : UInt16 :=
  let x := (crc >>> 8).toUInt8 ^^^ byte
  let x := (x ^^^ (x >>> 4)).toUInt16
  (crc <<< 8) ^^^ (x <<< 12) ^^^ (x <<< 5) ^^^ x

/-- A checksum carried on over more data. -/
def update (crc : UInt16) (data : Bytes) : UInt16 := data.foldl fold crc

def checksum (data : Bytes) : UInt16 := update 0 data

/-- The data followed by its checksum. -/
def withTrailer (data : Bytes) : Bytes := data ++ Bytes.ofWord (checksum data)

/-- Does the string end with the checksum of what comes before? -/
def intact (frame : Bytes) : Bool := size ≤ frame.length && checksum frame == 0

/-! ### The shift register -/

/-- One step of the register: the top bit moves out and, if set, takes the polynomial off. -/
def shift (crc : UInt16) : UInt16 :=
  if crc &&& 0x8000 = 0 then crc <<< 1 else (crc <<< 1) ^^^ 0x1021

/-- One byte shifted in bit by bit: it enters at the top, and eight steps follow. -/
def foldBitwise (crc : UInt16) (byte : UInt8) : UInt16 :=
  Nat.repeat shift 8 (crc ^^^ (byte.toUInt16 <<< 8))

end BoardLink.Crc
