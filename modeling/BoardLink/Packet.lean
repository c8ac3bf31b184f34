import BoardLink.Crc

/-!
# Packets

A packet is a header of four bytes and up to 510 bytes of data. The header names an operation, one
of the sixteen peripheral cores of the board, a register of that core and a count.
-/

namespace BoardLink

/-- What can be wrong with a packet or with a frame that should hold one. -/
inductive PacketError where
  | tooShort (length : Nat)
  | crcMismatch
  | noOperation (command : UInt8)
  | coreOutOfRange (index : Nat)
  | readCountMismatch (requested : Nat) (returned : Int) (remaining : Nat)
  | tooLong (length : Nat)
  | countOverflow (length : Nat)
  deriving DecidableEq, Repr

def PacketError.message : PacketError → String
  | .tooShort n => s!"frame of {n} bytes is shorter than header + CRC"
  | .crcMismatch => "CRC check failed"
  | .noOperation c =>
    s!"command byte 0x{String.ofList (hexByte c)} carries no read or write operation"
  | .coreOutOfRange n => s!"core index {n} is outside the FPGA image"
  | .readCountMismatch requested returned remaining =>
    s!"read response count mismatch: requested {requested}, returned {returned}, " ++
      s!"remaining {remaining}"
  | .tooLong n => s!"packet of {n} bytes exceeds the maximum packet length"
  | .countOverflow n => s!"payload of {n} bytes does not fit the count byte"

/-! ### Cores -/

def coreCount : Nat := 16

/-- A peripheral core of the board. -/
abbrev CoreId := Fin coreCount

/-- The nibble that marks the core byte of every packet sent to the board. -/
def coreSentinel : UInt8 := 0xE0

namespace CoreId

/-- The core that knows what the others are. -/
def zero : CoreId := ⟨0, by decide⟩

def ofNat (n : Nat) : Except PacketError CoreId :=
  if h : n < coreCount then .ok ⟨n, h⟩ else .error (.coreOutOfRange n)

/-- The core a core byte names: the sentinel nibble is taken off, any other nibble stays. -/
def ofWire (byte : UInt8) : Except PacketError CoreId :=
  ofNat (if byte &&& 0xF0 = coreSentinel then byte &&& 0x0F else byte).toNat

def toByte (core : CoreId) : UInt8 := UInt8.ofNat core.val

def all : List CoreId := List.finRange coreCount

end CoreId

/-! ### Operations -/

/-- What a packet asks for, bits 3 and 2 of the command byte. -/
inductive Operation where
  | nop
  | read
  | write
  | writeRead
  deriving DecidableEq, Repr

namespace Operation

def ofCommand (command : UInt8) : Operation :=
  let bits := command &&& 0x0C
  if bits = 0x04 then .read
  else if bits = 0x08 then .write
  else if bits = 0x0C then .writeRead
  else .nop

def bits : Operation → UInt8
  | .nop => 0x00
  | .read => 0x04
  | .write => 0x08
  | .writeRead => 0x0C

/-- Does the board return data? -/
def returnsData : Operation → Bool
  | .read | .writeRead => true
  | .nop | .write => false

end Operation

/-! ### Headers -/

/-- The nibble that marks the command byte of every packet sent to the board. -/
def commandSentinel : UInt8 := 0xF0

/-- The command bit that moves the register on with every byte. -/
def autoincrementBit : UInt8 := 0x02

/-- The command bit that tells a reply from data sent unasked. -/
def replyBit : UInt8 := 0x80

/-- The command bit that every operation with returned data carries. -/
def readBit : UInt8 := 0x04

/-- The four bytes in front of a packet's data. -/
structure Header where
  command : UInt8
  core : UInt8
  register : UInt8
  count : UInt8
  deriving DecidableEq, Repr

namespace Header

def size : Nat := 4

/-- The header of a request, without sentinels. -/
def request (operation : Operation) (autoincrement : Bool) (core : CoreId)
    (register count : UInt8) : Header where
  command := if autoincrement then operation.bits ||| autoincrementBit else operation.bits
  core := core.toByte
  register
  count

def operation (h : Header) : Operation := .ofCommand h.command

def isAutoincrement (h : Header) : Bool := h.command &&& autoincrementBit != 0

def isUnsolicited (h : Header) : Bool := h.command &&& replyBit == 0

def withSentinels (h : Header) : Header :=
  { h with command := h.command ||| commandSentinel, core := h.core ||| coreSentinel }

def toBytes (h : Header) : Bytes := [h.command, h.core, h.register, h.count]

end Header

/-! ### Packets -/

/-- A header and the data after it. -/
structure Packet where
  header : Header
  data : Bytes
  deriving DecidableEq, Repr

namespace Packet

/-- The most data in one packet. -/
def maxData : Nat := 510

def maxLength : Nat := Header.size + maxData

/-- A request for `count` bytes from `register`. -/
def read (core : CoreId) (register count : UInt8) : Packet where
  header := .request .read true core register count
  data := []

/-- A request to store `data` from `register` on; its length goes into the count byte. -/
def write (core : CoreId) (register : UInt8) (data : Bytes) : Except PacketError Packet :=
  if data.length < 256 then
    .ok { header := .request .write true core register (UInt8.ofNat data.length), data }
  else .error (.countOverflow data.length)

/-- The packet written as these bytes, without checksum. -/
def ofBytes : Bytes → Except PacketError Packet
  | command :: core :: register :: count :: data =>
    if Header.size + data.length ≤ maxLength then
      .ok { header := { command, core, register, count }, data }
    else .error (.tooLong (Header.size + data.length))
  | short => .error (.tooShort short.length)

def toBytes (p : Packet) : Bytes := p.header.toBytes ++ p.data

def length (p : Packet) : Nat := Header.size + p.data.length

def core (p : Packet) : Except PacketError CoreId := CoreId.ofWire p.header.core

/-- How many bytes the board kept back, its last data byte when it returns data. -/
def remaining (p : Packet) : Option UInt8 :=
  if p.header.operation.returnsData then p.data.getLast? else none

/-- The data without the byte that says how many were kept back. -/
def readData (p : Packet) : Bytes :=
  if p.remaining.isSome then p.data.dropLast else p.data

end Packet

end BoardLink
