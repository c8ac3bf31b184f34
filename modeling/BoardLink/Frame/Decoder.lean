import BoardLink.Frame.Encoding

/-!
# Decoding a byte stream

The decoder takes the stream byte by byte and gives out each frame when its closing delimiter
arrives. A byte that breaks the framing rules costs the frame it stands in: what was collected is
discarded and the decoder goes on as if a frame had just begun.
-/

namespace BoardLink

/-- Ways to break the framing rules. -/
inductive Violation where
  /-- An escape before the first frame or right after an escape. -/
  | unexpectedEscape
  | delimiterInEscape
  | badEscape (byte : UInt8)
  | overrun
  deriving DecidableEq, Repr

/-- What a byte can set free. -/
inductive Emission where
  /-- A complete frame, checksum included. -/
  | frame (bytes : Bytes)
  | discarded (bytes : Bytes)
  deriving DecidableEq, Repr

namespace Emission

/-- The frames among a list of emissions. -/
def frames (es : List Emission) : List Bytes :=
  es.filterMap fun
    | .frame bytes => some bytes
    | .discarded _ => none

def discards (es : List Emission) : List Bytes :=
  es.filterMap fun
    | .frame _ => none
    | .discarded bytes => some bytes

end Emission

namespace Decoder

inductive Phase where
  /-- Before the first frame, where zero bytes are skipped. -/
  | leadingFill
  | inPacket
  | inEscape
  deriving DecidableEq, Repr

structure Stats where
  frames : Nat := 0
  violations : Nat := 0
  fillSkipped : Nat := 0
  deriving DecidableEq, Repr

end Decoder

structure Decoder where
  phase : Decoder.Phase := .leadingFill
  /-- The bytes of the frame so far, escapes resolved. -/
  pending : Bytes := []
  stats : Decoder.Stats := {}
  lastViolation : Option Violation := none
  deriving DecidableEq, Repr

namespace Decoder

/-- What was collected is dropped and the next frame begins. -/
def violate (d : Decoder) (v : Violation) : Decoder × Option Emission :=
  ({ d with
      phase := .inPacket
      pending := []
      stats := { d.stats with violations := d.stats.violations + 1 }
      lastViolation := some v },
   some (.discarded d.pending))

/-- One more byte of the frame, unless it is full. -/
def collect (d : Decoder) (b : UInt8) : Decoder × Option Emission :=
  if d.pending.length < Frame.maxDecoded then
    ({ d with phase := .inPacket, pending := d.pending ++ [b] }, none)
  else d.violate .overrun

/-- The frame ends; an empty one is not given out. -/
def close (d : Decoder) : Decoder × Option Emission :=
  -- a delimiter between two frames may close the one and open the other
  if d.pending.isEmpty then (d, none)
  else
    ({ d with pending := [], stats := { d.stats with frames := d.stats.frames + 1 } },
     some (.frame d.pending))

def step (d : Decoder) (b : UInt8) : Decoder × Option Emission :=
  match d.phase with
  | .leadingFill =>
    if b = Frame.delimiter then ({ d with phase := .inPacket }, none)
    else if b = Frame.escape then d.violate .unexpectedEscape
    -- zero bytes are fill only until the first frame begins
    else if b = 0 then
      ({ d with stats := { d.stats with fillSkipped := d.stats.fillSkipped + 1 } }, none)
    else d.collect b
  | .inPacket =>
    if b = Frame.delimiter then d.close
    else if b = Frame.escape then ({ d with phase := .inEscape }, none)
    else d.collect b
  | .inEscape =>
    if b = Frame.delimiter then d.violate .delimiterInEscape
    else if b = Frame.escape then d.violate .unexpectedEscape
    else if b = Frame.delimiterMark then d.collect Frame.delimiter
    else if b = Frame.escapeMark then d.collect Frame.escape
    else d.violate (.badEscape b)

def feed (d : Decoder) : Bytes → Decoder × List Emission
  | [] => (d, [])
  | b :: bs =>
    let (d, e) := d.step b
    let (d, es) := d.feed bs
    (d, e.toList ++ es)

end Decoder

end BoardLink
