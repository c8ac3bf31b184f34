import BoardLink.Frame.Decoder

/-!
# The receive buffer

Bytes read from the link wait here, first in first out, until the decoder takes them. The buffer
has a fixed capacity.
-/

namespace BoardLink

/-- A buffer of bounded size for bytes that were read and not yet used. -/
structure ReceiveBuffer where
  contents : Bytes
  capacity : Nat
  deriving DecidableEq, Repr

namespace ReceiveBuffer

def empty (capacity : Nat) : ReceiveBuffer := { contents := [], capacity }

def length (b : ReceiveBuffer) : Nat := b.contents.length

def isEmpty (b : ReceiveBuffer) : Bool := b.contents.isEmpty

def spare (b : ReceiveBuffer) : Nat := b.capacity - b.contents.length

/-- As much of `data` as fits goes in; the number of bytes taken comes out. -/
def extend (b : ReceiveBuffer) (data : Bytes) : ReceiveBuffer × Nat :=
  ({ b with contents := b.contents ++ data.take b.spare }, min data.length b.spare)

/-- The spare area, zero before, after a reader put `written` at its start. -/
def spareAfter (b : ReceiveBuffer) (written : Bytes) : Bytes :=
  (written ++ List.replicate (b.spare - written.length) 0).take b.spare

/-- One read into the spare area: the reader put `written` at its start and reports a count, or
fails, and then nothing is kept. A count beyond the area fills the buffer. -/
def receive {ε : Type} (b : ReceiveBuffer) (written : Bytes) (reported : Except ε Nat) :
    ReceiveBuffer :=
  match reported with
  -- a reader that reports more than it wrote makes the zeros count as read
  | .ok n => { b with contents := b.contents ++ (b.spareAfter written).take n }
  | .error _ => b

/-- The first `n` bytes leave, or all of them. -/
def consume (b : ReceiveBuffer) (n : Nat) : ReceiveBuffer :=
  { b with contents := b.contents.drop n }

def decode (b : ReceiveBuffer) (d : Decoder) : ReceiveBuffer × Decoder × List Emission :=
  (b.consume b.length, d.feed b.contents)

end ReceiveBuffer

end BoardLink
