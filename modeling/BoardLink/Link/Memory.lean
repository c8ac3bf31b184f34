import BoardLink.Link.Basic

/-!
# A link in memory

The bytes of both directions wait in queues. Reads and writes can be cut short or made to fail.
-/

namespace BoardLink

/-- A link in memory. -/
structure MemoryLink where
  incoming : Bytes := []
  /-- Bytes to the board, since they were last taken. -/
  outgoing : Bytes := []
  isOpen : Bool := true
  /-- Has the board hung up? What it sent can still be read. -/
  hungUp : Bool := false
  /-- The most bytes one read brings; zero is taken for one. -/
  readChunk : Option Nat := none
  writeCapacity : Option Nat := none
  readError : Option IoKind := none
  writeError : Option IoKind := none
  deriving DecidableEq, Repr

namespace MemoryLink

def push (l : MemoryLink) (bytes : Bytes) : MemoryLink := { l with incoming := l.incoming ++ bytes }

def takeOutgoing (l : MemoryLink) : Bytes × MemoryLink := (l.outgoing, { l with outgoing := [] })

def readSize (l : MemoryLink) (space : Nat) : Nat :=
  let n := min space l.incoming.length
  match l.readChunk with
  | some chunk => min n (max chunk 1)
  | none => n

def read (l : MemoryLink) (space : Nat) : MemoryLink × Except IoError Bytes :=
  match l.readError with
  | some kind => (l, .error (.ofKind kind))
  | none =>
    if l.incoming.isEmpty then (l, if l.hungUp then .ok [] else .error (.ofKind .wouldBlock))
    else
      let n := l.readSize space
      ({ l with incoming := l.incoming.drop n }, .ok (l.incoming.take n))

/-- A write. A link without capacity would block, unless there is nothing to write. -/
def write (l : MemoryLink) (bytes : Bytes) : MemoryLink × Except IoError Nat :=
  match l.writeError with
  | some kind => (l, .error (.ofKind kind))
  | none =>
    if l.writeCapacity = some 0 ∧ bytes ≠ [] then (l, .error (.ofKind .wouldBlock))
    else
      -- the capacity bounds each write, it is not used up
      let n := min bytes.length (l.writeCapacity.getD bytes.length)
      ({ l with outgoing := l.outgoing ++ bytes.take n }, .ok n)

instance : Link MemoryLink where
  read := read
  write := write
  isOpen := isOpen
  describe _ := "memory"
  backlog l := l.incoming.length + 1

end MemoryLink

end BoardLink
