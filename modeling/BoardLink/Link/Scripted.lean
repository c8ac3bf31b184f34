import BoardLink.Link.Memory

/-!
# A link with outcomes laid down in advance

The next reads and writes come out as two lists say. Where a list has run out, the link behaves like
the link in memory that it contains.
-/

namespace BoardLink

/-- A link whose next reads and writes are laid down in advance. -/
structure ScriptedLink where
  memory : MemoryLink := {}
  reads : List (Except IoKind Bytes) := []
  /-- A count here is reported whatever was to be written, and nothing is kept. -/
  writes : List (Except IoKind Nat) := []

namespace ScriptedLink

/-- A read into `space`; what does not fit is lost. -/
def read (l : ScriptedLink) (space : Nat) : ScriptedLink × Except IoError Bytes :=
  match l.reads with
  | .ok bytes :: rest => ({ l with reads := rest }, .ok (bytes.take space))
  | .error kind :: rest => ({ l with reads := rest }, .error (.ofKind kind))
  | [] =>
    let (memory, r) := l.memory.read space
    ({ l with memory }, r)

def write (l : ScriptedLink) (bytes : Bytes) : ScriptedLink × Except IoError Nat :=
  match l.writes with
  | .ok n :: rest => ({ l with writes := rest }, .ok n)
  | .error kind :: rest => ({ l with writes := rest }, .error (.ofKind kind))
  | [] =>
    let (memory, r) := l.memory.write bytes
    ({ l with memory }, r)

instance : Link ScriptedLink where
  read := read
  write := write
  isOpen l := l.memory.isOpen
  describe _ := "link"
  backlog l := l.reads.length + Link.backlog l.memory

end ScriptedLink

end BoardLink
