import BoardLink.Link.Basic

/-!
# A serial device

The link of a daemon in use is a device file, opened for reading and writing. Here the file is a
regular one: reads and writes share one position in it, and a write overwrites what stands there.
-/

namespace BoardLink

/-- An open or closed device file. -/
structure SerialLink where
  path : String
  content : Bytes
  position : Nat := 0
  isOpen : Bool := true
  deriving DecidableEq, Repr

namespace SerialLink

/-- Opens the file of a path, given what it contains if it exists. -/
def openPath (path : String) (content : Option Bytes) : Except IoError SerialLink :=
  match content with
  | some content => .ok { path, content }
  | none => .error .noSuchFile

def close (l : SerialLink) : SerialLink := { l with isOpen := false }

/-- A read into `space`, which brings nothing at the end of the file. -/
def read (l : SerialLink) (space : Nat) : SerialLink × Except IoError Bytes :=
  if l.isOpen then
    let bytes := (l.content.drop l.position).take space
    ({ l with position := l.position + bytes.length }, .ok bytes)
  else (l, .error (.ofKind .notConnected))

def write (l : SerialLink) (bytes : Bytes) : SerialLink × Except IoError Nat :=
  if l.isOpen then
    ({ l with
        content := l.content.take l.position ++ bytes ++ l.content.drop (l.position + bytes.length)
        position := l.position + bytes.length },
     .ok bytes.length)
  else (l, .error (.ofKind .notConnected))

instance : Link SerialLink where
  read := read
  write := write
  isOpen := isOpen
  describe l := l.path
  backlog l := l.content.length + 1

end SerialLink

end BoardLink
