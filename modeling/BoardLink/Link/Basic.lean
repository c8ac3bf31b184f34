import BoardLink.Bytes

/-!
# Links

A link carries bytes to and from the board and never blocks: where nothing can be read or written
at the moment, it says so by an error.
-/

namespace BoardLink

inductive IoKind where
  | notFound
  | permissionDenied
  | connectionRefused
  | connectionReset
  | connectionAborted
  | notConnected
  | brokenPipe
  | alreadyExists
  | wouldBlock
  | invalidInput
  | invalidData
  | timedOut
  | writeZero
  | interrupted
  | unexpectedEof
  | other
  deriving DecidableEq, Repr

/-- The text of an error of which only the kind is known. -/
def IoKind.message : IoKind → String
  | .notFound => "entity not found"
  | .permissionDenied => "permission denied"
  | .connectionRefused => "connection refused"
  | .connectionReset => "connection reset"
  | .connectionAborted => "connection aborted"
  | .notConnected => "not connected"
  | .brokenPipe => "broken pipe"
  | .alreadyExists => "entity already exists"
  | .wouldBlock => "operation would block"
  | .invalidInput => "invalid input parameter"
  | .invalidData => "invalid data"
  | .timedOut => "timed out"
  | .writeZero => "write zero"
  | .interrupted => "operation interrupted"
  | .unexpectedEof => "unexpected end of file"
  | .other => "other error"

inductive IoError where
  | ofKind (kind : IoKind)
  /-- An error that the operating system reports by number and text. -/
  | system (kind : IoKind) (number : Nat) (text : String)
  /-- An error with a text of its own, found before the operating system is asked. -/
  | refused (kind : IoKind) (text : String)
  deriving DecidableEq, Repr

namespace IoError

def kind : IoError → IoKind
  | .ofKind kind => kind
  | .system kind _ _ => kind
  | .refused kind _ => kind

def message : IoError → String
  | .ofKind kind => kind.message
  | .system _ number text => s!"{text} (os error {number})"
  | .refused _ text => text

def noSuchFile : IoError := .system .notFound 2 "No such file or directory"

end IoError

inductive LinkError where
  | closed
  | io (error : IoError)
  deriving DecidableEq, Repr

def LinkError.message : LinkError → String
  | .closed => "link closed by peer"
  | .io e => "read from board failed: " ++ e.message

/-- A byte link. -/
class Link (L : Type) where
  /-- Reads at most that many bytes. No bytes mean that the peer hung up. -/
  read : L → Nat → L × Except IoError Bytes
  /-- Writes as much as the link takes, and says how much. -/
  write : L → Bytes → L × Except IoError Nat
  isOpen : L → Bool
  describe : L → String
  /-- More reads than that in a row cannot all bring something new. -/
  backlog : L → Nat

/-- One of two kinds of link. -/
instance {L M : Type} [Link L] [Link M] : Link (L ⊕ M) where
  read
    | .inl l, n => let (l, r) := Link.read l n; (.inl l, r)
    | .inr m, n => let (m, r) := Link.read m n; (.inr m, r)
  write
    | .inl l, bytes => let (l, r) := Link.write l bytes; (.inl l, r)
    | .inr m, bytes => let (m, r) := Link.write m bytes; (.inr m, r)
  isOpen
    | .inl l => Link.isOpen l
    | .inr m => Link.isOpen m
  describe
    | .inl l => Link.describe l
    | .inr m => Link.describe m
  backlog
    | .inl l => Link.backlog l
    | .inr m => Link.backlog m

end BoardLink
