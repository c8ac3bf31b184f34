import BoardLink.Link.Basic
import BoardLink.Text.Pieces

/-!
# Paths

A path is a text whose parts stand between slashes. What is wrong with the text itself is told
before any folder is looked into.
-/

namespace BoardLink.CommandLine.Path

def maxPart : Nat := 255

def maxPath : Nat := 4095

/-- There is a character in the path that would end it early. -/
def hasNul : IoError := .refused .invalidInput "file name contained an unexpected NUL byte"

def tooLong : IoError := .system .other 36 "File name too long"

/-- What is wrong with a path wherever it leads. An empty path leads nowhere. -/
def check (path : String) : Except IoError Unit :=
  if path.toList.contains '\x00' then .error hasNul
  else if path.isEmpty then .error .noSuchFile
  else if maxPath < path.utf8ByteSize then .error tooLong
  else .ok ()

/-- The parts of a path, among them empty ones: the last part of `a/` is empty. -/
def parts (path : String) : List String :=
  (Text.splitAll '/' path.toList).map String.ofList

/-- The parts that are names of files or folders, or `..`. -/
def names (path : String) : List String :=
  (parts path).filter fun part => part ≠ "" ∧ part ≠ "."

def isAbsolute (path : String) : Bool := (parts path).head? = some "" ∧ path ≠ ""

def endsInSlash (path : String) : Bool := (parts path).getLast? = some "" ∧ path ≠ ""

end BoardLink.CommandLine.Path
