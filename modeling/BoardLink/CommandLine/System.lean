import BoardLink.Config.Basic

/-!
# The system around the program

The program reads and writes files and opens a device. Here is what it needs of the system it runs
on.
-/

namespace BoardLink.CommandLine

/-- Why the program ended early: what it was about, and the causes from the nearest on. -/
structure Failure where
  context : String
  causes : List String := []
  deriving DecidableEq, Repr

/-- What the program needs of a system with effects in `m` and devices of type `D`. -/
structure System (m : Type → Type) (D : Type) where
  read : (path : String) → m (Except IoError String)
  write : (path text : String) → m (Except IoError Unit)
  connect : (path : String) → m (Except IoError D)
  /-- Serves the board at a device until the link is lost. -/
  serve : Config → D → m (Except Failure Unit)

end BoardLink.CommandLine
