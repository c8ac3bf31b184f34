import BoardLink.Driver.Program

/-!
# The drivers that can be loaded

A factory knows drivers by name. Every driver it creates starts anew.
-/

namespace BoardLink

/-- Drivers as they are at first, by name, in the order of the names. -/
structure Factory (P : Type) where
  drivers : List (String × Occupant P) := []

namespace Factory

variable {P : Type}

/-- Puts a driver into a list in the order of the names; one of the same name is replaced. -/
def insertSorted (name : String) (driver : Occupant P) :
    List (String × Occupant P) → List (String × Occupant P)
  | [] => [(name, driver)]
  | (n, d) :: rest =>
    if name < n then (name, driver) :: (n, d) :: rest
    else if name = n then (name, driver) :: rest
    else (n, d) :: insertSorted name driver rest

def register (f : Factory P) (name : String) (driver : Occupant P) : Factory P :=
  { drivers := insertSorted name driver f.drivers }

def names (f : Factory P) : List String := f.drivers.map Prod.fst

/-- A new instance of the driver of a name. -/
def create (f : Factory P) (name : String) : Option (Occupant P) := List.lookup name f.drivers

def contains (f : Factory P) (name : String) : Bool := (f.create name).isSome

end Factory

end BoardLink
