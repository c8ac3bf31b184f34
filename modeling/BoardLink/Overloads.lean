/-!
# Static assignments of drivers to slots

A finite map from slot numbers to driver names, kept in the order of the numbers.
-/

namespace BoardLink

/-- Driver names by slot number, in increasing order, each number once. -/
abbrev Overloads := List (Nat × String)

namespace Overloads

def get? (o : Overloads) (slot : Nat) : Option String := List.lookup slot o

/-- Sets the name for a slot; one that was there is replaced. -/
def insert (slot : Nat) (name : String) : Overloads → Overloads
  | [] => [(slot, name)]
  | (k, v) :: rest =>
    if slot < k then (slot, name) :: (k, v) :: rest
    else if slot = k then (slot, name) :: rest
    else (k, v) :: insert slot name rest

/-- The map of a list of pairs, in which the last pair for a slot counts. -/
def ofList (pairs : List (Nat × String)) : Overloads :=
  pairs.foldl (fun o (slot, name) => o.insert slot name) []

def erase (o : Overloads) (slot : Nat) : Overloads := o.filter fun (k, _) => k ≠ slot

end Overloads

end BoardLink
