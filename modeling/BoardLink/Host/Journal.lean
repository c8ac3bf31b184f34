import BoardLink.Driver.Program

/-!
# The journal

What the host did, in order: which slots it filled, whom it called, which timers it armed and fired,
and what became of every lock that a session took to wait for an answer.
-/

namespace BoardLink

inductive Entry where
  /-- A slot got a fresh occupant, and these sessions lost their locks on resources of the old. -/
  | installed (slot : SlotId) (dropped : List SessionId)
  | created (serial : Nat) (slot : SlotId)
  | called (slot : SlotId) (serial : Nat) (callback : Callback)
  | armed (timer : TimerId) (owner : SlotId)
  | fired (timer : TimerId) (owner : SlotId)
  | locked (slot : SlotId) (resource : Nat) (session : SessionId)
  | answered (slot : SlotId) (resource : Nat) (session : SessionId)
  /-- The answer did not come in time. -/
  | expired (slot : SlotId) (resource : Nat) (session : SessionId)
  /-- The request failed after all. -/
  | abandoned (slot : SlotId) (resource : Nat) (session : SessionId)
  | noted (note : Note)

/-- All that the host did, the oldest first. -/
abbrev Journal := List Entry

def Journal.notes (j : Journal) : List Note :=
  j.filterMap fun
    | .noted n => some n
    | _ => none

end BoardLink
