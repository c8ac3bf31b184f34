import BoardLink.Bytes

/-!
# Slots, sessions and subscriptions

The numbers by which driver slots, user sessions and broadcast subscriptions are known.
-/

namespace BoardLink

/-- A driver slot, a number of sixteen bits. -/
structure SlotId where
  index : UInt16
  deriving DecidableEq, Repr

namespace SlotId

/-- The slot of a number, of which the low sixteen bits count. -/
def ofNat (n : Nat) : SlotId := ⟨UInt16.ofNat n⟩

def toNat (s : SlotId) : Nat := s.index.toNat

/-- The slot of the driver that finds out what the board contains. -/
def enumerator : SlotId := ⟨0⟩

end SlotId

/-- A user session. -/
structure SessionId where
  number : UInt32
  deriving DecidableEq, Repr

/-- A broadcast subscription. -/
structure Handle where
  number : UInt32
  deriving DecidableEq, Repr

/-- The handle that stands for no subscription. -/
def Handle.none : Handle := ⟨0⟩

end BoardLink
