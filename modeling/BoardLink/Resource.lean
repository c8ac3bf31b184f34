import BoardLink.Timer
import BoardLink.Registry.Error

/-!
# Resources

A resource is a named value of a driver that users may read, write or subscribe to. Its lock says
which session gets the next answer of the board; the timer beside it is the one that waits for that
answer. Its subscription is the handle under which updates are broadcast.
-/

namespace BoardLink

/-- A resource of a driver. -/
structure Resource where
  name : String
  flags : UInt8
  /-- The session that waits for an answer. -/
  lock : Option SessionId := none
  broadcast : Option Handle := none
  /-- The timer that ends the wait. -/
  pendingTimer : Option TimerId := none
  deriving DecidableEq, Repr

namespace Resource

def isReadable (r : Resource) : Bool := r.flags &&& 0x01 != 0

def isWritable (r : Resource) : Bool := r.flags &&& 0x02 != 0

def canBroadcast (r : Resource) : Bool := r.flags &&& 0x04 != 0

/-- Locked for `session`, unless some session holds the lock, be it the same one. -/
def tryLock (r : Resource) (session : SessionId) : Except RegistryError Resource :=
  match r.lock with
  | some holder => .error (.resourceBusy r.name holder)
  | none => .ok { r with lock := some session }

/-- Without lock; the timer stays. -/
def unlock (r : Resource) : Resource := { r with lock := none }

def settle (r : Resource) : Resource := { r with lock := none, pendingTimer := none }

/-- Subscribed to under `handle`, where the zero handle subscribes nobody. -/
def subscribe (r : Resource) (handle : Handle) : Except RegistryError Resource :=
  if r.canBroadcast then
    .ok { r with broadcast := if handle = Handle.none then none else some handle }
  else .error (.notBroadcastable r.name)

def unsubscribe (r : Resource) : Resource := { r with broadcast := none }

end Resource

end BoardLink
