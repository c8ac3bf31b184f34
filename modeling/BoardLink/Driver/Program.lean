import BoardLink.Error
import BoardLink.Overloads
import BoardLink.Registry.Command
import BoardLink.Session

/-!
# What drivers do

A driver answers four kinds of call: it is initialised, gets a packet from its core, gets a user's
request, or one of its timers fires. It answers by a program, a tree whose nodes are operations of
its host and whose branches are the possible results. What kind of driver a host loads is a
parameter `P`; besides those there is the enumerator, which every host has.
-/

namespace BoardLink

/-! ### Calls -/

/-- What a user asks of a resource. -/
inductive Request where
  | get
  | set (value : String)
  deriving DecidableEq, Repr

/-- How a driver answers a request. -/
inductive Outcome where
  /-- At once, with this text. -/
  | reply (text : String)
  | pending
  deriving DecidableEq, Repr

/-- A call of a driver. -/
inductive Callback where
  | init
  | packet (p : Packet)
  | request (resource : Nat) (session : SessionId) (request : Request)
  | timer (token : Nat)
  deriving DecidableEq, Repr

/-- What a driver gives back from a call. -/
def Callback.Result : Callback → Type
  | .init => Except Error Unit
  | .packet _ => Unit
  | .request .. => Except Error Outcome
  | .timer _ => Unit

/-! ### The drivers in a slot -/

/-- The driver that finds out what the board contains. -/
structure Enumerator where
  overloads : Overloads := []
  ackTimer : Option TimerId := none
  /-- Was the board's answer put to use? -/
  enumerated : Bool := false
  deriving DecidableEq, Repr

/-- What a slot can hold: the enumerator or a loaded driver. -/
inductive Occupant (P : Type) where
  | enumerator (e : Enumerator)
  | loaded (driver : P)

/-! ### Notes -/

/-- What an operation came to, as a driver notes it. -/
inductive Note.Answer where
  | done
  | nothing
  | flag (b : Bool)
  | number (n : Nat)
  | registry (a : Registry.Answer)
  | session (s : Option SessionId)
  | status (s : Option BroadcastStatus)
  | overview (slot : SlotId) (core : Option CoreId) (now ackTimeout : Nat)
      (resource : Option Resource) (slots : List (SlotId × Bool))
  deriving DecidableEq

inductive Note where
  | called (slot : SlotId) (callback : Callback)
  | acted (name : String) (answer : Except Error Note.Answer)

/-! ### Operations -/

/-- What a driver can see. -/
structure View where
  slot : SlotId
  registry : Registry Unit
  now : Nat
  ackTimeout : Nat

namespace View

def core (v : View) : Option CoreId := (v.registry.slot? v.slot).bind Slot.core

def resource? (v : View) (i : Nat) : Option Resource := v.registry.resource? v.slot i

end View

/-- What a driver can do during a call. -/
inductive Op (P : Type) where
  | view
  | setIdentity (name description : String)
  | addResource (resource : Resource)
  | bindCore (core : CoreId)
  | send (packet : Packet)
  | sendTo (core : CoreId) (packet : Packet)
  | addTimer (kind : Timer.Kind) (period token : Nat)
  | cancelTimer (id : TimerId)
  | say (session : SessionId) (text : String)
  | prompt (session : SessionId)
  /-- Lock a resource for a session and wait for the board's answer. -/
  | awaitReply (resource : Nat) (session : SessionId) (token : Nat)
  | completeReply (resource : Nat) (text : String)
  | broadcast (resource : Nat) (text : String)
  /-- Put another driver into a slot; it is initialised after this call. -/
  | installDriver (slot : SlotId) (name : String) (core : Option CoreId)
  | registry (command : Registry.Command (Occupant P))
  | note (n : Note)

def Op.Result {P : Type} : Op P → Type
  | .view => View
  | .setIdentity .. => Except RegistryError Unit
  | .addResource .. => Except RegistryError Nat
  | .bindCore _ => Except RegistryError Unit
  | .send _ => Except Error Unit
  | .sendTo .. => Except TxError Unit
  | .addTimer .. => Except TimerError TimerId
  | .cancelTimer _ => Bool
  | .say .. => Unit
  | .prompt _ => Unit
  | .awaitReply .. => Except Error Unit
  | .completeReply .. => Option SessionId
  | .broadcast .. => Option BroadcastStatus
  | .installDriver .. => Except RegistryError Unit
  | .registry _ => Except RegistryError Registry.Answer
  | .note _ => Unit

/-! ### Programs -/

/-- A program of a driver that ends with a value of type `α`. -/
inductive Program (P α : Type) where
  | done (a : α)
  | step (op : Op P) (next : op.Result → Program P α)

namespace Program

variable {P α β : Type}

def bind : Program P α → (α → Program P β) → Program P β
  | .done a, f => f a
  | .step op next, f => .step op fun r => (next r).bind f

instance : Monad (Program P) where
  pure := .done
  bind := bind

def perform (op : Op P) : Program P op.Result := .step op .done

end Program

/-! ### Drivers -/

/-- Types whose values are drivers. -/
class Driver (P : Type) where
  /-- What a driver does when it is called, and the driver afterwards. -/
  respond : P → (c : Callback) → Program P (c.Result × P)

/-- The type for hosts on which no driver can be loaded. -/
instance : Driver Empty where
  respond := nofun

end BoardLink
