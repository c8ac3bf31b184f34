import BoardLink.Identifiers

/-!
# What users are told

Texts, prompts and broadcasts for the user sessions are put down in an outbox, from where they are
delivered.
-/

namespace BoardLink

inductive BroadcastStatus where
  | delivered
  /-- Nobody listens under the handle any more. -/
  | cleared
  deriving DecidableEq, Repr

namespace Outbox

/-- One thing to tell users. -/
inductive Event where
  | send (session : SessionId) (text : String)
  | broadcast (handle : Handle) (text : String)
  | prompt (session : SessionId)
  deriving DecidableEq, Repr

end Outbox

/-- What is to be told, and the handles under which nobody listens. -/
structure Outbox where
  events : List Outbox.Event := []
  cleared : List Handle := []
  deriving DecidableEq, Repr

namespace Outbox

def send (o : Outbox) (session : SessionId) (text : String) : Outbox :=
  { o with events := o.events ++ [.send session text] }

def prompt (o : Outbox) (session : SessionId) : Outbox :=
  { o with events := o.events ++ [.prompt session] }

/-- A text and then a prompt for one session. -/
def answer (o : Outbox) (session : SessionId) (text : String) : Outbox :=
  (o.send session text).prompt session

def broadcast (o : Outbox) (handle : Handle) (text : String) : BroadcastStatus × Outbox :=
  if handle ∈ o.cleared then (.cleared, o)
  else (.delivered, { o with events := o.events ++ [.broadcast handle text] })

/-- Nobody listens under the handle from now on. -/
def dropSubscribers (o : Outbox) (handle : Handle) : Outbox :=
  { o with cleared := handle :: o.cleared }

def sentTo (o : Outbox) (session : SessionId) : List String :=
  o.events.filterMap fun
    | .send s text => if s = session then some text else none
    | _ => none

/-- All events, which are then gone. -/
def drain (o : Outbox) : List Event × Outbox := (o.events, { o with events := [] })

end Outbox

end BoardLink
