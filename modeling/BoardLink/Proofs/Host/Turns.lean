import BoardLink.Proofs.Host.Step

/-!
# Turns of a host

Between two calls from outside no slot waits to be initialised. A driver that is called may fill
slots; they are initialised after the call, and what they fill in turn comes before the slots that
wait already. Each turn of a host is told together with the slots that wait before and after it.
-/

namespace BoardLink.Host

variable {L P : Type}

/-- A host and the slots that wait to be initialised, the next one first. -/
abbrev Stage (L P : Type) := Host L P × List SlotId

/-- The host after a timer fired and the waits that it guards ended. -/
def rung (h : Host L P) (timers : TimerTable) (id : TimerId) (owner : SlotId) : Host L P :=
  ({ h with timers }.record (.fired id owner)).expireReplies owner id

variable [Link L] [Driver P]

/-- One turn of a host in some setting. -/
inductive Turn (s : Setting P) : Stage L P → Stage L P → Prop
  /-- The next slot has no driver to initialise. -/
  | skip {h : Host L P} {slot : SlotId} {rest : List SlotId} (hcall : h.call s slot .init = none) :
      Turn s (h, slot :: rest) (h, rest)
  | init {h h' : Host L P} {slot : SlotId} {rest slots : List SlotId} {result : Except Error Unit}
      (hcall : h.call s slot .init = some (result, h', slots)) :
      Turn s (h, slot :: rest) (h', slots ++ rest)
  /-- A driver gets a packet or a request. -/
  | call {h h' : Host L P} {slot : SlotId} {c : Callback} {result : c.Result} {slots : List SlotId}
      (hinit : c ≠ .init) (htimer : ∀ token, c ≠ .timer token)
      (hcall : h.call s slot c = some (result, h', slots)) : Turn s (h, []) (h', slots)
  /-- A timer fires and its owner is called. -/
  | ring {h h' : Host L P} {id : TimerId} {expiry : Expiry} {timers : TimerTable} {result : Unit}
      {slots : List SlotId} (hfire : h.timers.fire id s.now = some (expiry, timers))
      (hcall : (h.rung timers id expiry.owner).call s expiry.owner (.timer expiry.token) =
        some (result, h', slots)) : Turn s (h, []) (h', slots)
  /-- A timer fires, and there is no driver to call. -/
  | lapse {h : Host L P} {id : TimerId} {expiry : Expiry} {timers : TimerTable}
      (hfire : h.timers.fire id s.now = some (expiry, timers))
      (hcall : (h.rung timers id expiry.owner).call s expiry.owner (.timer expiry.token) = none) :
      Turn s (h, []) (h.rung timers id expiry.owner, [])
  /-- A driver is loaded from outside. -/
  | load {h h' : Host L P} {slot : SlotId} {name : String} {core : Option CoreId}
      (hload : h.installDriver s.factory slot name core = (.ok (), h')) : Turn s (h, []) (h', [slot])
  | refuse {h h' : Host L P} {slot : SlotId} {name : String} {core : Option CoreId}
      {e : RegistryError} (hload : h.installDriver s.factory slot name core = (.error e, h')) :
      Turn s (h, []) (h', [])
  | transmit (h : Host L P) (transmitter : Transmitter L) (slots : List SlotId) :
      Turn s (h, slots) ({ h with transmitter }, slots)
  | tell (h : Host L P) (outbox : Outbox) : Turn s (h, []) ({ h with outbox }, [])
  | arm (h : Host L P) (slot : SlotId) (i : Nat) (session : SessionId) (timeout token : Nat) :
      Turn s (h, []) ((h.armReply slot i session timeout token s.now).2, [])
  | abandon (h : Host L P) (slot : SlotId) (i : Nat) (session : SessionId) :
      Turn s (h, []) (h.abandonReply slot i session, [])
  | subscribe {h : Host L P} {slot : SlotId} {i : Nat} {r : Resource} (broadcast : Option Handle)
      (hr : h.registry.resource? slot i = some r) :
      Turn s (h, []) (h.setResource slot i { r with broadcast }, [])

/-- Any number of turns in one setting. -/
abbrev Turns (s : Setting P) : Stage L P → Stage L P → Prop := Relation.ReflTransGen (Turn s)

variable {s : Setting P} {h h' : Host L P}

/-- Initialising slots is taking turns until no slot waits. -/
lemma initialise_turns {limit : Nat} {slots : List SlotId}
    (hinit : initialise s limit slots h = some h') : Turns s (h, slots) (h', []) := by
  induction limit generalizing slots h with
  | zero =>
    cases slots with
    | nil =>
      cases hinit
      exact .refl
    | cons slot rest => cases hinit
  | succ limit ih =>
    cases slots with
    | nil =>
      cases hinit
      exact .refl
    | cons slot rest =>
      simp only [initialise] at hinit
      split at hinit
      · exact .head (.skip ‹_›) (ih hinit)
      · exact .head (.init ‹_›) (ih hinit)

/-- The link, its counters and the trace may change while slots wait. -/
lemma Turns.transmit {c : Stage L P} {slots : List SlotId} (hturns : Turns s c (h, slots))
    (transmitter : Transmitter L) : Turns s c ({ h with transmitter }, slots) :=
  hturns.tail (.transmit h transmitter slots)

end BoardLink.Host
