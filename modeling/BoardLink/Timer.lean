import BoardLink.Identifiers

/-!
# Timers

A table of bounded size. An entry is used again after its timer is gone, and its generation then
moves on, so an identifier stays good for one timer only. The table never calls anyone: it is asked
which timers are due and told to fire them. Times are milliseconds since a fixed start and come from
outside; they need not grow. An addition that passes the last instant panics: the table goes on here
with the deadline that does not exist, and remembers that it did.
-/

namespace BoardLink

/-- Why a timer cannot be armed. -/
inductive TimerError where
  | tableFull (capacity : Nat)
  | zeroPeriod
  deriving DecidableEq, Repr

def TimerError.message : TimerError → String
  | .tableFull n => s!"timer table full ({n} entries)"
  | .zeroPeriod => "periodic timer needs a non-zero period"

/-- A timer that was armed: its entry and the entry's generation then. -/
structure TimerId where
  entry : UInt32
  generation : UInt32
  deriving DecidableEq, Repr

namespace Timer

inductive Kind where
  | oneShot
  | periodic
  deriving DecidableEq, Repr

end Timer

/-- An armed timer. Its owner is the slot whose driver armed it, and the token is a number by which
that driver knows what the timer watches. -/
structure Timer where
  kind : Timer.Kind
  deadline : Nat
  period : Nat
  owner : SlotId
  token : Nat
  deriving DecidableEq, Repr

/-- A timer that fired. -/
structure Expiry where
  id : TimerId
  kind : Timer.Kind
  owner : SlotId
  token : Nat
  deriving DecidableEq, Repr

namespace TimerTable

/-- A place for one timer, which timers left so many times. -/
structure Entry where
  releases : Nat := 0
  timer : Option Timer := none
  deriving DecidableEq, Repr

/-- The generation that an entry is in, which comes back after 2³² releases. -/
def Entry.generation (e : Entry) : UInt32 := .ofNat e.releases

end TimerTable

/-- The last instant of the clock, a millisecond before 2⁶³ seconds. -/
def lastInstant : Nat := 9223372036854775807999

/-- The timers of all drivers. Entries have numbers of 32 bits; those that are free again stand in a
list, the last freed first. -/
structure TimerTable where
  entries : Array TimerTable.Entry
  free : List UInt32
  capacity : Nat
  armed : Nat
  /-- Did a deadline pass the last instant? -/
  overrun : Bool := false
  size_le : entries.size ≤ UInt32.size := by decide
  deriving DecidableEq, Repr

namespace TimerTable

def empty (capacity : Nat) : TimerTable := { entries := #[], free := [], capacity, armed := 0 }

/-- The armed timers in the order of their entries. -/
def toList (t : TimerTable) : List (TimerId × Timer) :=
  t.entries.toList.zipIdx.filterMap fun (e, i) =>
    e.timer.map fun timer => (⟨.ofNat i, e.generation⟩, timer)

def entryAt? (t : TimerTable) (i : UInt32) : Option Entry := t.entries[i.toNat]?

/-- The timer of an identifier, while it is armed. -/
def get? (t : TimerTable) (id : TimerId) : Option Timer :=
  match t.entryAt? id.entry with
  | some e => if e.generation = id.generation then e.timer else none
  | none => none

def isArmed (t : TimerTable) (id : TimerId) : Bool := (t.get? id).isSome

def modify (t : TimerTable) (i : UInt32) (f : Entry → Entry) : TimerTable :=
  { t with
    entries := t.entries.modify i.toNat f
    size_le := by
      rw [Array.size_modify]
      exact t.size_le }

/-! ### Arming -/

def grow (t : TimerTable) (h : t.entries.size < UInt32.size) : TimerTable :=
  { t with
    entries := t.entries.push {}
    size_le := by
      rw [Array.size_push]
      exact h }

/-- The entry for the next timer: the one freed last, else a new one while there is room and a number
for it. -/
def claim (t : TimerTable) : Option (UInt32 × TimerTable) :=
  match t.free with
  | i :: free => some (i, { t with free })
  | [] =>
    if h : t.entries.size < t.capacity ∧ t.entries.size < UInt32.size then
      some (.ofNat t.entries.size, t.grow h.2)
    else none

def generation (t : TimerTable) (i : UInt32) : UInt32 :=
  match t.entryAt? i with
  | some e => e.generation
  | none => 0

/-- Arms a timer that fires `period` after `now`. -/
def add (t : TimerTable) (kind : Timer.Kind) (period : Nat) (owner : SlotId) (token now : Nat) :
    Except TimerError (TimerId × TimerTable) :=
  if kind = .periodic ∧ period = 0 then .error .zeroPeriod
  else
    match t.claim with
    | none => .error (.tableFull t.capacity)
    | some (i, t) =>
      let timer : Timer := { kind, deadline := now + period, period, owner, token }
      -- the entry was released with its old timer, so it is in its new generation already
      .ok (⟨i, t.generation i⟩,
        { t.modify i fun e => { e with timer := some timer } with
          armed := t.armed + 1
          overrun := t.overrun || lastInstant < now + period })

/-! ### Cancelling -/

/-- The timer leaves its entry, which is free again in its next generation. -/
def release (t : TimerTable) (i : UInt32) : TimerTable :=
  { t.modify i fun e => { releases := e.releases + 1, timer := none } with
    free := i :: t.free
    armed := t.armed - 1 }

def cancel (t : TimerTable) (id : TimerId) : Bool × TimerTable :=
  if t.isArmed id then (true, t.release id.entry) else (false, t)

/-- Cancels every timer of a slot, in the order of the entries, and counts them. -/
def cancelOwner (t : TimerTable) (owner : SlotId) : Nat × TimerTable :=
  let owned := t.toList.filter fun (_, timer) => timer.owner = owner
  (owned.length, owned.foldl (fun t (id, _) => t.release id.entry) t)

/-! ### Deadlines -/

def nextDeadline (t : TimerTable) : Option Nat := (t.toList.map fun (_, timer) => timer.deadline).min?

/-- The time left until the earliest deadline, zero when it has passed. -/
def timeUntilNext (t : TimerTable) (now : Nat) : Option Nat := t.nextDeadline.map (· - now)

/-- The timers due at `now`, the earliest deadline first and in the order of the entries when
deadlines agree. -/
def due (t : TimerTable) (now : Nat) : List TimerId :=
  ((t.toList.filter fun (_, timer) => timer.deadline ≤ now).mergeSort
    fun a b => a.2.deadline ≤ b.2.deadline).map Prod.fst

/-! ### Firing -/

/-- Fires one timer if it is still armed and due. A one-shot timer is gone then; a periodic timer is
due again one period after `now`, however late it is. -/
def fire (t : TimerTable) (id : TimerId) (now : Nat) : Option (Expiry × TimerTable) :=
  match t.get? id with
  | none => none
  | some timer =>
    if timer.deadline ≤ now then
      let expiry : Expiry := { id, kind := timer.kind, owner := timer.owner, token := timer.token }
      match timer.kind with
      | .periodic =>
        let timer := { timer with deadline := now + timer.period }
        some (expiry,
          { t.modify id.entry fun e => { e with timer := some timer } with
            overrun := t.overrun || lastInstant < timer.deadline })
      | .oneShot => some (expiry, t.release id.entry)
    else none

def fireAll (t : TimerTable) (now : Nat) : List TimerId → List Expiry × TimerTable
  | [] => ([], t)
  | id :: ids =>
    match t.fire id now with
    | none => t.fireAll now ids
    | some (expiry, t) =>
      let (expiries, t) := t.fireAll now ids
      (expiry :: expiries, t)

def expire (t : TimerTable) (now : Nat) : List Expiry × TimerTable := t.fireAll now (t.due now)

end TimerTable

end BoardLink
