import BoardLink.Driver.Program

/-!
# Drivers that follow rules

A scripted driver puts every call on record and then follows the first of its rules that fits: it
does what the rule says, step by step, puts each step on record too, and answers as the rule says.
With it the behaviour of a host can be tried out without a real peripheral.
-/

namespace BoardLink

namespace Script

inductive Kind where
  | init
  | packet
  | request
  | timer
  deriving DecidableEq, Repr

def Kind.of : Callback → Kind
  | .init => .init
  | .packet _ => .packet
  | .request .. => .request
  | .timer _ => .timer

/-- What a rule can ask of a call. A condition on something that the call does not have fails. -/
inductive Condition where
  /-- The instance had that many calls of the same kind before. -/
  | nth (n : Nat)
  | operation (o : Operation)
  | register (n : Nat)
  | resource (i : Nat)
  | isGet
  | isSet
  | value (v : String)
  | token (n : Nat)
  deriving DecidableEq, Repr

/-- Does the condition hold of a call that comes after `earlier` ones of its kind? -/
def Condition.holds (earlier : Nat) (c : Callback) : Condition → Bool
  | .nth n => n == earlier
  | .operation o => match c with
    | .packet p => p.header.operation == o
    | _ => false
  | .register n => match c with
    | .packet p => p.header.register.toNat == n
    | _ => false
  | .resource i => match c with
    | .request j _ _ => i == j
    | _ => false
  | .isGet => match c with
    | .request _ _ .get => true
    | _ => false
  | .isSet => match c with
    | .request _ _ (.set _) => true
    | _ => false
  | .value v => match c with
    | .request _ _ (.set w) => v == w
    | _ => false
  | .token n => match c with
    | .timer t => n == t
    | _ => false

/-- What a rule can do, for hosts whose slots hold drivers of type `D`. An argument that names no
core or no packet makes the action fail. An absent session is the one that asked. -/
inductive Action (D : Type) where
  | addResource (name : String) (flags : UInt8)
  | identity (name description : String)
  | bind (core : Except PacketError CoreId)
  | send (packet : Except PacketError Packet)
  | sendTo (target : Except PacketError (CoreId × Packet))
  /-- The timer is remembered under a name, if one is given. -/
  | timer (kind : Timer.Kind) (period token : Nat) (name : Option String)
  | cancel (name : String)
  | await (resource : Nat) (session : Option SessionId) (token : Nat)
  | complete (resource : Nat) (text : String)
  | broadcast (resource : Nat) (text : String)
  | say (session : Option SessionId) (text : String)
  | prompt (session : Option SessionId)
  | install (slot : SlotId) (driver : String) (core : Except PacketError (Option CoreId))
  | registry (command : Except PacketError (Registry.Command D))
  | info (resource : Nat)

def Action.name {D : Type} : Action D → String
  | .addResource .. => "add_resource"
  | .identity .. => "identity"
  | .bind _ => "bind"
  | .send _ => "send"
  | .sendTo _ => "send_to"
  | .timer .. => "timer"
  | .cancel _ => "cancel"
  | .await .. => "await"
  | .complete .. => "complete"
  | .broadcast .. => "broadcast"
  | .say .. => "say"
  | .prompt _ => "prompt"
  | .install .. => "install"
  | .registry _ => "registry"
  | .info _ => "info"

/-- An action, and whether its failure ends the rule. -/
structure Step (D : Type) where
  action : Action D
  required : Bool := false

/-- How a rule answers a request. -/
inductive Reply where
  | text (s : String)
  | pending
  | badValue (name value : String)
  deriving DecidableEq, Repr

structure Rule (D : Type) where
  kind : Kind
  conditions : List Condition
  steps : List (Step D)
  reply : Option Reply := none

end Script

/-- A driver that follows rules. -/
structure Script (D : Type) where
  rules : List (Script.Rule D)
  history : List Script.Kind := []
  timers : List (String × TimerId) := []

namespace Script

variable {P : Type}

/-- What an action came to, and the timer to be remembered. -/
abbrev Step.Result := Except Error Note.Answer × Option (String × TimerId)

def answer {ε α : Type} (wrap : ε → Error) (show' : α → Note.Answer) :
    Except ε α → Except Error Note.Answer
  | .ok a => .ok (show' a)
  | .error e => .error (wrap e)

/-- One operation, with nothing to be remembered. -/
def perform {ε α : Type} (op : Op P) (h : op.Result = Except ε α) (wrap : ε → Error)
    (show' : α → Note.Answer) : Program P Step.Result := do
  let r ← Program.perform op
  return (answer wrap show' (h ▸ r), none)

def withArgument {α : Type} (a : Except PacketError α) (f : α → Program P Step.Result) :
    Program P Step.Result :=
  match a with
  | .ok a => f a
  | .error e => return (.error (.packet e), none)

def overview (v : View) (resource : Nat) : Note.Answer :=
  .overview v.slot v.core v.now v.ackTimeout (v.resource? resource)
    (v.registry.slots.map fun s => (s.id, s.hasDriver))

/-- Does one action for a session. -/
def act (s : Script (Occupant P)) (session : SessionId) :
    Action (Occupant P) → Program P Step.Result
  | .addResource name flags => perform (.addResource { name, flags }) rfl .registry .number
  | .identity name description =>
    perform (.setIdentity name description) rfl .registry fun () => .done
  | .bind core => withArgument core fun core =>
    perform (.bindCore core) rfl .registry fun () => .done
  | .send packet => withArgument packet fun packet =>
    perform (.send packet) rfl id fun () => .done
  | .sendTo target => withArgument target fun (core, packet) =>
    perform (.sendTo core packet) rfl .tx fun () => .done
  | .timer kind period token name => do
    match ← Program.perform (.addTimer kind period token) with
    | .error e => return (.error (.timer e), none)
    | .ok id => return (.ok .done, name.map fun name => (name, id))
  | .cancel name =>
    match s.timers.lookup name with
    | none => return (.ok .nothing, none)
    | some id => return (.ok (.flag (← Program.perform (.cancelTimer id))), none)
  | .await resource waiting token =>
    perform (.awaitReply resource (waiting.getD session) token) rfl id fun () => .done
  | .complete resource text =>
    return (.ok (.session (← Program.perform (.completeReply resource text))), none)
  | .broadcast resource text =>
    return (.ok (.status (← Program.perform (.broadcast resource text))), none)
  | .say told text => do
    let () ← Program.perform (.say (told.getD session) text)
    return (.ok .done, none)
  | .prompt told => do
    let () ← Program.perform (.prompt (told.getD session))
    return (.ok .done, none)
  | .install slot driver core => withArgument core fun core =>
    perform (.installDriver slot driver core) rfl .registry fun () => .done
  | .registry command => withArgument command fun command =>
    perform (.registry command) rfl .registry .registry
  | .info resource => return (.ok (overview (← Program.perform .view) resource), none)

/-- Does steps in order, up to the first that is required and fails; its error comes out. -/
def follow (session : SessionId) :
    Script (Occupant P) → List (Step (Occupant P)) → Program P (Option Error × Script (Occupant P))
  | s, [] => return (none, s)
  | s, step :: steps => do
    let (result, saved) ← s.act session step.action
    let () ← Program.perform (.note (.acted step.action.name result))
    let s := { s with timers := saved.toList ++ s.timers }
    match result with
    -- an optional step that fails is on record, and that is all
    | .error e => if step.required then return (some e, s) else follow session s steps
    | .ok _ => follow session s steps

def ruleFor (s : Script (Occupant P)) (c : Callback) : Option (Rule (Occupant P)) :=
  let kind := Kind.of c
  let earlier := s.history.count kind
  s.rules.find? fun r => r.kind == kind && r.conditions.all (Condition.holds earlier c)

/-- The session that asked; outside a request, number zero. -/
def sessionOf : Callback → SessionId
  | .request _ session _ => session
  | _ => ⟨0⟩

def outcome : Option Reply → Except Error Outcome
  | some (.text s) => .ok (.reply s)
  | some .pending => .ok .pending
  | some (.badValue name value) => .error (.registry (.badValue name value))
  | none => .error (.registry (.notReadable "?"))

/-- What a call gives back, after the error of a required step, if there was one. -/
def result (failure : Option Error) (reply : Option Reply) : (c : Callback) → c.Result
  | .init => match failure with
    | some e => .error e
    | none => .ok ()
  | .packet _ => ()
  | .request .. => match failure with
    | some e => .error e
    | none => outcome reply
  | .timer _ => ()

def respond (s : Script (Occupant P)) (c : Callback) :
    Program P (c.Result × Script (Occupant P)) := do
  let view ← Program.perform .view
  let () ← Program.perform (.note (.called view.slot c))
  let rule := s.ruleFor c
  let s := { s with history := Kind.of c :: s.history }
  match rule with
  | none => return (result none none c, s)
  | some rule =>
    let (failure, s) ← follow (sessionOf c) s rule.steps
    return (result failure rule.reply c, s)

end Script

/-! ### A set of drivers to try a host with -/

/-- A driver that does nothing, or one that follows rules. -/
inductive TestDriver where
  | silent
  | scripted (s : Script (Occupant TestDriver))

namespace TestDriver

/-- What a driver does when it is called. The silent one lets users read nothing. -/
def respond : TestDriver → (c : Callback) → Program TestDriver (c.Result × TestDriver)
  | .silent, .init => return (.ok (), .silent)
  | .silent, .packet _ => return ((), .silent)
  | .silent, .request i _ _ => do
    let view ← Program.perform .view
    let name := ((view.resource? i).map Resource.name).getD ""
    return (.error (.registry (.notReadable name)), .silent)
  | .silent, .timer _ => return ((), .silent)
  | .scripted s, c => do
    let (result, s) ← s.respond c
    return (result, .scripted s)

instance : Driver TestDriver := ⟨respond⟩

end TestDriver

end BoardLink
