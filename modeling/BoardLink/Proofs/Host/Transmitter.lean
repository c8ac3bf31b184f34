import Mathlib.Tactic.Common
import BoardLink.Host.Basic

/-!
# What drivers cannot see of the transmitter

Drivers send packets and learn what became of them. A change of the transmitter that no packet
shows is therefore no change for drivers: they do the same before it and after it, and what they do
to the transmitter can be done before the change or after it.
-/

namespace BoardLink.Host

variable {L P : Type}

/-- Another transmitter. -/
def mapTransmitter (φ : Transmitter L → Transmitter L) (h : Host L P) : Host L P :=
  { h with transmitter := φ h.transmitter }

variable {φ : Transmitter L → Transmitter L}

@[simp] lemma mapTransmitter_registry (h : Host L P) :
    (h.mapTransmitter φ).registry = h.registry := rfl

@[simp] lemma mapTransmitter_timers (h : Host L P) : (h.mapTransmitter φ).timers = h.timers := rfl

@[simp] lemma mapTransmitter_transmitter (h : Host L P) :
    (h.mapTransmitter φ).transmitter = φ h.transmitter := rfl

@[simp] lemma mapTransmitter_outbox (h : Host L P) : (h.mapTransmitter φ).outbox = h.outbox := rfl

@[simp] lemma mapTransmitter_nextSerial (h : Host L P) :
    (h.mapTransmitter φ).nextSerial = h.nextSerial := rfl

@[simp] lemma mapTransmitter_getResource (h : Host L P) (slot : SlotId) (i : Nat) :
    (h.mapTransmitter φ).getResource slot i = h.getResource slot i := rfl

/-! ### Operations that send nothing -/

private lemma onSlot_mapTransmitter {α : Type} (h : Host L P) (slot : SlotId)
    (f : Slot (Instance P) → Except RegistryError (α × Slot (Instance P))) :
    (h.mapTransmitter φ).onSlot slot f = Prod.map id (mapTransmitter φ) (h.onSlot slot f) := by
  simp only [onSlot, mapTransmitter_registry]
  cases h.registry.getSlot slot with
  | error e => rfl
  | ok s => cases hf : f s <;> simp only [hf] <;> rfl

private lemma armReply_mapTransmitter (h : Host L P) (slot : SlotId) (i : Nat)
    (session : SessionId) (timeout token now : Nat) :
    (h.mapTransmitter φ).armReply slot i session timeout token now =
      Prod.map id (mapTransmitter φ) (h.armReply slot i session timeout token now) := by
  simp only [armReply, mapTransmitter_getResource, mapTransmitter_timers]
  cases h.getResource slot i with
  | error e => rfl
  | ok r =>
    cases hlock : r.tryLock session with
    | error e => simp only [hlock]; rfl
    | ok r =>
      simp only [hlock]
      cases h.timers.add .oneShot timeout slot token now <;> rfl

private lemma completeReply_mapTransmitter (h : Host L P) (slot : SlotId) (i : Nat)
    (text : String) :
    (h.mapTransmitter φ).completeReply slot i text =
      Prod.map id (mapTransmitter φ) (h.completeReply slot i text) := by
  simp only [completeReply, mapTransmitter_getResource]
  cases h.getResource slot i with
  | error e => rfl
  | ok r =>
    cases htimer : r.pendingTimer <;> cases hlock : r.lock <;> simp only [htimer, hlock] <;> rfl

private lemma broadcast_mapTransmitter (h : Host L P) (slot : SlotId) (i : Nat) (text : String) :
    (h.mapTransmitter φ).broadcast slot i text =
      Prod.map id (mapTransmitter φ) (h.broadcast slot i text) := by
  simp only [broadcast, mapTransmitter_registry, mapTransmitter_outbox]
  cases h.registry.resource? slot i with
  | none => rfl
  | some r =>
    cases hhandle : r.broadcast with
    | none => simp only [hhandle]; rfl
    | some handle =>
      simp only [hhandle]
      by_cases hcleared : (h.outbox.broadcast handle text).1 = .cleared
      · simp only [hcleared, if_true]; rfl
      · simp only [hcleared, if_false]; rfl

private lemma dropTimers_mapTransmitter (h : Host L P) (slot : SlotId) :
    (h.mapTransmitter φ).dropTimers slot = (h.dropTimers slot).mapTransmitter φ := by
  cases hused : (h.registry.slot? slot).isSome <;>
    simp only [dropTimers, mapTransmitter_registry, hused] <;> rfl

private lemma freeCore_mapTransmitter (h : Host L P) (slot : SlotId) (core : CoreId) :
    (h.mapTransmitter φ).freeCore slot core = (h.freeCore slot core).mapTransmitter φ := by
  simp only [freeCore, mapTransmitter_registry]
  cases (h.registry.core core).slot with
  | none => rfl
  | some owner => by_cases hown : owner = slot <;> simp only [hown, if_true, if_false]; rfl

private lemma installFresh_mapTransmitter (h : Host L P) (slot : SlotId) (name : String) :
    (h.mapTransmitter φ).installFresh slot name =
      (h.installFresh slot name).map (mapTransmitter φ) := by
  simp only [installFresh, mapTransmitter_registry]
  cases h.registry.install slot name <;> rfl

private lemma setDriver_mapTransmitter (h : Host L P) (slot : SlotId) (driver : Occupant P) :
    (h.mapTransmitter φ).setDriver slot driver =
      (h.setDriver slot driver).map (mapTransmitter φ) := by
  simp only [setDriver, mapTransmitter_registry, mapTransmitter_nextSerial]
  cases h.registry.setDriver slot { serial := h.nextSerial, driver } <;> rfl

private lemma vacate_mapTransmitter (h : Host L P) (slot : SlotId) (core : Option CoreId) :
    (h.mapTransmitter φ).vacate slot core = (h.vacate slot core).mapTransmitter φ := by
  cases core <;> simp only [vacate, dropTimers_mapTransmitter, freeCore_mapTransmitter]

private lemma bindTo_mapTransmitter (h : Host L P) (slot : SlotId) (core : Option CoreId) :
    (h.mapTransmitter φ).bindTo slot core = (h.bindTo slot core).map (mapTransmitter φ) := by
  cases core with
  | none => rfl
  | some c =>
    simp only [bindTo, mapTransmitter_registry]
    cases h.registry.bindCore c slot <;> rfl

private lemma loadDriver_mapTransmitter (h : Host L P) (factory : Factory P) (slot : SlotId)
    (name : String) :
    (h.mapTransmitter φ).loadDriver factory slot name =
      (h.loadDriver factory slot name).map (mapTransmitter φ) := by
  simp only [loadDriver]
  cases factory.create name with
  | none => rfl
  | some driver => exact setDriver_mapTransmitter h slot driver

private lemma fill_mapTransmitter (h : Host L P) (factory : Factory P) (slot : SlotId)
    (name : String) (core : Option CoreId) :
    (h.mapTransmitter φ).fill factory slot name core =
      Prod.map id (mapTransmitter φ) (h.fill factory slot name core) := by
  simp only [fill, installFresh_mapTransmitter]
  cases h.installFresh slot name with
  | error e => rfl
  | ok h =>
    simp only [Except.map, bindTo_mapTransmitter]
    cases h.bindTo slot core with
    | error e => rfl
    | ok h =>
      simp only [Except.map, loadDriver_mapTransmitter]
      cases h.loadDriver factory slot name <;> rfl

private lemma installDriver_mapTransmitter (h : Host L P) (factory : Factory P) (slot : SlotId)
    (name : String) (core : Option CoreId) :
    (h.mapTransmitter φ).installDriver factory slot name core =
      Prod.map id (mapTransmitter φ) (h.installDriver factory slot name core) := by
  simp only [installDriver, vacate_mapTransmitter, fill_mapTransmitter]

private lemma command_mapTransmitter (h : Host L P) (c : Registry.Command (Occupant P)) :
    (h.mapTransmitter φ).command c = Prod.map id (mapTransmitter φ) (h.command c) := by
  simp only [command, mapTransmitter_registry, mapTransmitter_nextSerial]
  cases h.registry.perform (c.map fun driver => { serial := h.nextSerial, driver }) <;> rfl

/-! ### Packets -/

variable [Link L]

/-- A change of the transmitter that no packet shows. -/
def Unseen (φ : Transmitter L → Transmitter L) : Prop :=
  ∀ (t : Transmitter L) (core : CoreId) (packet : Packet),
    (φ t).send core packet = Prod.map id φ (t.send core packet)

private lemma sendTo_mapTransmitter (hφ : Unseen φ) (h : Host L P) (core : CoreId)
    (packet : Packet) :
    (h.mapTransmitter φ).sendTo core packet = Prod.map id (mapTransmitter φ) (h.sendTo core packet) := by
  simp only [sendTo, mapTransmitter_transmitter, hφ h.transmitter core packet]
  rfl

private lemma send_mapTransmitter (hφ : Unseen φ) (h : Host L P) (slot : SlotId) (packet : Packet) :
    (h.mapTransmitter φ).send slot packet = Prod.map id (mapTransmitter φ) (h.send slot packet) := by
  simp only [send, mapTransmitter_registry]
  cases (h.registry.slot? slot).bind Slot.core with
  | none => rfl
  | some core => simp only [sendTo_mapTransmitter hφ]; rfl

/-! ### Programs and calls -/

variable {setting : Setting P}

/-- An operation comes out the same and does the same. -/
lemma perform_mapTransmitter (hφ : Unseen φ) (h : Host L P) (slot : SlotId) (op : Op P) :
    (h.mapTransmitter φ).perform setting slot op =
      Prod.map id (mapTransmitter φ) (h.perform setting slot op) := by
  cases op with
  | view => rfl
  | setIdentity name description =>
    exact onSlot_mapTransmitter h slot fun s => .ok ((), { s with name, description })
  | addResource resource =>
    exact onSlot_mapTransmitter h slot fun s => s.addResource resource
  | bindCore core =>
    simp only [perform, mapTransmitter_registry]
    cases h.registry.bindCore core slot <;> rfl
  | send packet => exact send_mapTransmitter hφ h slot packet
  | sendTo core packet => exact sendTo_mapTransmitter hφ h core packet
  | addTimer kind period token =>
    simp only [perform, mapTransmitter_timers]
    cases h.timers.add kind period slot token setting.now <;> rfl
  | cancelTimer id => rfl
  | say session text => rfl
  | prompt session => rfl
  | awaitReply resource session token => exact armReply_mapTransmitter h slot _ _ _ _ _
  | completeReply resource text => exact completeReply_mapTransmitter h slot resource text
  | broadcast resource text => exact broadcast_mapTransmitter h slot resource text
  | installDriver target name core => exact installDriver_mapTransmitter h _ target name core
  | registry command => exact command_mapTransmitter h command
  | note n => rfl

/-- So does a program. -/
lemma run_mapTransmitter (hφ : Unseen φ) {α : Type} (slot : SlotId) (program : Program P α)
    (h : Host L P) :
    run setting slot program (h.mapTransmitter φ) =
      Prod.map id (Prod.map (mapTransmitter φ) id) (run setting slot program h) := by
  induction program generalizing h with
  | done a => rfl
  | step op next ih =>
    simp only [run, perform_mapTransmitter hφ, Prod.map, id, ih]

variable [Driver P]

/-- So does a call of a driver. -/
lemma call_mapTransmitter (hφ : Unseen φ) (h : Host L P) (slot : SlotId) (c : Callback) :
    (h.mapTransmitter φ).call setting slot c =
      (h.call setting slot c).map (Prod.map id (Prod.map (mapTransmitter φ) id)) := by
  simp only [call, mapTransmitter_registry]
  cases h.registry.takeDriver slot with
  | none => rfl
  | some taken =>
    have htaken : ({ h.mapTransmitter φ with registry := taken.2.2 }.record
        (.called slot taken.1.serial c) : Host L P) =
        ({ h with registry := taken.2.2 }.record (.called slot taken.1.serial c)).mapTransmitter φ :=
      rfl
    simp only [htaken, run_mapTransmitter hφ]
    rfl

/-- So do the initialisations after a call. -/
lemma initialise_mapTransmitter (hφ : Unseen φ) (limit : Nat) (slots : List SlotId) (h : Host L P) :
    initialise setting limit slots (h.mapTransmitter φ) =
      (initialise setting limit slots h).map (mapTransmitter φ) := by
  induction limit generalizing slots h with
  | zero => cases slots <;> rfl
  | succ limit ih =>
    cases slots with
    | nil => rfl
    | cons slot rest =>
      simp only [initialise, call_mapTransmitter hφ]
      cases h.call setting slot .init with
      | none => exact ih rest h
      | some called => exact ih _ _

end BoardLink.Host
