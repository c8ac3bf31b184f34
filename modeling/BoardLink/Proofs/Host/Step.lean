import Mathlib.Logic.Relation
import Mathlib.Tactic.Common
import BoardLink.Host.Basic

/-!
# Steps of a host

Between two actions of an engine its host takes steps of a few kinds, and slots are filled from
outside by two more. What all steps preserve holds whatever the engine is asked for.
-/

namespace BoardLink

/-- Sending is nothing to the answers that are missing. -/
lemma Transmitter.missingAcks_sendBytes {L : Type} [Link L] (t : Transmitter L) (core : CoreId)
    (packet : Bytes) : (t.sendBytes core packet).2.stats.missingAcks = t.stats.missingAcks := by
  simp only [sendBytes]
  split_ifs
  · rfl
  · rfl
  all_goals
    split
    · rfl
    · simp only [countWrite]
      split <;> split_ifs <;> rfl

namespace Host

variable {L P : Type} [Link L] [Driver P]

/-- A call takes the driver out of its slot, runs its program, and puts back what became of it. -/
lemma call_eq_some {s : Setting P} {h h' : Host L P} {slot : SlotId} {c : Callback}
    {result : c.Result} {slots : List SlotId} (hcall : h.call s slot c = some (result, h', slots)) :
    ∃ inst generation registry driver h₁,
      h.registry.takeDriver slot = some (inst, generation, registry) ∧
      run s slot (inst.driver.respond c) ({ h with registry }.record (.called slot inst.serial c)) =
        ((result, driver), h₁, slots) ∧
      h' = { h₁ with
        registry := h₁.registry.restoreDriver slot { inst with driver } generation } := by
  simp only [call] at hcall
  split at hcall
  · cases hcall
  · rename_i inst generation registry htake
    cases hcall
    exact ⟨inst, generation, registry, _, _, htake, rfl, rfl⟩

section Relation

variable {setting : Setting P} {slot : SlotId} {R : Host L P → Host L P → Prop}

omit [Link L] [Driver P] in
/-- What making room for a driver does and each step of filling the slot, loading the driver does. -/
lemma installDriver_rel {h : Host L P} {factory : Factory P} {name : String} {core : Option CoreId}
    (htrans : ∀ {h h' h''}, R h h' → R h' h'' → R h h'') (hvacate : R h (h.vacate slot core))
    (hfresh : ∀ {h h'}, h.installFresh slot name = .ok h' → R h h')
    (hbind : ∀ {h h'}, h.bindTo slot core = .ok h' → R h h')
    (hload : ∀ {h h'}, h.loadDriver factory slot name = .ok h' → R h h') :
    R h (h.installDriver factory slot name core).2 := by
  simp only [installDriver, fill]
  split
  · exact hvacate
  · have hfilled := htrans hvacate (hfresh ‹_›)
    split
    · exact hfilled
    · have hbound := htrans hfilled (hbind ‹_›)
      split
      · exact hbound
      · exact htrans hbound (hload ‹_›)

omit [Driver P] in
/-- What every operation does, a program does. -/
lemma run_rel (hrefl : ∀ h, R h h) (htrans : ∀ {h h' h''}, R h h' → R h' h'' → R h h'')
    (hperform : ∀ h op, R h (h.perform setting slot op).2) {α : Type} (p : Program P α)
    (h : Host L P) : R h (run setting slot p h).2.1 := by
  induction p generalizing h with
  | done a => exact hrefl h
  | step op next ih => exact htrans (hperform h op) (ih _ _)

/-- What every operation does, and every entry in the journal, a call does. -/
lemma call_rel {h h' : Host L P} {c : Callback} {result : c.Result} {slots : List SlotId}
    (hcall : h.call setting slot c = some (result, h', slots)) (hrefl : ∀ h, R h h)
    (htrans : ∀ {h h' h''}, R h h' → R h' h'' → R h h'')
    (hregistry : ∀ h registry, R h { h with registry }) (hrecord : ∀ h e, R h (h.record e))
    (hperform : ∀ h op, R h (h.perform setting slot op).2) : R h h' := by
  obtain ⟨inst, generation, registry, driver, h₁, _, hrun, rfl⟩ := call_eq_some hcall
  have hbefore : R h ({ h with registry }.record (.called slot inst.serial c)) :=
    htrans (hregistry h registry) (hrecord _ _)
  have hduring := run_rel hrefl htrans hperform (inst.driver.respond c)
    ({ h with registry }.record (.called slot inst.serial c))
  rw [hrun] at hduring
  exact htrans (htrans hbefore hduring) (hregistry h₁ _)

end Relation

omit [Link L] [Driver P] in
lemma expireReplies_timers (h : Host L P) (owner : SlotId) (timer : TimerId) :
    (h.expireReplies owner timer).timers = h.timers := by
  simp only [expireReplies]
  split <;> rfl

/-- One step of a host in some setting. No step of this kind fills a slot, unless a driver does. -/
inductive Step (s : Setting P) : Host L P → Host L P → Prop
  | call {h h' : Host L P} {slot : SlotId} {c : Callback} {result : c.Result} {slots : List SlotId}
      (hcall : h.call s slot c = some (result, h', slots)) : Step s h h'
  /-- The link, its counters or the trace change, but no answer is found missing. -/
  | transmit (h : Host L P) (transmitter : Transmitter L)
      (hacks : transmitter.stats.missingAcks = h.transmitter.stats.missingAcks) :
      Step s h { h with transmitter }
  | tell (h : Host L P) (outbox : Outbox) : Step s h { h with outbox }
  | fire {h : Host L P} {id : TimerId} {expiry : Expiry} {timers : TimerTable}
      (hfire : h.timers.fire id s.now = some (expiry, timers)) :
      Step s h (({ h with timers }.record (.fired id expiry.owner)).expireReplies expiry.owner id)
  | arm (h : Host L P) (slot : SlotId) (i : Nat) (session : SessionId) (timeout token : Nat) :
      Step s h (h.armReply slot i session timeout token s.now).2
  | abandon (h : Host L P) (slot : SlotId) (i : Nat) (session : SessionId) :
      Step s h (h.abandonReply slot i session)
  | subscribe {h : Host L P} {slot : SlotId} {i : Nat} {r : Resource} (broadcast : Option Handle)
      (hr : h.registry.resource? slot i = some r) :
      Step s h (h.setResource slot i { r with broadcast })

/-- Any number of steps in one setting. -/
abbrev Steps (s : Setting P) : Host L P → Host L P → Prop := Relation.ReflTransGen (Step s)

/-- What every step preserves, all steps preserve. -/
lemma Steps.preserve {s : Setting P} {I : Host L P → Prop} {h h' : Host L P} (hs : Steps s h h')
    (step : ∀ {h h'}, Step s h h' → I h → I h') (hI : I h) : I h' := by
  induction hs with
  | refl => exact hI
  | tail _ hstep ih => exact step hstep ih

lemma initialise_nil (setting : Setting P) (limit : Nat) (h : Host L P) :
    initialise setting limit [] h = some h := by
  cases limit with
  | zero => rfl
  | succ limit => rfl

/-- Initialising slots is calling drivers. -/
lemma initialise_steps {s : Setting P} {limit : Nat} {slots : List SlotId} {h h' : Host L P}
    (hinit : initialise s limit slots h = some h') : Steps s h h' := by
  induction limit generalizing slots h with
  | zero =>
    cases slots with
    | nil =>
      cases hinit
      exact .refl
    | cons slot rest => cases hinit
  | succ limit ih =>
    cases slots with
    | nil =>
      cases hinit
      exact .refl
    | cons slot rest =>
      simp only [initialise] at hinit
      split at hinit
      · exact ih hinit
      · exact .head (.call ‹_›) (ih hinit)

end Host

end BoardLink
