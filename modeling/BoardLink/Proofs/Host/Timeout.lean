import BoardLink.Proofs.Host.Table
import BoardLink.Proofs.Host.Turns

/-!
# The end of the wait

While the enumerator is alone it has the only timer. That timer fires when the wait is over, and then
all assignments are loaded, each into its own slot. A packet that the board sent unasked does not end
the wait, but a reply does that brings less than the table.
-/

namespace BoardLink

namespace Host

open Enumerator

variable {L P : Type} {h : Host L P} {n serial : Nat} {e : Enumerator}

/-- The enumerator waits for nothing else, so nothing ends with its timer but its own wait. -/
lemma Solitary.rung (hsolitary : Solitary n serial e h.registry) (timers : TimerTable) (id : TimerId) :
    Solitary n serial e (h.rung timers id .enumerator).registry := by
  obtain ⟨s, hs, hhouses, hdriver⟩ := hsolitary.enumerator
  have hresources : (Registry.expired s id).resources = s.resources := by
    rw [Registry.expired, hhouses.resources]
    simp
  have hupdated := Registry.updated_setSlot hs (Registry.expired s id)
  have hregistry : (h.rung timers id .enumerator).registry =
      h.registry.setSlot .enumerator (Registry.expired s id) := by
    simp only [Host.rung, expireReplies, record, hs]
    rfl
  rw [hregistry]
  refine ⟨hupdated.maxSlots.trans hsolitary.maxSlots, ⟨_, (hupdated.slot? _).trans (if_pos rfl),
    ⟨hhouses.driverName, hresources.trans hhouses.resources, hhouses.driver⟩, hdriver⟩,
    fun id' hid' => ?_, hsolitary.bindings⟩
  rw [hupdated.slot?, if_neg hid', hsolitary.free id' hid']

variable [Link L] [Driver P] {setting : Setting P}

/-- A call in which the enumerator leaves the registry alone. -/
lemma Solitary.call_quiet (hsolitary : Solitary n serial e h.registry) (setting : Setting P)
    (c : Callback) (result : c.Result) (e' : Enumerator) (f : TimerTable → TimerTable)
    (hrun : ∀ h₀ : Host L P, ∃ h₁,
      run setting .enumerator ((Occupant.enumerator e : Occupant P).respond c) h₀ =
        ((result, .enumerator e'), h₁, []) ∧
      h₁.registry = h₀.registry ∧ h₁.timers = f h₀.timers) :
    ∃ h', h.call setting .enumerator c = some (result, h', []) ∧
      Solitary n serial e' h'.registry ∧ h'.timers = f h.timers := by
  obtain ⟨s, hs, hhouses, hdriver⟩ := hsolitary.enumerator
  obtain ⟨h₀, generation, htaken, hcores, hgenerations, hgeneration, -, htimers, hcall⟩ :=
    exists_taken setting hs hdriver c
  obtain ⟨h₁, hrun, hregistry, htimers₁⟩ := hrun h₀
  -- nothing was installed during the run, so the slot still has the generation it was taken with
  have hgeneration₁ : h₁.registry.generation? .enumerator = some generation := by
    rw [hregistry, hgenerations, hgeneration]
  have hs₁ : h₁.registry.slot? .enumerator = some { s with driver := none } := by
    rw [hregistry]
    exact (htaken.slot? _).trans (if_pos rfl)
  have hback := Registry.updated_restoreDriver hgeneration₁ hs₁ rfl
    { serial, driver := .enumerator e' }
  refine ⟨_, hcall hrun, ⟨?_, ⟨_, (hback.slot? _).trans (if_pos rfl),
    ⟨hhouses.driverName, hhouses.resources, serial, rfl⟩, rfl⟩, fun id hid => ?_, fun c => ?_⟩, ?_⟩
  · rw [hback.maxSlots, hregistry, htaken.maxSlots, hsolitary.maxSlots]
  · rw [hback.slot?, if_neg hid, hregistry, htaken.slot?, if_neg hid, hsolitary.free id hid]
  · rw [Registry.core_restoreDriver, hregistry, hcores, hsolitary.bindings]
  · exact htimers₁.trans (congrArg f htimers)

/-- When the wait is over, the enumerator loads all that was assigned. -/
lemma Solitary.call_timeout (hsolitary : Solitary n serial e h.registry) (setting : Setting P)
    (hdistinct : (overloadLoads e.overloads).Pairwise fun l l' => l.target ≠ l'.target)
    (htargets : ∀ l ∈ overloadLoads e.overloads, l.target ≠ .enumerator ∧ l.target.toNat < n) :
    ∃ h', h.call setting .enumerator (.timer ackToken) =
        some ((), h', (overloadLoads e.overloads).map Load.target) ∧
      Equipped (fun c => (h.registry.core c).driverId) (overloadLoads e.overloads) h.registry
        h'.registry ∧
      ∀ l ∈ overloadLoads e.overloads, ∃ s, h'.registry.slot? l.target = some s ∧
        s.driver.map Instance.driver = setting.factory.create l.name := by
  obtain ⟨s, hs, hhouses, _⟩ := hsolitary.enumerator
  refine call_loads setting hs hhouses hsolitary.free (fun l hl => (htargets l hl).1)
    fun h₀ htaken hcores => ?_
  -- an overload left over is loaded without a core, so there is no core to be taken twice
  have hcore {l : Load} (hl : l ∈ overloadLoads e.overloads) : l.core = none := by
    obtain ⟨_, _, rfl⟩ := List.mem_map.mp hl
    rfl
  have hloadable : Loadable (overloadLoads e.overloads) h₀.registry := by
    refine ⟨hdistinct, hdistinct.imp_of_mem fun hl _ _ c hc => ?_,
      fun l hl => ⟨?_, ?_, fun c hc => ?_⟩⟩
    · cases (hcore hl).symm.trans hc
    · rw [htaken.maxSlots, hsolitary.maxSlots]
      exact (htargets l hl).2
    · rw [htaken.slot?, if_neg (htargets l hl).1, hsolitary.free _ (htargets l hl).1]
    · rw [hcores, hsolitary.bindings] at hc
      split_ifs at hc
      exact (htargets l hl).1 (Option.some.inj hc).symm
  obtain ⟨h₁, hloads, hlaid⟩ := run_loads setting .enumerator h₀ hloadable
  refine ⟨h₁, h₀.registry, { e with ackTimer := none, overloads := [] }, ?_, rfl, .refl _, fun c => ?_,
    hlaid⟩
  · have htimer : run setting .enumerator (e.timer ackToken) h₀ =
        ({ e with ackTimer := none, overloads := [] }, h₁,
          (overloadLoads e.overloads).map Load.target) := by
      rw [Enumerator.timer, if_pos rfl, loadRemaining, loadAll_eq]
      exact run_map _ hloads
    have hrespond := run_map (fun e : Enumerator => ((), e)) htimer
    rw [← List.append_nil (List.map Load.target _)]
    exact run_bind hrespond rfl
  · rw [hcores]

/-! ### The whole wait -/

/-- The timer of a wait. -/
def ackAlarm (started timeout : Nat) : Timer where
  kind := .oneShot
  deadline := started + timeout
  period := timeout
  owner := .enumerator
  token := ackToken

/-- The enumerator waits alone for the table, with the only timer. -/
structure Waiting (n : Nat) (o : Overloads) (alarm : Timer) (id : TimerId) (h : Host L P) : Prop where
  solitary : Solitary n 0 { Enumerator.ofOverloads o with ackTimer := some id } h.registry
  sole : h.timers.Sole id alarm

/-- The enumerator takes no notice of a packet that the board sent unasked. -/
lemma Waiting.call_unsolicited {o : Overloads} {alarm : Timer} {id : TimerId}
    (hwaiting : Waiting n o alarm id h) (setting : Setting P) {p : Packet}
    (hwrite : p.header.operation ≠ .write) (hunsolicited : p.header.isUnsolicited) :
    ∃ h', h.call setting .enumerator (.packet p) = some ((), h', []) ∧ Waiting n o alarm id h' := by
  obtain ⟨h', hcall, hsolitary, htimers⟩ := hwaiting.solitary.call_quiet setting (.packet p) () _
    (fun t => t) fun h₀ => by
      refine ⟨h₀, ?_, rfl, rfl⟩
      rw [Occupant.respond, Enumerator.respond, packet, if_neg hwrite, if_pos (.inl hunsolicited)]
      rfl
  exact ⟨h', hcall, hsolitary, htimers ▸ hwaiting.sole⟩

/-- A reply that brings less than the table ends the wait, and nothing is loaded. -/
lemma Waiting.call_short {o : Overloads} {alarm : Timer} {id : TimerId}
    (hwaiting : Waiting n o alarm id h) (setting : Setting P) {p : Packet}
    (hwrite : p.header.operation ≠ .write) (hsolicited : ¬ p.header.isUnsolicited)
    (hregister : p.header.register = tableRegister) (hcount : p.header.count.toNat = tableLength)
    (hshort : p.readData.length ≠ tableLength) :
    ∃ h', h.call setting .enumerator (.packet p) = some ((), h', []) ∧
      Solitary n 0 (.ofOverloads o) h'.registry ∧ ∀ id, h'.timers.get? id = none := by
  obtain ⟨h', hcall, hsolitary, htimers⟩ := hwaiting.solitary.call_quiet setting (.packet p) ()
    -- `ackTimer` is cleared before the length is looked at, so a short reply ends the wait for good
    (.ofOverloads o) (fun t => (t.cancel id).2) fun h₀ => by
      let waiting : Enumerator := { Enumerator.ofOverloads o with ackTimer := some id }
      let h₁ : Host L P := { h₀ with timers := (h₀.timers.cancel id).2 }
      have hpacket : run setting .enumerator (waiting.packet p) h₀ = (.ofOverloads o, h₁, []) := by
        have hcancel : run setting .enumerator waiting.cancelAck h₀ = (.ofOverloads o, h₁, []) := rfl
        rw [packet, if_neg hwrite, if_neg (by simp [hsolicited, hregister, hcount])]
        refine run_bind hcancel ?_
        rw [if_pos (.inl hshort)]
        rfl
      have hrespond := run_map (fun e : Enumerator => ((), e)) hpacket
      exact ⟨h₁, run_bind hrespond rfl, rfl, rfl⟩
  exact ⟨h', hcall, hsolitary, htimers ▸ hwaiting.sole.get?_cancel⟩

/-- At the end of the wait its timer fires, and what was assigned is loaded if it is for different
slots. -/
lemma Waiting.timeout {o : Overloads} {started timeout now : Nat} {id : TimerId}
    (hwaiting : Waiting n o (ackAlarm started timeout) id h) (setting : Setting P)
    (hnow : started + timeout ≤ now)
    (hdistinct : (overloadLoads o).Pairwise fun l l' => l.target ≠ l'.target)
    (htargets : ∀ l ∈ overloadLoads o, l.target ≠ .enumerator ∧ l.target.toNat < n) :
    ∃ timers h' ids r, h.timers.due now = [id] ∧
      h.timers.fire id now =
        some ({ id, kind := .oneShot, owner := .enumerator, token := ackToken }, timers) ∧
      (h.rung timers id .enumerator).call setting .enumerator (.timer ackToken) =
        some ((), h', (overloadLoads o).map Load.target) ∧
      Equipped ids (overloadLoads o) r h'.registry ∧
      ∀ l ∈ overloadLoads o, ∃ s, h'.registry.slot? l.target = some s ∧
        s.driver.map Instance.driver = setting.factory.create l.name := by
  obtain ⟨timers, hfire, _⟩ := hwaiting.sole.exists_fire rfl hnow
  obtain ⟨h', hcall, hequipped, hfilled⟩ :=
    (hwaiting.solitary.rung timers id).call_timeout setting hdistinct htargets
  exact ⟨timers, h', _, _, hwaiting.sole.due hnow, hfire, hcall, hequipped, hfilled⟩

end Host

end BoardLink
