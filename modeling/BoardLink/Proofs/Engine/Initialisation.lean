import Mathlib.Tactic.Common
import Mathlib.Tactic.IntervalCases
import BoardLink.Link.Memory
import BoardLink.Proofs.Driver.Script
import BoardLink.Proofs.Engine.Turns
import BoardLink.Proofs.Host.Tally

/-!
# Initialising what was loaded

Each driver that is loaded during an action is initialised before the action ends, as often as its
slot waits when the call that loaded it returns, unless another comes into the slot before. A slot
waits more than once if drivers are loaded into it more than once.
-/

namespace BoardLink.Engine

open Host (Move Moves)

variable {L P : Type} [Link L] [Driver P] {options : EngineOptions} {factory : Factory P}
  {e e' : Engine L P} {now : Nat}

/-- Every action lets the host make moves, at whose beginning and end no slot waits. -/
lemma act_moves {a : Action L} (hact : e.act now a = some e') :
    Moves (e.setting now) (e.host, []) (e'.host, []) := by
  by_cases hstart : a = .start
  · subst hstart
    obtain ⟨⟨r, e₁⟩, hstart, rfl⟩ := Option.map_eq_some_iff.mp hact
    rcases start_turns hstart with ⟨_, rfl⟩ | ⟨host, host', hfresh, hset, hturns⟩
    · exact .refl
    · exact .head (.start hfresh hset) hturns.moves
  · exact (act_turns hact hstart).moves

/-- In every run with drivers that bring in others only by loading them, the instances in slots have
numbers of their own. -/
lemma Reachable.roster (he : Reachable options factory e)
    (hfactory : ∀ name driver, factory.create name = some driver → driver.Loads) :
    e.host.Roster := by
  induction he with
  | create link limit =>
    have hfree := Registry.slot?_empty (D := Instance P) options.maxSlots options.maxResources
    have hholds (slot : SlotId) (n : Nat)
        (hn : (Engine.create options link factory).host.Holds slot n) : False := by
      obtain ⟨s, inst, hs, _⟩ := hn
      cases (hfree slot).symm.trans hs
    refine ⟨fun slot s inst hs => ?_, ⟨fun slot n hn => ?_, fun slot slot' n hn => ?_⟩,
      fun slot g hg => ?_, fun _ _ => rfl⟩
    · cases (hfree slot).symm.trans hs
    · exact (hholds slot n hn).elim
    · exact (hholds slot n hn).elim
    · exact Registry.generation?_empty hg
  | act now a he hact ih =>
    have hfactory' := he.fixed.factory.symm ▸ hfactory
    exact (Moves.grows hfactory' (act_moves hact) ih).roster

/-- An action lets its host make moves in which each driver that is loaded and is still in its slot
when the call that loaded it returns is initialised as often as the slot waits then, or another comes
into the slot while it still waits. A driver that is not in its slot any more is never initialised, and
a driver from before is not initialised again. So if no slot ever waits twice, no driver that is
loaded is initialised twice. -/
theorem Reachable.inits_eq_count (he : Reachable options factory e)
    (hfactory : ∀ name driver, factory.create name = some driver → driver.Loads)
    {a : Action L} (hact : e.act now a = some e') (hunwrapped : e.host.Unwrapped e'.host) :
    Moves (e.setting now) (e.host, []) (e'.host, []) ∧
    (∀ n < e.host.nextSerial, e'.host.journal.inits n = e.host.journal.inits n) ∧
    (∀ b c, Moves (e.setting now) (e.host, []) b → Move (e.setting now) b c →
      Moves (e.setting now) c (e'.host, []) → ∀ n, b.1.nextSerial ≤ n → n < c.1.nextSerial →
        ((∀ slot, ¬ c.1.Holds slot n) → e'.host.journal.inits n = 0) ∧
        ∀ slot, c.1.Holds slot n → slot ∈ c.2 ∧ e'.host.journal.inits n ≤ c.2.count slot ∧
          (e'.host.journal.inits n = c.2.count slot ∨
            ∃ d, Moves (e.setting now) c d ∧ Moves (e.setting now) d (e'.host, []) ∧
              slot ∈ d.2 ∧ ¬ d.1.Holds slot n)) ∧
    ((∀ c, Moves (e.setting now) (e.host, []) c → Moves (e.setting now) c (e'.host, []) →
      c.2.Nodup) → ∀ n, e.host.nextSerial ≤ n → e'.host.journal.inits n ≤ 1) := by
  have hfactory' := he.fixed.factory.symm ▸ hfactory
  have hr := he.roster hfactory
  have hmoves := act_moves hact
  refine ⟨hmoves, fun n hn => Moves.inits_older hfactory' hmoves hr hunwrapped hn,
    fun b c hbefore hmove hafter n hle hlt => ?_,
    fun hnodup n hle => Moves.inits_le_one hfactory' hmoves hr hunwrapped hnodup hle⟩
  have hgrows := Moves.grows hfactory' hbefore hr
  have hunwrapped' := hgrows.unwrapped_right hunwrapped
  exact ⟨hmove.inits_replaced hfactory' hafter hgrows.roster hunwrapped' hle hlt, fun slot hold =>
    hmove.inits_stayed hfactory' hafter hgrows.roster hunwrapped' hle hold⟩

/-- A driver loads two others and is then loaded once more. All are initialised once, and those of the
first time are not initialised again. -/
theorem inits_eq_count_reloaded :
    let script : Script (Occupant TestDriver) := { rules := [
      { kind := .init, conditions := []
        steps := [⟨.install ⟨2⟩ "child" (.ok none), false⟩, ⟨.install ⟨3⟩ "child" (.ok none), false⟩] }] }
    let factory : Factory TestDriver :=
      { drivers := [("child", .loaded (.scripted { rules := [] })),
          ("parent", .loaded (.scripted script))] }
    let options : EngineOptions :=
      { bufferSize := 1, maxSlots := 4, maxResources := 0, maxTimers := 0, ackTimeout := 100
        tracePackets := false, overloads := [] }
    ∃ e e' : Engine MemoryLink TestDriver, Reachable options factory e ∧
      (∀ name driver, factory.create name = some driver → driver.Loads) ∧
      e.act 0 (.install ⟨1⟩ "parent" none) = some e' ∧ e.host.Unwrapped e'.host ∧
      Moves (e.setting 0) (e.host, []) (e'.host, []) ∧ e.host.nextSerial = 3 ∧
      ∀ n < 6, e'.host.journal.inits n = 1 := by
  intro script factory options
  have hfactory : ∀ name driver, factory.create name = some driver → driver.Loads := by
    intro name driver hcreate
    rw [Factory.create, List.lookup_cons] at hcreate
    split at hcreate
    · cases hcreate
      exact ⟨∅, TestDriver.keepsTo_scripted lenient_loads ⟨nofun, nofun⟩⟩
    · rw [List.lookup_cons] at hcreate
      split at hcreate
      · cases hcreate
        exact ⟨∅, TestDriver.keepsTo_scripted lenient_loads ⟨by simp [script], nofun⟩⟩
      · cases hcreate
  let new : Engine MemoryLink TestDriver := { create options {} factory with initLimit := 3 }
  have hrun : ((new.act 0 (.install ⟨1⟩ "parent" none)).bind fun e =>
      (e.act 0 (.install ⟨1⟩ "parent" none)).map fun e' =>
        (e.host.nextSerial, [0, 1, 2].map e.host.journal.inits, e'.host.journal.length,
          [3, 4, 5].map e'.host.journal.inits)) = some (3, [1, 1, 1], 28, [1, 1, 1]) := by
    decide +kernel
  obtain ⟨e, hload, hrun⟩ := Option.bind_eq_some_iff.mp hrun
  obtain ⟨e', hreload, hrun⟩ := Option.map_eq_some_iff.mp hrun
  simp only [Prod.mk.injEq, List.map_cons, List.map_nil, List.cons.injEq, and_true] at hrun
  obtain ⟨hserial, ⟨h₀, h₁, h₂⟩, hlength, h₃, h₄, h₅⟩ := hrun
  have hnew : Reachable options factory new := .create ({} : MemoryLink) 3
  have he : Reachable options factory e := .act 0 _ hnew hload
  have hunwrapped : e.host.Unwrapped e'.host := by
    intro slot
    have hle : e'.host.journal.fills slot ≤ e'.host.journal.length := List.countP_le_length
    rw [hlength] at hle
    exact Nat.lt_of_le_of_lt hle (Nat.lt_of_lt_of_le (by decide) (Nat.le_add_left _ _))
  obtain ⟨hmoves, holder, _⟩ := he.inits_eq_count hfactory hreload hunwrapped
  refine ⟨e, e', he, hfactory, hreload, hunwrapped, hmoves, hserial, fun n hn => ?_⟩
  rw [hserial] at holder
  interval_cases n
  · exact (holder 0 (by decide)).trans h₀
  · exact (holder 1 (by decide)).trans h₁
  · exact (holder 2 (by decide)).trans h₂
  · exact h₃
  · exact h₄
  · exact h₅

/-- A driver loads two others into the same slot. The first of them is never initialised, and the
second one, which stays, is initialised twice. -/
theorem inits_of_loaded_twice :
    let script : Script (Occupant TestDriver) := { rules := [
      { kind := .init, conditions := []
        steps := [⟨.install ⟨2⟩ "child" (.ok none), false⟩, ⟨.install ⟨2⟩ "child" (.ok none), false⟩] }] }
    let factory : Factory TestDriver :=
      { drivers := [("child", .loaded .silent), ("twice", .loaded (.scripted script))] }
    let options : EngineOptions :=
      { bufferSize := 1, maxSlots := 4, maxResources := 0, maxTimers := 0, ackTimeout := 100
        tracePackets := false, overloads := [] }
    ∃ e : Engine MemoryLink TestDriver, Reachable options factory e ∧
      ((e.host.registry.slot? ⟨2⟩).bind Slot.driver).map Instance.serial = some 2 ∧
      e.host.journal.calls 1 = [] ∧ e.host.journal.calls 2 = [.init, .init] := by
  intro script factory options
  let new : Engine MemoryLink TestDriver := { create options {} factory with initLimit := 3 }
  have hrun : (new.act 0 (.install ⟨1⟩ "twice" none)).map (fun e =>
      (((e.host.registry.slot? ⟨2⟩).bind Slot.driver).map Instance.serial, e.host.journal.calls 1,
        e.host.journal.calls 2)) = some (some 2, [], [.init, .init]) := by
    decide +kernel
  obtain ⟨e, hload, hrun⟩ := Option.map_eq_some_iff.mp hrun
  simp only [Prod.mk.injEq] at hrun
  obtain ⟨hserial, hfirst, hsecond⟩ := hrun
  have hnew : Reachable options factory new := .create ({} : MemoryLink) 3
  exact ⟨e, .act 0 _ hnew hload, hserial, hfirst, hsecond⟩

end BoardLink.Engine
