import Mathlib.Tactic.Common
import BoardLink.Link.Memory
import BoardLink.Proofs.Driver.Script
import BoardLink.Proofs.Engine.Turns
import BoardLink.Proofs.Host.Alarms

/-!
# Timers and later occupants of a slot

Whoever hears of a timer occupies the slot for which the timer was armed, and the slot was not filled
since. The slot of the enumerator is the one exception: a second start fills it and leaves the timers
of the first enumerator as they are.
-/

namespace BoardLink.Engine

variable {L P : Type} [Link L] [Driver P] {options : EngineOptions} {factory : Factory P}
  {e e' : Engine L P} {starts : List Nat}

/-! ### Starts in a run -/

omit [Link L] [Driver P] in
/-- The place in the journal where an action, if it is a start, overwrites the slot of the
enumerator. -/
def overwrites (e : Engine L P) : Action L → List Nat
  | .start =>
    match e.host.installFresh .enumerator Enumerator.name with
    | .ok _ => [e.host.journal.length]
    | .error _ => []
  | _ => []

/-- The engines that runs lead to, with the places in the journal where starts overwrote the slot of
the enumerator. -/
inductive Run (options : EngineOptions) (factory : Factory P) : List Nat → Engine L P → Prop
  | create (link : L) (limit : Nat) :
    Run options factory [] { create options link factory with initLimit := limit }
  | act {starts : List Nat} {e e' : Engine L P} (now : Nat) (a : Action L)
    (he : Run options factory starts e) (h : e.act now a = some e') :
    Run options factory (starts ++ e.overwrites a) e'

lemma Run.reachable (h : Run options factory starts e) : Reachable options factory e := by
  induction h with
  | create link limit => exact .create link limit
  | act now a _ hact ih => exact .act now a ih hact

/-- Every engine that a run leads to has such places in its journal. -/
lemma Reachable.exists_run (h : Reachable options factory e) :
    ∃ starts, Run options factory starts e := by
  induction h with
  | create link limit => exact ⟨[], .create link limit⟩
  | act now a _ hact ih =>
    obtain ⟨starts, hrun⟩ := ih
    exact ⟨_, hrun.act now a hact⟩

/-! ### What a run preserves -/

variable {pool now : Nat}

private lemma start_regular {r : Except Error Unit} (hstart : e.start now = some (r, e'))
    (hfactory : ∀ name driver, e.factory.create name = some driver → driver.Tidy pool)
    (hr : e.host.Regular starts pool) :
    e'.host.Regular (starts ++ e.overwrites .start) pool := by
  simp only [overwrites]
  rcases start_turns hstart with ⟨⟨_, herror⟩, rfl⟩ | ⟨host, host', hfresh, hset, hturns⟩
  · rw [herror, List.append_nil]
    exact hr
  · rw [hfresh]
    have hmanned := (hr.start hfresh).setDriver hset (tidy_enumerator pool e.overloads)
    exact hturns.regular hfactory hmanned

/-- With tidy drivers no action upsets the timers. -/
lemma act_regular {a : Action L} (hact : e.act now a = some e')
    (hfactory : ∀ name driver, e.factory.create name = some driver → driver.Tidy pool)
    (hr : e.host.Regular starts pool) : e'.host.Regular (starts ++ e.overwrites a) pool := by
  by_cases hstart : a = .start
  · subst hstart
    obtain ⟨⟨r, e₁⟩, hstart, rfl⟩ := Option.map_eq_some_iff.mp hact
    exact start_regular hstart hfactory hr
  · have hnone : e.overwrites a = [] := by
      cases a with
      | start => exact absurd rfl hstart
      | _ => rfl
    rw [hnone, List.append_nil]
    exact (act_turns hact hstart).regular hfactory hr

/-- With tidy drivers no run upsets the timers. -/
lemma Run.regular (h : Run options factory starts e)
    (hfactory : ∀ name driver, factory.create name = some driver → driver.Tidy options.maxSlots) :
    e.host.Regular starts options.maxSlots := by
  induction h with
  | create link limit =>
    have hpool : (Engine.create options link factory).host.registry.maxSlots = options.maxSlots :=
      Array.size_replicate
    have hfree := Registry.slot?_empty (D := Instance P) options.maxSlots options.maxResources
    exact hpool ▸ Host.Regular.of_free hfree (fun _ => rfl) (TimerTable.wellFormed_empty _) rfl
  | act now a he hact ih => exact act_regular hact (he.reachable.fixed.factory ▸ hfactory) ih

/-! ### Later occupants -/

/-- In every run with drivers that overwrite slots only by loading drivers, whoever hears of a timer
hears of one that fired just before and was last armed for the slot of the one who hears, and between
the two the slot was overwritten just when it is that of the enumerator and the engine was started. -/
theorem Run.overwritten_iff (hrun : Run options factory starts e)
    (hfactory : ∀ name driver, factory.create name = some driver → driver.Tidy options.maxSlots)
    (n : Nat) (slot : SlotId) (serial token : Nat)
    (hcalled : e.host.journal[n]? = some (.called slot serial (.timer token))) :
    ∃ id i k, i < k ∧ k < n ∧ e.host.journal[i]? = some (.armed id slot) ∧
      e.host.journal[k]? = some (.fired id slot) ∧
      (∀ m, k < m → m < n → ∃ r session, e.host.journal[m]? = some (.expired slot r session)) ∧
      (∀ m owner, i < m → m < k → e.host.journal[m]? ≠ some (.armed id owner)) ∧
      ((∃ m dropped, i < m ∧ m < k ∧ e.host.journal[m]? = some (.installed slot dropped)) ↔
        slot = .enumerator ∧ ∃ m ∈ starts, i < m ∧ m < k) := by
  have hjournal := (hrun.regular hfactory).timely.journal
  obtain ⟨k, hkn, ⟨id, hfired⟩, hexpired⟩ := hjournal.called n slot serial token hcalled
  obtain ⟨i, hik, harmed, hsince⟩ := hjournal.fired k id slot hfired
  refine ⟨id, i, k, hik, hkn, harmed, hfired, hexpired,
    fun m owner him hmk => (hsince m him hmk).1 owner, ?_, ?_⟩
  · rintro ⟨m, dropped, him, hmk, hinstalled⟩
    obtain ⟨hslot, hmem⟩ := (hsince m him hmk).2 dropped hinstalled
    exact ⟨hslot, m, hmem, him, hmk⟩
  · rintro ⟨rfl, m, hmem, him, hmk⟩
    obtain ⟨dropped, hinstalled⟩ := hjournal.starts m hmem
    exact ⟨m, dropped, him, hmk, hinstalled⟩

deriving instance DecidableEq for Note, Entry

/-- A driver arms a timer and is loaded once more before it fires. The second instance hears of its
own timer. -/
theorem overwritten_iff_reloaded :
    let script : Script (Occupant TestDriver) := { rules := [
      { kind := .init, conditions := [], steps := [⟨.timer .oneShot 10 77 none, false⟩] }] }
    let factory : Factory TestDriver := { drivers := [("arming", .loaded (.scripted script))] }
    let options : EngineOptions :=
      { bufferSize := 1, maxSlots := 2, maxResources := 2, maxTimers := 2, ackTimeout := 100
        tracePackets := false, overloads := [] }
    ∃ e : Engine MemoryLink TestDriver, Run options factory [] e ∧
      (∀ name driver, factory.create name = some driver → driver.Tidy options.maxSlots) ∧
      e.host.journal[6]? = some (.installed ⟨1⟩ []) ∧
      e.host.journal[13]? = some (.called ⟨1⟩ 1 (.timer 77)) ∧
      ∃ id i k, 6 < i ∧ i < k ∧ k < 13 ∧ e.host.journal[i]? = some (.armed id ⟨1⟩) ∧
        e.host.journal[k]? = some (.fired id ⟨1⟩) := by
  intro script factory options
  have hfactory : ∀ name driver, factory.create name = some driver →
      driver.Tidy options.maxSlots := by
    intro name driver hcreate
    rw [Factory.create, List.lookup_cons] at hcreate
    split at hcreate
    · cases hcreate
      exact ⟨∅, TestDriver.keepsTo_scripted (lenient_tidy _) ⟨by simp [script], nofun⟩⟩
    · cases hcreate
  let new : Engine MemoryLink TestDriver := { create options {} factory with initLimit := 1 }
  have hrun : ((new.act 0 (.install ⟨1⟩ "arming" none)).bind fun e₁ =>
      (e₁.act 5 (.install ⟨1⟩ "arming" none)).bind fun e₂ => (e₂.act 20 .pollTimers).map fun e =>
        (e.host.journal[6]?, e.host.journal[12]?, e.host.journal[13]?)) =
      some (some (.installed ⟨1⟩ []), some (.fired ⟨0, 1⟩ ⟨1⟩),
        some (.called ⟨1⟩ 1 (.timer 77))) := by
    decide +kernel
  obtain ⟨e₁, hfirst, hrun⟩ := Option.bind_eq_some_iff.mp hrun
  obtain ⟨e₂, hsecond, hrun⟩ := Option.bind_eq_some_iff.mp hrun
  obtain ⟨e, hpoll, hrun⟩ := Option.map_eq_some_iff.mp hrun
  simp only [Prod.mk.injEq] at hrun
  obtain ⟨hreloaded, hfired, hcalled⟩ := hrun
  have hnew : Run options factory [] new := .create ({} : MemoryLink) 1
  have he : Run options factory [] e :=
    .act 20 .pollTimers (.act 5 _ (.act 0 _ hnew hfirst) hsecond) hpoll
  refine ⟨e, he, hfactory, hreloaded, hcalled, ?_⟩
  obtain ⟨id, i, k, hik, hk, harmed, hfired', hexpired, _, hiff⟩ :=
    he.overwritten_iff hfactory 13 ⟨1⟩ 1 77 hcalled
  -- between the firing and the call there are only expired waits, and entry 12 is none
  have hlate : 12 ≤ k := by
    by_contra hlt
    obtain ⟨_, _, hexpired⟩ := hexpired 12 (Nat.lt_of_not_le hlt) (by decide)
    cases hfired.symm.trans hexpired
  refine ⟨id, i, k, ?_, hik, hk, harmed, hfired'⟩
  rcases Nat.lt_trichotomy 6 i with hlt | rfl | hgt
  · exact hlt
  · cases hreloaded.symm.trans harmed
  -- a load drops the timers of the instance before; only the start of an engine leaves them
  · have hslot := (hiff.mp ⟨6, [], hgt, by omega, hreloaded⟩).1
    cases hslot

/-- The engine is started twice, and the second enumerator hears of the timer that the first one
armed. -/
theorem called_after_second_start :
    let options : EngineOptions :=
      { bufferSize := 1, maxSlots := 1, maxResources := 1, maxTimers := 2, ackTimeout := 100
        tracePackets := false, overloads := [] }
    ∃ e : Engine MemoryLink Empty, Reachable options {} e ∧
      e.host.journal = [
        .installed .enumerator [], .created 0 .enumerator, .called .enumerator 0 .init,
        .armed ⟨0, 0⟩ .enumerator,
        .installed .enumerator [], .created 1 .enumerator, .called .enumerator 1 .init,
        .armed ⟨1, 0⟩ .enumerator,
        .fired ⟨0, 0⟩ .enumerator, .called .enumerator 1 (.timer Enumerator.ackToken)] := by
  intro options
  let new : Engine MemoryLink Empty := { create options {} {} with initLimit := 1 }
  have hrun : ((new.act 0 .start).bind fun e₁ => (e₁.act 50 .start).bind fun e₂ =>
        (e₂.act 100 .pollTimers).map fun e => e.host.journal) = some [
      .installed .enumerator [], .created 0 .enumerator, .called .enumerator 0 .init,
      .armed ⟨0, 0⟩ .enumerator,
      .installed .enumerator [], .created 1 .enumerator, .called .enumerator 1 .init,
      .armed ⟨1, 0⟩ .enumerator,
      .fired ⟨0, 0⟩ .enumerator, .called .enumerator 1 (.timer Enumerator.ackToken)] := by
    decide +kernel
  obtain ⟨e₁, hfirst, hrun⟩ := Option.bind_eq_some_iff.mp hrun
  obtain ⟨e₂, hsecond, hrun⟩ := Option.bind_eq_some_iff.mp hrun
  obtain ⟨e, hpoll, hjournal⟩ := Option.map_eq_some_iff.mp hrun
  have hnew : Reachable options {} new := .create ({} : MemoryLink) 1
  have he : Reachable options {} e :=
    .act 100 .pollTimers (.act 50 .start (.act 0 .start hnew hfirst) hsecond) hpoll
  exact ⟨e, he, hjournal⟩

end BoardLink.Engine
