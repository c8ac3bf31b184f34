import Mathlib.Tactic.Common
import BoardLink.Link.Memory
import BoardLink.Proofs.Driver.Enumerator
import BoardLink.Proofs.Driver.Script
import BoardLink.Proofs.Engine.Run
import BoardLink.Proofs.Host.Candid
import BoardLink.Proofs.Host.Orderly

/-!
# Every wait ends once

In every run with drivers that touch locks only by waiting for answers and telling them, no wait is
answered twice and none is lost: the locks taken are those that were given up in one of four ways and
those still held.
-/

namespace BoardLink.Engine

variable {L P : Type} [Link L] [Driver P] {e e' : Engine L P} {now : Nat}

/-! ### Runs with discreet drivers -/

/-- Every driver at hand is discreet, and the books are balanced. -/
structure Orderly (e : Engine L P) : Prop where
  factory : ∀ name driver, e.factory.create name = some driver → driver.Discreet
  host : e.host.Orderly

lemma Progress.orderly (h : Progress now e e') (he : e.Orderly) : e'.Orderly :=
  ⟨h.factory ▸ he.factory, h.steps.orderly he.factory he.host⟩

lemma act_orderly {a : Action L} (hact : e.act now a = some e') (he : e.Orderly) : e'.Orderly := by
  have hdriver : (Occupant.enumerator (.ofOverloads e.overloads) : Occupant P).Careful ∅ :=
    careful_enumerator nofun
  refine act_rel (R := fun e e' => e.Orderly → e'.Orderly) hact id
    (fun hfirst hsecond he => hsecond (hfirst he)) Progress.orderly ?_ ?_ ?_ he
  · intro slot name core he
    exact ⟨he.factory, Host.installDriver_orderly he.factory he.host slot name core⟩
  · intro host hinstall he
    exact ⟨he.factory, Host.installFresh_orderly hinstall he.host⟩
  · intro host host' hinstall hset he
    have hfresh := Host.installFresh_orderly hinstall he.host
    exact ⟨he.factory, Host.setDriver_orderly hset hdriver.discreet hfresh⟩

/-- With discreet drivers the books are balanced throughout a run. -/
lemma Reachable.orderly {options : EngineOptions} {factory : Factory P}
    (he : Reachable options factory e)
    (hfactory : ∀ name driver, factory.create name = some driver → driver.Discreet) :
    e.Orderly := by
  induction he with
  | create link limit =>
    have hfree : ∀ id, (Engine.create options link factory).host.registry.slot? id = none :=
      Registry.slot?_empty options.maxSlots options.maxResources
    have hwait (slot : SlotId) (i : Nat) :
        (Engine.create options link factory).host.registry.wait slot i = (none, none) :=
      Registry.wait_of_free (hfree slot) i
    refine ⟨hfactory, ⟨⟨[], rfl, .nil, ?_⟩, ?_, rfl⟩, ?_⟩
    · intro w
      simp [hwait]
    · intro slot i
      simp [hwait]
    · intro slot s inst hs
      have hnone : some s = none := hs.symm.trans (hfree slot)
      cases hnone
  | act now a _ hact ih => exact act_orderly hact ih

/-! ### The balance -/

/-- In every run with drivers that touch locks only by waiting for answers and telling them, the
journal is a ledger in which no wait begins where one is open and each ends once, for the session that
began it. The waits that it leaves open are the locks held, so the locks taken are those answered,
expired, given up with their request, dropped with their slot, or still held, and the answers found
missing are the waits that expired. What the ledger says is what the sessions are told. -/
theorem Reachable.locks_balance {options : EngineOptions} {factory : Factory P}
    (he : Reachable options factory e)
    (hfactory : ∀ name driver, factory.create name = some driver → driver.Discreet) :
    (∃ ws, e.host.journal.waits? = some ws ∧ ws.Nodup ∧
      (∀ slot i session, ⟨slot, i, session⟩ ∈ ws ↔
        (e.host.registry.resource? slot i).bind Resource.lock = some session) ∧
      e.host.journal.locks = e.host.journal.answers + e.host.journal.expiries +
        e.host.journal.failures + e.host.journal.drops + ws.length) ∧
    e.stats.missingAcks = e.host.journal.expiries ∧ ∀ h : Host L P, h.Candid := by
  have hbalanced := (he.orderly hfactory).host.balanced
  obtain ⟨ws, hws, hheld⟩ := hbalanced.held
  refine ⟨⟨ws, hws, hheld.nodup, ?_, Journal.locks_eq hws⟩, hbalanced.missingAcks, Host.candid⟩
  intro slot i session
  exact hheld.mem ⟨slot, i, session⟩

/-- Five waits about the resources of one driver: the first is answered, the second fails, the third
expires, the fourth is dropped when the driver is loaded anew, and the fifth goes on. -/
theorem locks_balance_five :
    let script : Script (Occupant TestDriver) := { rules := [
      { kind := .init, conditions := []
        steps := [⟨.addResource "left" 1, false⟩, ⟨.addResource "right" 1, false⟩,
          ⟨.addResource "up" 1, false⟩] },
      { kind := .request, conditions := [.resource 0], steps := [⟨.await 0 none 4, false⟩]
        reply := some .pending },
      { kind := .request, conditions := [.resource 1], steps := [⟨.await 1 none 5, false⟩]
        reply := some (.badValue "right" "") },
      { kind := .request, conditions := [], steps := [⟨.complete 0 "here", false⟩]
        reply := some (.text "there") }] }
    let factory : Factory TestDriver := { drivers := [("slow", .loaded (.scripted script))] }
    let options : EngineOptions :=
      { bufferSize := 1, maxSlots := 2, maxResources := 3, maxTimers := 2, ackTimeout := 100
        tracePackets := false, overloads := [] }
    ∃ e : Engine MemoryLink TestDriver, Reachable options factory e ∧
      (∀ name driver, factory.create name = some driver → driver.Discreet) ∧
      e.host.journal.locks = 5 ∧ e.host.journal.answers = 1 ∧ e.host.journal.expiries = 1 ∧
      e.host.journal.failures = 1 ∧ e.host.journal.drops = 1 ∧
      e.host.journal.waits? = some [⟨⟨1⟩, 0, ⟨9⟩⟩] ∧ e.stats.missingAcks = 1 := by
  intro script factory options
  have hfactory : ∀ name driver, factory.create name = some driver → driver.Discreet := by
    intro name driver hcreate
    rw [Factory.create, List.lookup_cons] at hcreate
    split at hcreate
    · cases hcreate
      have hcareful : (Occupant.loaded (TestDriver.scripted script)).Careful ∅ :=
        TestDriver.careful_scripted ⟨by simp [script, Script.Action.leavesLocks], nofun⟩
      exact hcareful.discreet
    · cases hcreate
  let new : Engine MemoryLink TestDriver := { create options {} factory with initLimit := 1 }
  -- one wait is answered, one refused, one times out, one is dropped by the load, one goes on
  have hrun : ((new.act 0 (.install ⟨1⟩ "slow" none)).bind fun e₁ =>
      (e₁.act 0 (.request ⟨1⟩ "left" ⟨7⟩ .get)).bind fun e₂ =>
        (e₂.act 10 (.request ⟨1⟩ "up" ⟨8⟩ .get)).bind fun e₃ =>
          (e₃.act 20 (.request ⟨1⟩ "right" ⟨8⟩ .get)).bind fun e₄ =>
            (e₄.act 30 (.request ⟨1⟩ "left" ⟨7⟩ .get)).bind fun e₅ =>
              (e₅.act 130 .pollTimers).bind fun e₆ =>
                (e₆.act 140 (.request ⟨1⟩ "left" ⟨8⟩ .get)).bind fun e₇ =>
                  (e₇.act 150 (.install ⟨1⟩ "slow" none)).bind fun e₈ =>
                    (e₈.act 160 (.request ⟨1⟩ "left" ⟨9⟩ .get)).map fun e =>
                      (e.host.journal.tally, e.host.journal.drops,
                        (e.host.registry.resource? ⟨1⟩ 0).bind Resource.lock)) =
      some ((5, 1, 1, 1), 1, some ⟨9⟩) := by
    decide +kernel
  obtain ⟨e₁, h₁, hrun⟩ := Option.bind_eq_some_iff.mp hrun
  obtain ⟨e₂, h₂, hrun⟩ := Option.bind_eq_some_iff.mp hrun
  obtain ⟨e₃, h₃, hrun⟩ := Option.bind_eq_some_iff.mp hrun
  obtain ⟨e₄, h₄, hrun⟩ := Option.bind_eq_some_iff.mp hrun
  obtain ⟨e₅, h₅, hrun⟩ := Option.bind_eq_some_iff.mp hrun
  obtain ⟨e₆, h₆, hrun⟩ := Option.bind_eq_some_iff.mp hrun
  obtain ⟨e₇, h₇, hrun⟩ := Option.bind_eq_some_iff.mp hrun
  obtain ⟨e₈, h₈, hrun⟩ := Option.bind_eq_some_iff.mp hrun
  obtain ⟨e, h₉, hrun⟩ := Option.map_eq_some_iff.mp hrun
  simp only [Journal.tally, Prod.mk.injEq] at hrun
  obtain ⟨⟨hlocks, hanswers, hexpiries, hfailures⟩, hdrops, hlock⟩ := hrun
  have hnew : Reachable options factory new := Reachable.create ({} : MemoryLink) 1
  have he₁ : Reachable options factory e₁ := .act 0 _ hnew h₁
  have he₅ : Reachable options factory e₅ :=
    .act 30 _ (.act 20 _ (.act 10 _ (.act 0 _ he₁ h₂) h₃) h₄) h₅
  have he : Reachable options factory e :=
    .act 160 _ (.act 150 _ (.act 140 _ (.act 130 _ he₅ h₆) h₇) h₈) h₉
  obtain ⟨⟨ws, hws, _, hmem, hbalance⟩, hacks, _⟩ := he.locks_balance hfactory
  -- of five waits four are over
  have hlength : ws.length = 1 := by
    omega
  obtain ⟨w, rfl⟩ := List.length_eq_one_iff.mp hlength
  have hheld := List.mem_singleton.mp ((hmem ⟨1⟩ 0 ⟨9⟩).mpr hlock)
  refine ⟨e, he, hfactory, hlocks, hanswers, hexpiries, hfailures, hdrops, ?_, hacks.trans hexpiries⟩
  rw [hws, hheld]

end BoardLink.Engine
