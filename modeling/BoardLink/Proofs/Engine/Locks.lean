import Mathlib.Tactic.Common
import BoardLink.Link.Memory
import BoardLink.Proofs.Driver.Enumerator
import BoardLink.Proofs.Driver.Script
import BoardLink.Proofs.Engine.Run
import BoardLink.Proofs.Host.Locks

/-!
# No lock leaks

In every run with careful drivers each lock has an armed timer of its own beside it, and polling the
timers leaves no lock behind whose time is over.
-/

namespace BoardLink.Engine

variable {L P : Type} [Link L] [Driver P] {e e' : Engine L P} {now : Nat}

/-! ### Actions -/

omit [Link L] [Driver P] in
private lemma start_setDriver_ages {host host' : Host L P} {driver : Occupant P}
    (hinstall : e.host.installFresh .enumerator Enumerator.name = .ok host)
    (hset : host.setDriver .enumerator driver = .ok host') :
    e.host.timers.Ages host'.timers := by
  have hfresh : Host.Calm (fun _ => True) e.host host := Host.installFresh_calm hinstall
  have hdriver : Host.Calm (fun _ => True) host host' := Host.setDriver_calm hset trivial
  rw [hdriver.timers, hfresh.timers]
  exact .refl _

/-- No action takes a release of a timer back. -/
lemma act_ages {a : Action L} (hact : e.act now a = some e') :
    e.host.timers.Ages e'.host.timers := by
  refine act_rel (R := fun e e' => e.host.timers.Ages e'.host.timers) hact (.refl _) .trans
    (fun hprogress => hprogress.steps.ages) ?_ ?_ ?_
  · exact Host.installDriver_ages e.host e.factory
  · intro host hinstall
    have hfresh : Host.Calm (fun _ => True) e.host host := Host.installFresh_calm hinstall
    show e.host.timers.Ages host.timers
    rw [hfresh.timers]
    exact .refl _
  · intro host host' hinstall hset
    exact start_setDriver_ages hinstall hset

/-- Every driver at hand is careful, and every lock is guarded. -/
structure Sound (e : Engine L P) : Prop where
  factory : ∀ name driver, e.factory.create name = some driver → driver.Careful ∅
  guarded : e.host.Guarded
  staffed : e.host.Staffed

lemma Progress.keeps (h : Progress now e e') (he : e.Sound) (hwrap : e'.host.timers.Unwrapped) :
    Host.Evolves e.host e'.host ∧ e'.Sound := by
  obtain ⟨hev, hstaffed⟩ := h.steps.keeps he.factory he.guarded he.staffed hwrap
  exact ⟨hev, h.factory ▸ he.factory, hev.guarded, hstaffed⟩

/-- With careful drivers no action leaves a lock without its timer. -/
lemma act_keeps {a : Action L} (hact : e.act now a = some e') (he : e.Sound)
    (hwrap : e'.host.timers.Unwrapped) : Host.Evolves e.host e'.host ∧ e'.Sound := by
  cases a with
  | start =>
    obtain ⟨⟨r, e₁⟩, hstart, rfl⟩ := Option.map_eq_some_iff.mp hact
    rcases start_progress hstart with ⟨_, rfl⟩ | ⟨host, hinstall, hrest⟩
    · exact ⟨.refl he.guarded, he⟩
    · obtain ⟨hev₁, hstaffed₁⟩ := Host.installFresh_keeps hinstall he.guarded he.staffed
      rcases hrest with ⟨_, rfl⟩ | ⟨host', hset, hprogress⟩
      · exact ⟨hev₁, he.factory, hev₁.guarded, hstaffed₁⟩
      · have hdriver : (Occupant.enumerator (.ofOverloads e.overloads) : Occupant P).Careful ∅ :=
          careful_enumerator nofun
        obtain ⟨hev₂, hstaffed₂⟩ := Host.setDriver_keeps hset hdriver hev₁.guarded hstaffed₁
        obtain ⟨hev₃, hsound⟩ :=
          hprogress.keeps ⟨he.factory, hev₂.guarded, hstaffed₂⟩ hwrap
        exact ⟨(hev₁.trans hev₂).trans hev₃, hsound⟩
  | install slot name core =>
    obtain ⟨⟨r, e₁⟩, hinstall, rfl⟩ := Option.map_eq_some_iff.mp hact
    obtain ⟨hev₁, hstaffed₁⟩ :=
      Host.installDriver_keeps he.factory he.guarded he.staffed slot name core
    obtain ⟨hev₂, hsound⟩ :=
      (install_progress hinstall).keeps ⟨he.factory, hev₁.guarded, hstaffed₁⟩ hwrap
    exact ⟨hev₁.trans hev₂, hsound⟩
  | _ => exact (act_progress hact nofun nofun).keeps he hwrap

/-- With careful drivers no run leaves a lock without its timer. -/
lemma Reachable.sound {options : EngineOptions} {factory : Factory P}
    (he : Reachable options factory e)
    (hfactory : ∀ name driver, factory.create name = some driver → driver.Careful ∅)
    (hwrap : e.host.timers.Unwrapped) : e.Sound := by
  induction he with
  | create link limit =>
    have hfree : ∀ id, (Engine.create options link factory).host.registry.slot? id = none :=
      Registry.slot?_empty options.maxSlots options.maxResources
    refine ⟨hfactory, .of_free hfree (TimerTable.wellFormed_empty _), ?_⟩
    intro slot s inst hs
    have hnone : some s = none := hs.symm.trans (hfree slot)
    cases hnone
  | act now a he hact ih => exact (act_keeps hact (ih (hwrap.of_ages (act_ages hact))) hwrap).2

/-! ### Polling the timers -/

/-- After a timer had its turn it is gone, or it is not due. -/
private lemma fireTimer_done {id : TimerId} {b : Bool} {armed : Timer}
    (h : e.fireTimer now id = some (b, e')) (he : e.Sound) (hwrap : e'.host.timers.Unwrapped)
    (hget : e'.host.timers.get? id = some armed) (hkind : armed.kind = .oneShot) :
    now < armed.deadline := by
  rcases fireTimer_eq_some h with ⟨hfire, rfl⟩ | ⟨expiry, timers, host, r, hfire, rfl, hstep, hcall⟩
  · exact TimerTable.lt_deadline_of_fire hfire hget
  · have hfired := (Advance.step hstep).progress
    have hcalled := (call_advance hcall).progress
    obtain ⟨_, hsound⟩ := hfired.keeps he (hwrap.of_ages hcalled.steps.ages)
    obtain ⟨hev, _⟩ := hcalled.keeps hsound hwrap
    obtain ⟨timer, hget₀, _, hthinned, hgone, _⟩ :=
      TimerTable.fire_eq_some he.guarded.wellFormed hfire
    have hissued := (hthinned.issued id).mpr (TimerTable.issued_of_get? hget₀)
    -- a timer that fires once went when it fired, and its identifier never comes back
    have hget₁ : host.timers.get? id = some armed := hev.oneShot id armed hissued hkind hget
    have hsame := hthinned.get?_oneShot id armed hkind hget₁
    rw [hget₀] at hsame
    cases hsame
    rw [hgone hkind] at hget₁
    cases hget₁

/-- After timers had their turn, those of them that fire once are gone or not due. -/
private lemma fireTimers_done {ids : List TimerId} {n : Nat} {id : TimerId} {armed : Timer}
    (h : e.fireTimers now ids = some (n, e')) (he : e.Sound) (hwrap : e'.host.timers.Unwrapped)
    (hmem : id ∈ ids) (hissued : e.host.timers.Issued id)
    (hget : e'.host.timers.get? id = some armed) (hkind : armed.kind = .oneShot) :
    now < armed.deadline := by
  induction ids generalizing e n with
  | nil => cases hmem
  | cons id' ids ih =>
    simp only [fireTimers, Option.bind_eq_bind, Option.bind_eq_some_iff] at h
    obtain ⟨⟨b, e₁⟩, hfirst, ⟨m, e₂⟩, hrest, h⟩ := h
    cases h
    have hfirst' := (fireTimer_advance hfirst).progress
    have hrest' := (fireTimers_advance hrest).progress
    have hwrap₁ := hwrap.of_ages hrest'.steps.ages
    obtain ⟨hev, hsound⟩ := hfirst'.keeps he hwrap₁
    obtain ⟨hev', _⟩ := hrest'.keeps hsound hwrap
    rcases List.mem_cons.mp hmem with rfl | hmem
    · have hget₁ := hev'.oneShot id armed (hev.issued id hissued) hkind hget
      exact fireTimer_done hfirst he hwrap₁ hget₁ hkind
    · exact ih hrest hsound hmem (hev.issued id hissued)

/-- In every run with careful drivers in which no generation of a timer comes back, a resource is
locked just when it waits for a timer, that timer is armed to fire once for the slot of the resource,
and no two resources wait for the same timer. After the timers were polled, whatever is still locked
waits for a timer that is not due or was armed by the poll. -/
theorem Reachable.lock_iff_armed {options : EngineOptions} {factory : Factory P}
    (he : Reachable options factory e)
    (hfactory : ∀ name driver, factory.create name = some driver → driver.Careful ∅)
    (hwrap : e.host.timers.Unwrapped) :
    (∀ slot i r, e.host.registry.resource? slot i = some r →
      (r.lock.isSome ↔ ∃ timer, r.pendingTimer = some timer) ∧
      ∀ timer, r.pendingTimer = some timer → ∃ armed, e.host.timers.get? timer = some armed ∧
        armed.kind = .oneShot ∧ armed.owner = slot) ∧
    (∀ slot i r slot' i' r' timer, e.host.registry.resource? slot i = some r →
      e.host.registry.resource? slot' i' = some r' → r.pendingTimer = some timer →
      r'.pendingTimer = some timer → slot = slot' ∧ i = i') ∧
    ∀ now n e', e.pollTimers now = some (n, e') → e'.host.timers.Unwrapped →
      ∀ slot i r, e'.host.registry.resource? slot i = some r → r.lock.isSome →
        ∃ timer armed, r.pendingTimer = some timer ∧ e'.host.timers.get? timer = some armed ∧
          (now < armed.deadline ∨ ¬ e.host.timers.Issued timer ∧
            ∃ owner, .armed timer owner ∈ Host.gained e.host e'.host) := by
  have hsound := he.sound hfactory hwrap
  refine ⟨fun slot i r hr => ⟨?_, fun timer htimer => hsound.guarded.armed hr htimer⟩,
    fun slot i r slot' i' r' timer hr hr' htimer htimer' =>
      hsound.guarded.unique hr htimer hr' htimer', ?_⟩
  · rw [hsound.guarded.lock_iff hr, Option.isSome_iff_exists]
  · intro now n e' hpoll hwrap' slot i r hr hlock
    obtain ⟨hev, hsound'⟩ := (fireTimers_advance hpoll).progress.keeps hsound hwrap'
    obtain ⟨timer, htimer⟩ := Option.isSome_iff_exists.mp ((hsound'.guarded.lock_iff hr).mp hlock)
    obtain ⟨armed, hget, hkind, _⟩ := hsound'.guarded.armed hr htimer
    refine ⟨timer, armed, htimer, hget, ?_⟩
    -- the timer was there before the poll, or it was armed during it
    rcases hev.pends timer ⟨slot, i, r, hr, htimer⟩ with hpends | hnew
    · have hissued := hsound.guarded.issued hpends
      have hget₀ := hev.oneShot timer armed hissued hkind hget
      -- a timer that was due and is still there would have had its turn
      by_cases hdue : armed.deadline ≤ now
      · have hmem := TimerTable.mem_due.mpr ⟨armed, hget₀, hdue⟩
        exact .inl (fireTimers_done hpoll hsound hwrap' hmem hissued hget hkind)
      · exact .inl (Nat.lt_of_not_le hdue)
    · exact .inr hnew

/-- Two sessions wait for answers about the resources of one driver that never answers. When the
first wait is over the other one goes on, with a timer that is not due. -/
theorem lock_iff_armed_unanswered :
    let script : Script (Occupant TestDriver) := { rules := [
      { kind := .init, conditions := []
        steps := [⟨.addResource "left" 1, false⟩, ⟨.addResource "right" 1, false⟩] },
      { kind := .request, conditions := [.resource 0], steps := [⟨.await 0 none 4, false⟩]
        reply := some .pending },
      { kind := .request, conditions := [], steps := [], reply := some .pending }] }
    let factory : Factory TestDriver := { drivers := [("slow", .loaded (.scripted script))] }
    let options : EngineOptions :=
      { bufferSize := 1, maxSlots := 2, maxResources := 2, maxTimers := 2, ackTimeout := 100
        tracePackets := false, overloads := [] }
    ∃ e e' : Engine MemoryLink TestDriver, Reachable options factory e ∧
      (∀ name driver, factory.create name = some driver → driver.Careful ∅) ∧
      e.host.timers.Unwrapped ∧ e'.host.timers.Unwrapped ∧ e.pollTimers 100 = some (1, e') ∧
      (e'.host.registry.resource? ⟨1⟩ 0).bind Resource.lock = none ∧
      ∃ r timer armed, e'.host.registry.resource? ⟨1⟩ 1 = some r ∧ r.lock = some ⟨8⟩ ∧
        r.pendingTimer = some timer ∧ e'.host.timers.get? timer = some armed ∧
        armed.kind = .oneShot ∧ armed.owner = ⟨1⟩ ∧ 100 < armed.deadline := by
  intro script factory options
  have hfactory : ∀ name driver, factory.create name = some driver → driver.Careful ∅ := by
    intro name driver hcreate
    rw [Factory.create, List.lookup_cons] at hcreate
    split at hcreate
    · cases hcreate
      exact TestDriver.careful_scripted ⟨by simp [script, Script.Action.leavesLocks], nofun⟩
    · cases hcreate
  let new : Engine MemoryLink TestDriver := { create options {} factory with initLimit := 1 }
  let run := (new.act 0 (.install ⟨1⟩ "slow" none)).bind fun e₁ =>
    (e₁.act 0 (.request ⟨1⟩ "left" ⟨7⟩ .get)).bind fun e₂ =>
      (e₂.act 60 (.request ⟨1⟩ "right" ⟨8⟩ .get)).bind fun e =>
        (e.pollTimers 100).map fun polled => (e, polled)
  have htimers : run.map (fun r => (r.2.1, r.1.host.timers.entries.map TimerTable.Entry.releases,
      r.2.2.host.timers.entries.map TimerTable.Entry.releases,
      (r.1.host.timers.get? ⟨1, 0⟩).isSome)) = some (1, #[0, 0], #[1, 0], true) := by
    decide +kernel
  have hlocks : run.map (fun r => ((r.2.2.host.registry.resource? ⟨1⟩ 0).bind Resource.lock,
      (r.2.2.host.registry.resource? ⟨1⟩ 1).map fun res => (res.lock, res.pendingTimer))) =
        some (none, some (some ⟨8⟩, some ⟨1, 0⟩)) := by
    decide +kernel
  obtain ⟨⟨e, n, e'⟩, hrun, htimers⟩ := Option.map_eq_some_iff.mp htimers
  rw [hrun] at hlocks
  simp only [Option.map_some, Option.some.injEq, Prod.mk.injEq] at htimers hlocks
  obtain ⟨rfl, hreleases, hreleases', hget⟩ := htimers
  obtain ⟨hfree, hlocked⟩ := hlocks
  obtain ⟨e₁, hinstall, hrun⟩ := Option.bind_eq_some_iff.mp hrun
  obtain ⟨e₂, hleft, hrun⟩ := Option.bind_eq_some_iff.mp hrun
  obtain ⟨_, hright, hrun⟩ := Option.bind_eq_some_iff.mp hrun
  obtain ⟨_, hpoll, hrun⟩ := Option.map_eq_some_iff.mp hrun
  cases hrun
  obtain ⟨r, hr, hrun⟩ := Option.map_eq_some_iff.mp hlocked
  obtain ⟨hlock, htimer⟩ := Prod.mk.inj hrun
  have he : Reachable options factory e :=
    .act 60 _ (.act 0 _ (.act 0 _ (.create {} 1) hinstall) hleft) hright
  have he' : Reachable options factory e' := .act 100 .pollTimers he (by rw [act, hpoll]; rfl)
  have hunwrapped {t : TimerTable} {ns : Array Nat} (hns : ∀ n ∈ ns, n < UInt32.size)
      (h : t.entries.map TimerTable.Entry.releases = ns) : t.Unwrapped :=
    fun entry hentry => hns _ (h ▸ Array.mem_map_of_mem hentry)
  have hwrap := hunwrapped (by decide) hreleases
  have hwrap' := hunwrapped (by decide) hreleases'
  obtain ⟨_, _, hpolled⟩ := he.lock_iff_armed hfactory hwrap
  obtain ⟨hguarded, _, _⟩ := he'.lock_iff_armed hfactory hwrap'
  obtain ⟨timer, armed, htimer', harmed, hdue⟩ :=
    hpolled 100 1 e' hpoll hwrap' ⟨1⟩ 1 r hr (by rw [hlock]; rfl)
  rw [htimer] at htimer'
  cases htimer'
  obtain ⟨_, harmed', hkind, howner⟩ := (hguarded ⟨1⟩ 1 r hr).2 ⟨1, 0⟩ htimer
  rw [harmed] at harmed'
  cases harmed'
  refine ⟨e, e', he, hfactory, hwrap, hwrap', hpoll, hfree, r, ⟨1, 0⟩, armed, hr, hlock, htimer,
    harmed, hkind, howner, hdue.resolve_right ?_⟩
  rintro ⟨hfresh, _⟩
  obtain ⟨timer, hget⟩ := Option.isSome_iff_exists.mp hget
  exact hfresh (TimerTable.issued_of_get? hget)

end BoardLink.Engine
