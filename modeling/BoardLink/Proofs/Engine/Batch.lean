import Mathlib.Computability.Primrec.List
import Mathlib.Data.List.Permutation
import Mathlib.Tactic.Common
import BoardLink.Link.Memory
import BoardLink.Proofs.Driver.Script
import BoardLink.Proofs.Engine.Turns
import BoardLink.Proofs.Host.Expired
import BoardLink.Proofs.Host.Rearm
import BoardLink.Proofs.Host.Spells

/-!
# Timers that fire in one poll

The drivers that are called while the timers are polled may arm and cancel timers, answer users and load
other drivers. Whatever they do, only timers that were due at the beginning fire, in the order in which
they were due, and one of them is left out just when it was released before its turn.
-/

namespace BoardLink.Engine

open Host (Spell)

variable {L P : Type} [Link L] [Driver P] {e e' e'' : Engine L P} {now : Nat}

/-! ### What drivers do meanwhile -/

/-- What drivers do when the one in a slot is called and then all slots that were filled are
initialised. -/
def callDeeds (e : Engine L P) (now : Nat) (slot : SlotId) (c : Callback) : List (Deed L P) :=
  e.host.callDeeds (e.setting now) slot c ++
    match e.host.call (e.setting now) slot c with
    | none => []
    | some (_, host, slots) =>
      Host.initialiseDeeds (e.setting now) e.initLimit slots (e.withHost host).host

/-- What drivers do when a timer has its turn. -/
def fireTimerDeeds (e : Engine L P) (now : Nat) (id : TimerId) : List (Deed L P) :=
  match e.host.timers.fire id now with
  | none => []
  | some (expiry, timers) =>
    { e with host := e.host.rung timers id expiry.owner }.callDeeds now expiry.owner
      (.timer expiry.token)

/-- What drivers do when timers have their turns one after the other. -/
def fireTimersDeeds (e : Engine L P) (now : Nat) : List TimerId → List (Deed L P)
  | [] => []
  | id :: ids =>
    e.fireTimerDeeds now id ++
      match e.fireTimer now id with
      | none => []
      | some (_, e') => e'.fireTimersDeeds now ids

private lemma call_spell {slot : SlotId} {c : Callback} {r : Option c.Result}
    (hwell : e.host.timers.WellFormed) (h : e.call now slot c = some (r, e')) :
    Spell e.host e'.host [] (e.callDeeds now slot c) := by
  rcases call_eq_some h with ⟨hnone, _, rfl⟩ | ⟨result, host, slots, hcall, _, hinit⟩
  · have htake : e'.host.registry.takeDriver slot = none := by
      simp only [Host.call] at hnone
      split at hnone
      · assumption
      · cases hnone
    simp only [callDeeds, Host.callDeeds, hnone, htake, List.append_nil]
    exact .refl hwell
  · obtain ⟨host', hhost, rfl⟩ := initialise_eq_some hinit
    have hcalled : Spell e.host (e.withHost host).host [] (e.host.callDeeds (e.setting now) slot c) :=
      (Host.call_spell hwell hcall).before_eq rfl (.of_eq rfl)
    have hspell := hcalled.trans (Host.initialise_spell hcalled.wellFormed hhost)
    simp only [callDeeds, hcall]
    exact hspell.before_eq rfl (.of_eq rfl)

private lemma fireTimer_spell {id : TimerId} {b : Bool} (hwell : e.host.timers.WellFormed)
    (h : e.fireTimer now id = some (b, e')) :
    Spell e.host e'.host (if b then [id] else []) (e.fireTimerDeeds now id) := by
  rcases fireTimer_cases h with ⟨rfl, hfire, rfl⟩ | ⟨expiry, timers, r, rfl, hfire, hcall⟩
  · simp only [fireTimerDeeds, hfire]
    exact .refl hwell
  · simp only [fireTimerDeeds, hfire]
    have hfired := Host.fire_spell hwell hfire
    exact hfired.trans (call_spell (e := { e with host := e.host.rung timers id expiry.owner })
      hfired.wellFormed hcall)

/-- Some of the timers that have their turns fire, each in its turn. -/
private lemma fireTimers_spell {ids : List TimerId} {n : Nat} (hwell : e.host.timers.WellFormed)
    (h : e.fireTimers now ids = some (n, e')) :
    ∃ fired, Spell e.host e'.host fired (e.fireTimersDeeds now ids) ∧ fired.Sublist ids ∧
      fired.length = n := by
  induction ids generalizing e n with
  | nil =>
    cases h
    exact ⟨[], .refl hwell, .slnil, rfl⟩
  | cons id ids ih =>
    simp only [fireTimers, Option.bind_eq_bind, Option.bind_eq_some_iff] at h
    obtain ⟨⟨b, e₁⟩, hfirst, ⟨m, e₂⟩, hrest, h⟩ := h
    cases h
    have hspell := fireTimer_spell hwell hfirst
    obtain ⟨fired, hspell', hsublist, rfl⟩ := ih hspell.wellFormed hrest
    simp only [fireTimersDeeds, hfirst]
    refine ⟨_, hspell.trans hspell', ?_, ?_⟩
    -- a stale id is skipped and adds neither to the count nor to the list
    · cases b with
      | false => exact hsublist.cons id
      | true => exact hsublist.cons_cons id
    · cases b with
      | false => rfl
      | true => rfl

/-- Turns of two lists of timers are those of the first and then those of the second. -/
private lemma fireTimers_append {ids ids' : List TimerId} {n : Nat}
    (h : e.fireTimers now (ids ++ ids') = some (n, e'')) :
    ∃ m k e', e.fireTimers now ids = some (m, e') ∧ e'.fireTimers now ids' = some (k, e'') := by
  induction ids generalizing e n with
  | nil => exact ⟨0, n, e, rfl, h⟩
  | cons id ids ih =>
    simp only [List.cons_append, fireTimers, Option.bind_eq_bind, Option.bind_eq_some_iff] at h
    obtain ⟨⟨b, e₁⟩, hfirst, ⟨m, e₂⟩, hrest, h⟩ := h
    cases h
    obtain ⟨m', k, e', hids, hids'⟩ := ih hrest
    exact ⟨m' + b.toNat, k, e', by simp [fireTimers, hfirst, hids], hids'⟩

/-- The turn of a timer among others, which may all have one turn only. -/
private lemma exists_turn {before after : List TimerId} {id : TimerId} {n : Nat}
    (hwell : e.host.timers.WellFormed) (hnodup : (before ++ id :: after).Nodup)
    (h : e.fireTimers now (before ++ id :: after) = some (n, e'')) :
    ∃ m k b e₁ e₂ fired, e.fireTimers now before = some (m, e₁) ∧
      e₁.fireTimer now id = some (b, e₂) ∧ e₂.fireTimers now after = some (k, e'') ∧
      Spell e.host e₁.host fired (e.fireTimersDeeds now before) ∧ id ∉ fired ∧
      e₁.host.timers.Retains e''.host.timers ∧
      (id ∈ (Host.gained e.host e''.host).fired ↔ b = true) := by
  obtain ⟨hid, _⟩ := List.nodup_cons.mp (List.nodup_middle.mp hnodup)
  -- the other turns of the batch are those of other ids
  obtain ⟨hbefore, hafter⟩ := not_or.mp (mt List.mem_append.mpr hid)
  obtain ⟨m, _, e₁, hfirst, hrest⟩ := fireTimers_append h
  simp only [fireTimers, Option.bind_eq_bind, Option.bind_eq_some_iff] at hrest
  obtain ⟨⟨b, e₂⟩, hturn, ⟨k, _⟩, hlast, heq⟩ := hrest
  cases heq
  obtain ⟨fired, hspell, hsublist, _⟩ := fireTimers_spell hwell hfirst
  have hspell₁ := fireTimer_spell hspell.wellFormed hturn
  obtain ⟨fired', hspell', hsublist', _⟩ := fireTimers_spell hspell₁.wellFormed hlast
  have hfired : id ∉ fired := fun hmem => hbefore (hsublist.subset hmem)
  have hfired' : id ∉ fired' := fun hmem => hafter (hsublist'.subset hmem)
  refine ⟨m, k, b, e₁, e₂, fired, hfirst, hturn, hlast, hspell, hfired,
    hspell₁.retains.trans hspell'.retains, ?_⟩
  rw [((hspell.trans hspell₁).trans hspell').fired_gained]
  cases b with
  | false => simp [hfired, hfired']
  | true => simp

/-- In every run the table of timers is well-formed. -/
lemma Reachable.wellFormed {options : EngineOptions} {factory : Factory P}
    (he : Reachable options factory e) : e.host.timers.WellFormed := by
  induction he with
  | create link limit => exact TimerTable.wellFormed_empty _
  | act now a _ hact ih =>
    have hcalm {h h' : Host L P} (hcalm : Host.Calm (fun _ => True) h h')
        (hwell : h.timers.WellFormed) : h'.timers.WellFormed := by
      rwa [hcalm.timers]
    refine act_rel (R := fun e e' => e.host.timers.WellFormed → e'.host.timers.WellFormed) hact id
      (fun hfirst hsecond hwell => hsecond (hfirst hwell))
      (fun hprogress => hprogress.steps.preserve Host.Step.wellFormed) ?_ ?_ ?_ ih
    · intro slot name core hwell
      exact ((Host.perform_does (Engine.setting _ now) _ slot
        (.installDriver slot name core)).spell hwell).wellFormed
    · exact fun host hfresh => hcalm (Host.installFresh_calm hfresh)
    · exact fun host host' hfresh hset hwell =>
        hcalm (Host.setDriver_calm hset trivial) (hcalm (Host.installFresh_calm hfresh) hwell)

/-! ### The turn of one timer -/

section Turn

variable {before after : List TimerId} {id : TimerId} {n : Nat}

/-- A timer that nobody released is due when its turn comes. -/
private lemma skipped_of_fireTimers (hwell : e.host.timers.WellFormed)
    (hnodup : (before ++ id :: after).Nodup)
    (hdue : ∃ timer, e.host.timers.get? id = some timer ∧ timer.deadline ≤ now)
    (h : e.fireTimers now (before ++ id :: after) = some (n, e'))
    (hid : id ∉ (Host.gained e.host e'.host).fired) :
    (∃ d ∈ e.fireTimersDeeds now before, d.Releases id) ∧
      ∃ m e₁, e.fireTimers now before = some (m, e₁) ∧ e₁.fireTimer now id = some (false, e₁) := by
  obtain ⟨m, k, b, e₁, e₂, fired, hbefore, hturn, _, hspell, hid₁, _, hiff⟩ :=
    exists_turn hwell hnodup h
  rcases fireTimer_cases hturn with ⟨rfl, hnone, rfl⟩ | ⟨_, _, _, rfl, _⟩
  · refine ⟨?_, m, e₂, hbefore, hturn⟩
    by_contra hkept
    push Not at hkept
    obtain ⟨timer, hget, hle⟩ := hdue
    have hlt := TimerTable.lt_deadline_of_fire hnone (hspell.kept id timer hget hid₁ hkept)
    exact Nat.not_le_of_lt hlt hle
  · exact absurd (hiff.mpr rfl) hid

/-- A timer that was released does not come back under the same identifier. -/
private lemma not_fired_of_releases (hwell : e.host.timers.WellFormed)
    (hnodup : (before ++ id :: after).Nodup)
    (hdue : ∃ timer, e.host.timers.get? id = some timer ∧ timer.deadline ≤ now)
    (h : e.fireTimers now (before ++ id :: after) = some (n, e'))
    (hwrap : e.host.timers.UnwrappedSince e'.host.timers id.entry) {d : Deed L P}
    (hd : d ∈ e.fireTimersDeeds now before) (hreleases : d.Releases id) :
    id ∉ (Host.gained e.host e'.host).fired := by
  intro hid
  obtain ⟨_, _, b, e₁, _, _, _, hturn, _, hspell, _, hretains, hiff⟩ := exists_turn hwell hnodup h
  rcases fireTimer_cases hturn with ⟨rfl, _⟩ | ⟨expiry, timers, _, _, hfire, _⟩
  · cases hiff.mp hid
  · obtain ⟨timer, hget, _⟩ := hdue
    obtain ⟨_, hget₁, _⟩ := TimerTable.get?_fire hfire
    have hwrap₁ : e.host.timers.UnwrappedSince e₁.host.timers id.entry :=
      Nat.lt_of_le_of_lt (hretains.releases_le id.entry) hwrap
    have hgone := TimerTable.get?_eq_none_of_releases_lt hget
      (hspell.released d hd id hreleases) hwrap₁
    cases hgone.symm.trans hget₁

/-- The owner of a timer that fires is called when the waits that the timer guards are over. -/
private lemma fires_of_fireTimers (hwell : e.host.timers.WellFormed)
    (hnodup : (before ++ id :: after).Nodup)
    (h : e.fireTimers now (before ++ id :: after) = some (n, e'))
    (hid : id ∈ (Host.gained e.host e'.host).fired) :
    ∃ m k e₁ e₂ timer host r, e.fireTimers now before = some (m, e₁) ∧
      e₁.host.timers.get? id = some timer ∧ timer.deadline ≤ now ∧
      e₁.host.Rings host timer.owner id ∧
      { e₁ with host }.call now timer.owner (.timer timer.token) = some (r, e₂) ∧
      e₂.fireTimers now after = some (k, e') := by
  obtain ⟨m, k, b, e₁, e₂, _, hbefore, hturn, hafter, _, _, _, hiff⟩ := exists_turn hwell hnodup h
  rcases fireTimer_cases hturn with ⟨rfl, _⟩ | ⟨expiry, timers, r, _, hfire, hcall⟩
  · cases hiff.mp hid
  · obtain ⟨timer, hget, hle, rfl, _⟩ := TimerTable.get?_fire hfire
    exact ⟨m, k, e₁, e₂, timer, _, r, hbefore, hget, hle, Host.rings_rung timers, hcall, hafter⟩

end Turn

/-! ### The law of a poll -/

/-- What becomes of timers that were due when they have their turns one after the other. -/
structure Batch (e : Engine L P) (now : Nat) (due fired : List TimerId) (e' : Engine L P) : Prop where
  nodup : due.Nodup
  sublist : fired.Sublist due
  /-- A timer that does not fire was released before its turn, which is then nothing. -/
  skipped : ∀ before id after, due = before ++ id :: after → id ∉ fired →
    (∃ d ∈ e.fireTimersDeeds now before, d.Releases id) ∧
      ∃ m e₁, e.fireTimers now before = some (m, e₁) ∧ e₁.fireTimer now id = some (false, e₁)
  /-- A timer that was released before its turn does not fire. -/
  released : ∀ before id after, due = before ++ id :: after →
    e.host.timers.UnwrappedSince e'.host.timers id.entry →
    (∃ d ∈ e.fireTimersDeeds now before, d.Releases id) → id ∉ fired
  /-- A timer that is armed meanwhile does not fire. -/
  armed : ∀ id ∈ (Host.gained e.host e'.host).armed,
    e.host.timers.UnwrappedSince e'.host.timers id.entry → id ∉ fired
  /-- A timer that fires ends the waits that it guards in the slot of its owner, and then the owner is
  called. -/
  fires : ∀ before id after, due = before ++ id :: after → id ∈ fired →
    ∃ m k e₁ e₂ timer host r, e.fireTimers now before = some (m, e₁) ∧
      e₁.host.timers.get? id = some timer ∧ timer.deadline ≤ now ∧
      e₁.host.Rings host timer.owner id ∧
      { e₁ with host }.call now timer.owner (.timer timer.token) = some (r, e₂) ∧
      e₂.fireTimers now after = some (k, e')

/-- Polling the timers fires some of those that were due, in their order and none of them twice, and
tells how many. One that was due is left out just when its owner or another driver released it before
its turn: it was cancelled, the answer that it guards was given, or another driver was loaded into its
owner's slot. None that was armed meanwhile fires. This holds of timers whose entries are not released
so often meanwhile that their generations come back. -/
theorem Reachable.batch_pollTimers {options : EngineOptions} {factory : Factory P}
    (he : Reachable options factory e) {n : Nat} (h : e.pollTimers now = some (n, e')) :
    Batch e now (e.host.timers.due now) (Host.gained e.host e'.host).fired e' ∧
      n = (Host.gained e.host e'.host).fired.length := by
  have hwell := he.wellFormed
  have hnodup := e.host.timers.nodup_due now
  have hdue : ∀ id ∈ e.host.timers.due now,
      ∃ timer, e.host.timers.get? id = some timer ∧ timer.deadline ≤ now :=
    fun id => TimerTable.mem_due.mp
  simp only [pollTimers] at h
  -- from here on the batch is any list of distinct ids due before it began
  generalize e.host.timers.due now = due at h hnodup hdue
  obtain ⟨fired, hspell, hsublist, hlength⟩ := fireTimers_spell hwell h
  have hfired := hspell.fired_gained
  refine ⟨⟨hnodup, hfired ▸ hsublist, ?_, ?_, ?_, ?_⟩, by rw [hfired, hlength]⟩
  · rintro before id after rfl hid
    exact skipped_of_fireTimers hwell hnodup (hdue id (by simp)) h hid
  · rintro before id after rfl hwrap ⟨d, hd, hreleases⟩
    exact not_fired_of_releases hwell hnodup (hdue id (by simp)) h hwrap hd hreleases
  · intro id hid hwrap hmem
    obtain ⟨timer, hget, _⟩ := hdue id ((hfired ▸ hsublist).subset hmem)
    cases ((hspell.armedOnWay_of_mem hid).get?_eq_none hwrap).symm.trans hget
  · rintro before id after rfl hid
    exact fires_of_fireTimers hwell hnodup h hid

/-- Two waits of one driver are over at the same time. When the driver hears of the first, it answers
the second session and arms another timer that is due at once, in the entry that has become free. -/
theorem batch_pollTimers_answered :
    let script : Script (Occupant TestDriver) := { rules := [
      { kind := .init, conditions := []
        steps := [⟨.addResource "left" 1, false⟩, ⟨.addResource "right" 1, false⟩] },
      { kind := .request, conditions := [.resource 0], steps := [⟨.await 0 none 4, false⟩]
        reply := some .pending },
      { kind := .request, conditions := [], steps := [⟨.await 1 none 5, false⟩]
        reply := some .pending },
      { kind := .timer, conditions := [.token 4]
        steps := [⟨.complete 1 "late", false⟩, ⟨.timer .oneShot 0 6 none, false⟩] }] }
    let factory : Factory TestDriver := { drivers := [("slow", .loaded (.scripted script))] }
    let options : EngineOptions :=
      { bufferSize := 1, maxSlots := 2, maxResources := 2, maxTimers := 2, ackTimeout := 100
        tracePackets := false, overloads := [] }
    ∃ e e' : Engine MemoryLink TestDriver, Reachable options factory e ∧
      e.pollTimers 100 = some (1, e') ∧
      (Host.gained e.host e'.host).armed = [⟨1, 1⟩] ∧ ⟨1, 1⟩ ∈ e'.host.timers.due 100 ∧
      Batch e 100 [⟨0, 0⟩, ⟨1, 0⟩] [⟨0, 0⟩] e' ∧
      ∃ d ∈ e.fireTimersDeeds 100 [⟨0, 0⟩], d.Releases ⟨1, 0⟩ := by
  intro script factory options
  let new : Engine MemoryLink TestDriver := { create options {} factory with initLimit := 1 }
  have hrun : ((new.act 0 (.install ⟨1⟩ "slow" none)).bind fun e₁ =>
      (e₁.act 0 (.request ⟨1⟩ "left" ⟨7⟩ .get)).bind fun e₂ =>
        (e₂.act 0 (.request ⟨1⟩ "right" ⟨8⟩ .get)).bind fun e =>
          (e.pollTimers 100).map fun (n, e') =>
            (n, e.host.timers.due 100, (Host.gained e.host e'.host).fired,
              (Host.gained e.host e'.host).armed, e'.host.timers.due 100)) =
      some (1, [⟨0, 0⟩, ⟨1, 0⟩], [⟨0, 0⟩], [⟨1, 1⟩], [⟨1, 1⟩]) := by
    cbv
  obtain ⟨e₁, hinstall, hrun⟩ := Option.bind_eq_some_iff.mp hrun
  obtain ⟨e₂, hleft, hrun⟩ := Option.bind_eq_some_iff.mp hrun
  obtain ⟨e, hright, hrun⟩ := Option.bind_eq_some_iff.mp hrun
  obtain ⟨⟨n, e'⟩, hpoll, hrun⟩ := Option.map_eq_some_iff.mp hrun
  simp only [Prod.mk.injEq] at hrun
  obtain ⟨rfl, hdue, hfired, harmed, hdue'⟩ := hrun
  -- three actions from a new engine, which is why the run is given in pieces
  have he : Reachable options factory e :=
    .act 0 _ (.act 0 _ (.act 0 _ (.create {} 1) hinstall) hleft) hright
  obtain ⟨hbatch, _⟩ := he.batch_pollTimers hpoll
  rw [hdue, hfired] at hbatch
  refine ⟨e, e', he, hpoll, harmed, by simp [hdue'], hbatch, ?_⟩
  exact (hbatch.skipped [⟨0, 0⟩] ⟨1, 0⟩ [] rfl (by decide)).1

/-! ### Where the law ends -/

/-- Drivers that show where the law of a poll ends. -/
inductive Trickster where
  /-- When its first timer fires, it cancels the second one and arms it anew, so many times. -/
  | rearms (rounds : Nat)
  /-- It puts a copy of the resource that it locks into another slot. -/
  | copies

/-- What a driver does when it is called. -/
def Trickster.respond (driver : Trickster) : (c : Callback) → Program Trickster (c.Result × Trickster)
  | .init =>
    match driver with
    | .rearms _ => do
      let _ ← Program.perform (.addTimer .oneShot 100 4)
      let _ ← Program.perform (.addTimer .oneShot 100 5)
      return (.ok (), driver)
    | .copies => do
      let _ ← Program.perform (.addResource { name := "left", flags := 1 })
      return (.ok (), driver)
  | .packet _ => return ((), driver)
  | .request i session _ => do
    let _ ← Program.perform (.awaitReply i session 4)
    match (← Program.perform .view).resource? i with
    | none => return (.ok .pending, driver)
    | some copy =>
      let _ ← Program.perform (.registry (.addResource ⟨2⟩ copy))
      return (.ok .pending, driver)
  | .timer token =>
    match driver, token with
    | .rearms rounds, 4 => do
      let _ ← Program.rearm 0 6 rounds ⟨1, 0⟩
      return ((), driver)
    | _, _ => return ((), driver)

instance : Driver Trickster := ⟨Trickster.respond⟩

namespace Trickster

section Call

variable {h : Host L Trickster} {s : Host.Setting Trickster} {slot : SlotId}
  {inst : Instance Trickster} {generation : UInt32} {r : Registry (Instance Trickster)}
  {timer : Timer} {rounds : Nat}

/-- After as many rounds as an entry has generations, the second timer is armed under the identifier
that it had at first. -/
private lemma call_rearms (hrounds : UInt32.ofNat (rounds + 1) = 0)
    (hdriver : inst.driver = .loaded (.rearms (rounds + 1)))
    (htake : h.registry.takeDriver slot = some (inst, generation, r))
    (hwell : h.timers.WellFormed) (hget : h.timers.get? ⟨1, 0⟩ = some timer) :
    ∃ timers entries,
      h.call s slot (.timer 4) = some ((),
        { h with
          registry := r.restoreDriver slot inst generation, timers
          journal := h.journal ++ [.called slot inst.serial (.timer 4)] ++ entries }, []) ∧
      timers.get? ⟨1, 0⟩ =
        some { kind := .oneShot, deadline := s.now, period := 0, owner := slot, token := 6 } ∧
      .armed ⟨1, 0⟩ slot ∈ entries := by
  obtain ⟨serial, driver⟩ := inst
  cases hdriver
  obtain ⟨timers, entries, hrun, hlast, hmem⟩ := Host.run_rearm s slot 0 6
    (h := { h with registry := r }.record (.called slot serial (.timer 4))) hwell hget rounds
  simp only [hrounds, UInt32.add_zero] at hrun hlast hmem
  refine ⟨timers, entries, ?_, hlast, hmem⟩
  have hrespond : Host.run s slot ((Occupant.loaded (rearms (rounds + 1))).respond (.timer 4))
      ({ h with registry := r }.record (.called slot serial (.timer 4))) = _ :=
    Host.run_map _ (Host.run_map (fun _ => ((), rearms (rounds + 1))) hrun)
  simp only [Host.call, htake, hrespond]
  rfl

private lemma releases_rearms (hdriver : inst.driver = .loaded (.rearms (rounds + 1)))
    (htake : h.registry.takeDriver slot = some (inst, generation, r))
    (hget : h.timers.get? ⟨1, 0⟩ = some timer) :
    ∃ d ∈ h.callDeeds s slot (.timer 4), d.Releases ⟨1, 0⟩ := by
  obtain ⟨serial, driver⟩ := inst
  cases hdriver
  simp only [Host.callDeeds, htake]
  exact ⟨_, List.mem_cons_self, timer, hget, .inl rfl⟩

end Call

/-- A small engine on which these drivers can be loaded. -/
def options : EngineOptions :=
  { bufferSize := 1, maxSlots := 4, maxResources := 2, maxTimers := 2, ackTimeout := 100
    tracePackets := false, overloads := [] }

/-- Both timers of the driver in a slot are due, and the first has its turn. -/
private structure Primed (rounds : Nat) (e : Engine MemoryLink Trickster) : Prop where
  due : e.host.timers.due 100 = [⟨0, 0⟩, ⟨1, 0⟩]
  first : ∃ timers timer inst generation r,
    e.host.timers.fire ⟨0, 0⟩ 100 = some (⟨⟨0, 0⟩, .oneShot, ⟨1⟩, 4⟩, timers) ∧
      timers.get? ⟨1, 0⟩ = some timer ∧
      (e.host.rung timers ⟨0, 0⟩ ⟨1⟩).registry.takeDriver ⟨1⟩ = some (inst, generation, r) ∧
      inst.driver = .loaded (.rearms rounds) ∧
      r.restoreDriver ⟨1⟩ inst generation = e.host.registry
  /-- The driver is there for the timer that it armed last, whatever became of the timers. -/
  last : ∀ (s : Host.Setting Trickster) (h : Host MemoryLink Trickster) (timers : TimerTable),
    h.registry = e.host.registry →
      ∃ h', (h.rung timers ⟨1, 0⟩ ⟨1⟩).call s ⟨1⟩ (.timer 6) = some ((), h', [])

private lemma exists_primed (rounds : Nat) :
    ∃ e, Reachable options { drivers := [("rearms", .loaded (.rearms rounds))] } e ∧
      Primed rounds e := by
  let new : Engine MemoryLink Trickster :=
    create options {} { drivers := [("rearms", .loaded (.rearms rounds))] }
  obtain ⟨e, hinstall, hprimed⟩ :
      ∃ e, new.act 0 (.install ⟨1⟩ "rearms" none) = some e ∧ Primed rounds e := by
    -- the engine after the install is left to evaluation, as is every fact about it
    refine ⟨?_, ?act, ?_, ?_, ?_⟩
    case act =>
      cbv
      rfl
    · cbv
    · refine ⟨?_, ?_, ?_, ?_, ?_, ?fire, ?get, ?take, ?_, ?_⟩
      case fire =>
        cbv
        rfl
      case get =>
        cbv
        rfl
      case take =>
        cbv
        rfl
      · cbv
      · cbv
    · rintro s ⟨registry, _⟩ timers rfl
      refine ⟨?_, ?call⟩
      case call =>
        cbv
        rfl
  exact ⟨e, .act 0 _ (.create {} _) hinstall, hprimed⟩

section Turns

variable {rounds : Nat} {e e' : Engine MemoryLink Trickster}

private lemma Primed.fireTimer (h : Primed (rounds + 1) e) (hrounds : UInt32.ofNat (rounds + 1) = 0)
    (hwell : e.host.timers.WellFormed) :
    ∃ e', e.fireTimer 100 ⟨0, 0⟩ = some (true, e') ∧ e'.host.registry = e.host.registry ∧
      e'.host.timers.get? ⟨1, 0⟩ =
        some { kind := .oneShot, deadline := 100, period := 0, owner := ⟨1⟩, token := 6 } ∧
      .armed ⟨1, 0⟩ ⟨1⟩ ∈ Host.gained e.host e'.host ∧
      ∃ d ∈ e.fireTimersDeeds 100 [⟨0, 0⟩], d.Releases ⟨1, 0⟩ := by
  obtain ⟨timers, timer, inst, generation, r, hfire, hget, htake, hdriver, hrestore⟩ := h.first
  have hspell := Host.fire_spell hwell hfire
  have hrung : (e.host.rung timers ⟨0, 0⟩ ⟨1⟩).timers = timers := Host.expireReplies_timers ..
  obtain ⟨timers₁, entries, hcall, hlast, hmem⟩ := call_rearms (s := e.setting 100) hrounds hdriver
    htake hspell.wellFormed (hrung ▸ hget)
  obtain ⟨d, hd, hreleases⟩ := releases_rearms (s := e.setting 100) hdriver htake (hrung ▸ hget)
  refine ⟨_, fireTimer_of_call hfire
    -- the driver is back in its slot, so the registry is the one before the call
    (call_of_host (e := { e with host := e.host.rung timers ⟨0, 0⟩ ⟨1⟩ }) hcall
      (Host.initialise_nil _ _ _)), hrestore, hlast, ?_, d, ?_, hreleases⟩
  · obtain ⟨before, hjournal, _⟩ := hspell.journal
    refine Host.mem_gained_of_later ⟨before, hjournal.symm⟩ ?_
    simp [Host.gained, withHost, hmem]
  · simp only [fireTimersDeeds, fireTimerDeeds, hfire, Engine.callDeeds]
    exact List.mem_append_left _ (List.mem_append_left _ hd)

private lemma Primed.fireTimer_again (h : Primed rounds e)
    (hregistry : e'.host.registry = e.host.registry)
    (hget : e'.host.timers.get? ⟨1, 0⟩ =
      some { kind := .oneShot, deadline := 100, period := 0, owner := ⟨1⟩, token := 6 }) :
    ∃ e'', e'.fireTimer 100 ⟨1, 0⟩ = some (true, e'') := by
  have hfire : e'.host.timers.fire ⟨1, 0⟩ 100 =
      some (⟨⟨1, 0⟩, .oneShot, ⟨1⟩, 6⟩, e'.host.timers.release 1) := by
    simp only [TimerTable.fire, hget]
    rfl
  obtain ⟨h', hcall⟩ := h.last (e'.setting 100) e'.host (e'.host.timers.release 1) hregistry
  exact ⟨_, fireTimer_of_call hfire
    (call_of_host (e := { e' with host := e'.host.rung (e'.host.timers.release 1) ⟨1, 0⟩ ⟨1⟩ }) hcall
      (Host.initialise_nil _ _ _))⟩

/-- The second timer fires though it was released, under the identifier under which it was armed
anew. -/
private lemma Primed.pollTimers (h : Primed (rounds + 1) e) (hrounds : UInt32.ofNat (rounds + 1) = 0)
    (hwell : e.host.timers.WellFormed) :
    ∃ e', e.pollTimers 100 = some (2, e') ∧
      (Host.gained e.host e'.host).fired = [⟨0, 0⟩, ⟨1, 0⟩] ∧
      ⟨1, 0⟩ ∈ (Host.gained e.host e'.host).armed ∧
      ∃ d ∈ e.fireTimersDeeds 100 [⟨0, 0⟩], d.Releases ⟨1, 0⟩ := by
  obtain ⟨e₁, hfirst, hregistry, hget, harmed, hreleases⟩ := h.fireTimer hrounds hwell
  obtain ⟨e₂, hagain⟩ := h.fireTimer_again hregistry hget
  have hspell := fireTimer_spell hwell hfirst
  have hspell' := fireTimer_spell hspell.wellFormed hagain
  refine ⟨e₂, ?_, (hspell.trans hspell').fired_gained, ?_, hreleases⟩
  · simp only [Engine.pollTimers, h.due, fireTimers, hfirst, hagain, Option.bind_eq_bind,
      Option.bind_some]
    rfl
  -- what was armed in the first turn stays in the journal after the second
  · obtain ⟨entries, hjournal, _⟩ := hspell'.journal
    exact List.mem_filterMap.mpr
      ⟨_, Host.mem_gained_of_prefix ⟨entries, hjournal.symm⟩ harmed, rfl⟩

end Turns

end Trickster

/-- Three things that can happen in a poll. A timer fires though another driver was put into its owner's
slot, when this was asked of the registry. A timer fires though it was released, when its entry was then
released and filled so often that its identifier came back. And a session that waits for a copy of a
resource goes on to wait when the timer of the resource fires. -/
theorem batch_exceptions :
    (let script : Script (Occupant TestDriver) := { rules := [
        { kind := .init, conditions := [], steps := [⟨.timer .oneShot 100 4 none, false⟩] },
        { kind := .timer, conditions := []
          steps := [⟨.registry (.ok (.install ⟨2⟩ "x")), false⟩] }] }
      let factory : Factory TestDriver := { drivers := [("loader", .loaded (.scripted script))] }
      ∃ e e' : Engine MemoryLink TestDriver, Reachable Trickster.options factory e ∧
        e.pollTimers 100 = some (2, e') ∧ (e.host.timers.get? ⟨1, 0⟩).map Timer.owner = some ⟨2⟩ ∧
        (Host.gained e.host e'.host).fired = [⟨0, 0⟩, ⟨1, 0⟩] ∧
        ∃ d ∈ e.fireTimersDeeds 100 [⟨0, 0⟩], d.op = .registry (.install ⟨2⟩ "x")) ∧
    (let factory : Factory Trickster := { drivers := [("rearms", .loaded (.rearms UInt32.size))] }
      ∃ e e' : Engine MemoryLink Trickster, Reachable Trickster.options factory e ∧
        e.pollTimers 100 = some (2, e') ∧ (Host.gained e.host e'.host).fired = [⟨0, 0⟩, ⟨1, 0⟩] ∧
        ⟨1, 0⟩ ∈ (Host.gained e.host e'.host).armed ∧
        ∃ d ∈ e.fireTimersDeeds 100 [⟨0, 0⟩], d.Releases ⟨1, 0⟩) ∧
    (let factory : Factory Trickster := { drivers := [("copies", .loaded .copies)] }
      let waiting : Resource :=
        { name := "left", flags := 1, lock := some ⟨7⟩, pendingTimer := some ⟨0, 0⟩ }
      ∃ e e' : Engine MemoryLink Trickster, Reachable Trickster.options factory e ∧
        e.pollTimers 100 = some (1, e') ∧ (Host.gained e.host e'.host).fired = [⟨0, 0⟩] ∧
        e.host.registry.resource? ⟨2⟩ 0 = some waiting ∧
        e'.host.registry.resource? ⟨2⟩ 0 = some waiting) := by
  refine ⟨?_, ?_, ?_⟩
  · intro script factory
    let new : Engine MemoryLink TestDriver := create Trickster.options {} factory
    have hrun : ((new.act 0 (.install ⟨1⟩ "loader" none)).bind fun e₁ =>
        (e₁.act 0 (.install ⟨2⟩ "loader" none)).bind fun e =>
          (e.pollTimers 100).map fun polled =>
            (polled.1, (e.host.timers.get? ⟨1, 0⟩).map Timer.owner,
              (Host.gained e.host polled.2.host).fired,
              (e.fireTimersDeeds 100 [⟨0, 0⟩])[2]?.map Deed.op)) =
        some (2, some ⟨2⟩, [⟨0, 0⟩, ⟨1, 0⟩], some (.registry (.install ⟨2⟩ "x"))) := by
      cbv
    obtain ⟨e₁, hfirst, hrun⟩ := Option.bind_eq_some_iff.mp hrun
    obtain ⟨e, hsecond, hrun⟩ := Option.bind_eq_some_iff.mp hrun
    obtain ⟨⟨n, e'⟩, hpoll, hrun⟩ := Option.map_eq_some_iff.mp hrun
    simp only [Prod.mk.injEq] at hrun
    obtain ⟨rfl, howner, hfired, hop⟩ := hrun
    obtain ⟨d, hd, hop⟩ := Option.map_eq_some_iff.mp hop
    exact ⟨e, e', .act 0 _ (.act 0 _ (.create {} _) hfirst) hsecond, hpoll, howner, hfired, d,
      List.mem_of_getElem? hd, hop⟩
  · intro factory
    -- so many rounds are beyond evaluation; the run of the loop is known by induction instead
    obtain ⟨e, he, hprimed⟩ := Trickster.exists_primed UInt32.size
    have hwrap : UInt32.ofNat UInt32.size = 0 := rfl
    obtain ⟨rounds, hrounds⟩ : ∃ rounds, UInt32.size = rounds + 1 := ⟨UInt32.size - 1, rfl⟩
    rw [hrounds] at hprimed hwrap
    obtain ⟨e', hpoll, hfired, harmed, hreleases⟩ := hprimed.pollTimers hwrap he.wellFormed
    exact ⟨e, e', he, hpoll, hfired, harmed, hreleases⟩
  · intro factory waiting
    let new : Engine MemoryLink Trickster := create Trickster.options {} factory
    have hrun : ((new.act 0 (.install ⟨1⟩ "copies" none)).bind fun e₁ =>
        (e₁.act 0 (.install ⟨2⟩ "other" none)).bind fun e₂ =>
          (e₂.act 0 (.request ⟨1⟩ "left" ⟨7⟩ .get)).bind fun e =>
            (e.pollTimers 100).map fun polled =>
              (polled.1, (Host.gained e.host polled.2.host).fired, e.host.registry.resource? ⟨2⟩ 0,
                polled.2.host.registry.resource? ⟨2⟩ 0)) =
        some (1, [⟨0, 0⟩], some waiting, some waiting) := by
      cbv
    obtain ⟨e₁, hfirst, hrun⟩ := Option.bind_eq_some_iff.mp hrun
    obtain ⟨e₂, hsecond, hrun⟩ := Option.bind_eq_some_iff.mp hrun
    obtain ⟨e, hrequest, hrun⟩ := Option.bind_eq_some_iff.mp hrun
    obtain ⟨⟨n, e'⟩, hpoll, hrun⟩ := Option.map_eq_some_iff.mp hrun
    simp only [Prod.mk.injEq] at hrun
    obtain ⟨rfl, hfired, hbefore, hafter⟩ := hrun
    exact ⟨e, e', .act 0 _ (.act 0 _ (.act 0 _ (.create {} _) hfirst) hsecond) hrequest, hpoll,
      hfired, hbefore, hafter⟩

end BoardLink.Engine
