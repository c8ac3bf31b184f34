import BoardLink.Driver.Script
import BoardLink.Link.Memory
import BoardLink.Proofs.Engine.Batch
import BoardLink.Proofs.Host.Requests

/-!
# Requests that fail

A request that is refused changes nothing at all. A request that fails once its driver was called
leaves the resource free, and of the timers only those that would be armed if the session had never
begun to wait.
-/

namespace BoardLink

namespace Host

variable {L P : Type} {h h' : Host L P} {slot : SlotId} {i : Nat} {session : SessionId}

/-- For a free resource a wait fails to begin only where no more timers can be armed. -/
lemma tableFull_of_armReply {r : Resource} {timeout token now : Nat} {err : Error}
    (hres : h.registry.resource? slot i = some r) (hlock : r.lock = none)
    (hfail : h.armReply slot i session timeout token now = (.error err, h')) :
    ∃ n, err = .timer (.tableFull n) := by
  simp only [armReply] at hfail
  split at hfail
  · rename_i e he
    cases hres.symm.trans (resource?_of_getResource_error he)
  · rename_i r' hr'
    obtain rfl := Option.some.inj (hres.symm.trans (getResource_eq_ok hr'))
    simp only [Resource.tryLock, hlock] at hfail
    split at hfail
    · rename_i e hadd
      cases hfail
      simp only [TimerTable.add, reduceCtorEq, false_and, if_false] at hadd
      split at hadd
      · cases hadd
        exact ⟨_, rfl⟩
      · cases hadd
    · cases hfail

end Host

namespace Engine

variable {L P : Type} {e : Engine L P} {slot : SlotId} {name : String} {i : Nat} {r : Resource}

/-! ### Refusals -/

/-- Do users know this resource of the slot by that name? -/
def Names (e : Engine L P) (slot : SlotId) (name : String) (i : Nat) (r : Resource) : Prop :=
  ∃ s, e.host.registry.slot? slot = some s ∧ s.resourceIndex name = some i ∧ s.resource? i = some r

/-- Why a request is not put to a driver. -/
inductive Refuses (e : Engine L P) (slot : SlotId) (name : String) : Request → RegistryError → Prop
  | unknownSlot (request : Request) (hs : e.host.registry.slot? slot = none) :
    Refuses e slot name request (.unknownSlot slot.toNat)
  | unknownResource (request : Request) {s : Slot (Instance P)}
    (hs : e.host.registry.slot? slot = some s) (hname : s.resourceIndex name = none) :
    Refuses e slot name request (.unknownResource slot.toNat name)
  | notReadable {i : Nat} {r : Resource} (hr : e.Names slot name i r)
    (hreadable : r.isReadable = false) : Refuses e slot name .get (.notReadable name)
  | notWritable (value : String) {i : Nat} {r : Resource} (hr : e.Names slot name i r)
    (hwritable : r.isWritable = false) : Refuses e slot name (.set value) (.notWritable name)
  | busy (request : Request) {i : Nat} {r : Resource} {holder : SessionId}
    (hr : e.Names slot name i r) (hlock : r.lock = some holder) :
    Refuses e slot name request (.resourceBusy name holder)
  | noDriver (request : Request) {s : Slot (Instance P)} {i : Nat} {r : Resource}
    (hr : e.Names slot name i r) (hs : e.host.registry.slot? slot = some s)
    (hdriver : s.driver = none) : Refuses e slot name request (.noDriver slot.toNat)

lemma Names.unique {j : Nat} {r' : Resource} (h : e.Names slot name i r)
    (h' : e.Names slot name j r') : i = j ∧ r = r' := by
  obtain ⟨s, hs, hi, hr⟩ := h
  obtain ⟨s', hs', hj, hr'⟩ := h'
  cases hs.symm.trans hs'
  cases hi.symm.trans hj
  cases hr.symm.trans hr'
  exact ⟨rfl, rfl⟩

lemma Names.resource? (h : e.Names slot name i r) : e.host.registry.resource? slot i = some r := by
  obtain ⟨s, hs, _, hr⟩ := h
  exact Registry.resource?_eq_some.mpr ⟨s, hs, hr⟩

lemma Names.findResource (h : e.Names slot name i r) : e.findResource slot name = .ok (i, r) := by
  obtain ⟨s, hs, hi, hr⟩ := h
  simp only [Engine.findResource, Registry.getSlot, hs, bind, Except.bind, hi, hr, pure,
    Except.pure]

/-- A resource is found under its name, or the slot or the name is unknown. -/
lemma findResource_cases (e : Engine L P) (slot : SlotId) (name : String) (request : Request) :
    (∃ err, e.Refuses slot name request err ∧ e.findResource slot name = .error err) ∨
      ∃ i r, e.Names slot name i r ∧ e.findResource slot name = .ok (i, r) := by
  cases hs : e.host.registry.slot? slot with
  | none =>
    have hget : e.host.registry.getSlot slot = .error (.unknownSlot slot.toNat) := by
      simp only [Registry.getSlot, hs]
    refine .inl ⟨_, .unknownSlot request hs, ?_⟩
    simp only [findResource, hget, bind, Except.bind]
  | some s =>
    have hget : e.host.registry.getSlot slot = .ok s := by
      simp only [Registry.getSlot, hs]
    cases hi : s.resourceIndex name with
    | none =>
      refine .inl ⟨_, .unknownResource request hs hi, ?_⟩
      simp only [findResource, hget, bind, Except.bind, hi]
    | some i =>
      obtain ⟨hlt, _⟩ := List.findIdx?_eq_some_iff_getElem.mp hi
      have hr : s.resource? i = some s.resources[i] := List.getElem?_eq_getElem hlt
      have hnames : e.Names slot name i s.resources[i] := ⟨s, hs, hi, hr⟩
      exact .inr ⟨i, _, hnames, hnames.findResource⟩

/-- A resource that is locked, or that does not permit the request, is left alone. -/
lemma refuses_of_screen {request : Request} {err : RegistryError} (hr : e.Names slot name i r)
    (hscreen : screen name r request = .error err) : e.Refuses slot name request err := by
  have hbusy (hfree : screen.free name r = .error err) : e.Refuses slot name request err := by
    simp only [screen.free] at hfree
    split at hfree
    · cases hfree
      exact .busy request hr ‹_›
    · cases hfree
  cases request with
  | get =>
    simp only [screen] at hscreen
    split_ifs at hscreen with hreadable
    · exact hbusy hscreen
    · cases hscreen
      exact .notReadable hr (Bool.eq_false_iff.mpr hreadable)
  | set value =>
    simp only [screen] at hscreen
    split_ifs at hscreen with hwritable
    · exact hbusy hscreen
    · cases hscreen
      exact .notWritable value hr (Bool.eq_false_iff.mpr hwritable)

lemma screen_eq_ok {request : Request} (hscreen : screen name r request = .ok ()) :
    r.lock = none ∧ (request = .get → r.isReadable) ∧
      ∀ value, request = .set value → r.isWritable := by
  have hlock (hfree : screen.free name r = .ok ()) : r.lock = none := by
    simp only [screen.free] at hfree
    split at hfree
    · cases hfree
    · assumption
  cases request with
  | get =>
    simp only [screen] at hscreen
    split_ifs at hscreen with hreadable
    exact ⟨hlock hscreen, fun _ => hreadable, by simp⟩
  | set value =>
    simp only [screen] at hscreen
    split_ifs at hscreen with hwritable
    exact ⟨hlock hscreen, by simp, fun _ _ => hwritable⟩

/-- A request that a driver is there to answer, for a resource that permits it, is not refused. -/
lemma not_refuses {request : Request} {s : Slot (Instance P)} {inst : Instance P}
    (hr : e.Names slot name i r) (hscreen : screen name r request = .ok ())
    (hs : e.host.registry.slot? slot = some s) (hdriver : s.driver = some inst)
    (err : RegistryError) :
    ¬ e.Refuses slot name request err := by
  obtain ⟨hlock, hreadable, hwritable⟩ := screen_eq_ok hscreen
  intro hrefuses
  cases hrefuses with
  | unknownSlot _ hnone => cases hs.symm.trans hnone
  | unknownResource _ hs' hname =>
    obtain ⟨s', hs'', hi, _⟩ := hr
    cases hs'.symm.trans hs''
    cases hname.symm.trans hi
  | notReadable hr' hflag =>
    obtain ⟨_, rfl⟩ := hr.unique hr'
    cases (hreadable rfl).symm.trans hflag
  | notWritable value hr' hflag =>
    obtain ⟨_, rfl⟩ := hr.unique hr'
    cases (hwritable value rfl).symm.trans hflag
  | busy _ hr' hheld =>
    obtain ⟨_, rfl⟩ := hr.unique hr'
    cases hlock.symm.trans hheld
  | noDriver _ _ hs' hnone =>
    cases hs.symm.trans hs'
    cases hdriver.symm.trans hnone

/-! ### Failures -/

variable {now : Nat} {session : SessionId}

/-- What the engine makes of the answer of a driver whose deeds were all permitted. If that is an
error, the driver failed or no more timers can be armed, and the wait is undone. -/
private lemma undone_of_settle [Link L] {h : Host L P} {deeds : List (Deed L P)}
    (hb : Host.Booked (e.setting now) slot i session h deeds e.host)
    (hres : e.host.registry.resource? slot i = some r) (answer : Except Error Outcome) {err : Error}
    (hfails : (e.settle now slot i session answer).1 = .error err) :
    (answer = .error err ∨ answer = .ok .pending ∧ ∃ n, err = .timer (.tableFull n)) ∧
      (e.settle now slot i session answer).2.host.outbox = e.host.outbox ∧
      Host.Undone (e.setting now) slot i h deeds (e.settle now slot i session answer).2.host := by
  match answer with
  | .ok (.reply text) => cases hfails
  -- an error of the driver: what it locked is given up
  | .error err' =>
    cases hfails
    refine ⟨.inl rfl, ?_, hb.undone_abandonReply hres⟩
    rcases Host.abandonReply_cases e.host slot i session with ⟨_, heq⟩ | ⟨_, _, _, _, houtbox⟩
    · exact congrArg Host.outbox heq
    · exact houtbox
  -- a pending answer needs a lock and a timer, and only the timer can fail
  | .ok .pending =>
    have hwait := Registry.wait_of_resource? hres
    rcases harm : e.host.armReply slot i session e.ackTimeout i now with ⟨armed, host⟩
    simp only [settle, harm] at hfails ⊢
    split_ifs at hfails ⊢ with hlocked
    cases armed with
    | ok => cases hfails
    | error err' =>
      cases hfails
      have hfree : r.lock = none := by
        rcases hb.wait with heq | ⟨id, heq⟩
        · exact congrArg Prod.fst (hwait.symm.trans heq)
        · rw [hres] at hlocked
          exact absurd (congrArg Prod.fst (hwait.symm.trans heq)) hlocked
      -- without a timer nothing was locked
      have hsame : host = e.host := by
        rcases Host.armReply_cases e.host slot i session e.ackTimeout i now with
            ⟨_, heq⟩ | ⟨_, _, _, _, _, _, heq⟩
        · cases harm.symm.trans heq
          rfl
        · cases harm.symm.trans heq
      rw [hsame]
      have hfull := Host.tableFull_of_armReply hres hfree harm
      exact ⟨.inr ⟨trivial, hfull⟩, rfl, hb.undone hres hlocked⟩

variable [Link L] [Driver P]

/-- How a request ends: it is refused, and nothing at all has changed, or its driver is called, and
if it fails then, the wait is undone and the engine has told the session nothing. -/
inductive Concludes (e : Engine L P) (now : Nat) (slot : SlotId) (name : String)
    (session : SessionId) (request : Request) : Prop
  | refused {err : RegistryError} (hrefuses : e.Refuses slot name request err)
    (hrequest : e.request now slot name session request = some (.error (.registry err), e))
  | answered {i : Nat} {r : Resource} {answer : Except Error Outcome} {host : Host L P}
    {result : Except Error Outcome} {e' : Engine L P}
    (hr : e.Names slot name i r) (haccepts : ∀ err, ¬ e.Refuses slot name request err)
    (hcall :
      e.host.call (e.setting now) slot (.request i session request) = some (answer, host, []))
    (hrequest : e.request now slot name session request = some (result, e'))
    (hfails : ∀ err, result = .error err →
      (answer = .error err ∨ answer = .ok .pending ∧ ∃ n, err = .timer (.tableFull n)) ∧
        e'.host.outbox = host.outbox ∧
        Host.Undone (e.setting now) slot i e.host
          (e.host.callDeeds (e.setting now) slot (.request i session request)) e'.host)

/-- A request for a resource beside which no timer is left over leaves no trace when it fails, if
the driver locks nothing else, locks it only by waiting for an answer, loads no drivers and never
gives up the lock directly while its timer is armed. -/
theorem Reachable.concludes_request {options : EngineOptions} {factory : Factory P}
    (he : Reachable options factory e) (now : Nat) (slot : SlotId) (name : String)
    (session : SessionId) (request : Request)
    (hpaired : ∀ i r, e.Names slot name i r → r.lock = none → r.pendingTimer = none)
    (hlocks : ∀ i r, e.Names slot name i r →
      ∀ d ∈ e.host.callDeeds (e.setting now) slot (.request i session request),
        d.locksOnly slot i session)
    (hstrands : ∀ i r, e.Names slot name i r →
      ∀ d ∈ e.host.callDeeds (e.setting now) slot (.request i session request),
        d.strands slot i = false) :
    e.Concludes now slot name session request := by
  -- no such resource, or one that the request may not be put to
  rcases e.findResource_cases slot name request with ⟨err, hrefuses, hfind⟩ | ⟨i, r, hr, hfind⟩
  · exact .refused hrefuses (by simp only [Engine.request, hfind])
  cases hscreen : screen name r request with
  | error err =>
    have hrequest : e.request now slot name session request = some (.error (.registry err), e) := by
      simp only [Engine.request, hfind, hscreen]
    exact .refused (refuses_of_screen hr hscreen) hrequest
  | ok =>
    obtain ⟨s, hs, _, _⟩ := id hr
    cases hcall : e.host.call (e.setting now) slot (.request i session request) with
    | none =>
      have hdriver : s.driver = none := by
        cases hdriver : s.driver with
        | none => rfl
        | some inst =>
          obtain ⟨_, _, htake⟩ := Registry.exists_takeDriver hs hdriver
          simp [Host.call, htake] at hcall
      refine .refused (.noDriver request hr hs hdriver) ?_
      simp only [Engine.request, hfind, hscreen, call, hcall]
    | some called =>
      obtain ⟨answer, host, slots⟩ := called
      -- the resource was free, so whatever waits in the end began to wait in this call
      have hwait : e.host.registry.wait slot i = (none, none) := by
        have hlock := (screen_eq_ok hscreen).1
        rw [Registry.wait_of_resource? hr.resource?, hlock, hpaired i r hr hlock]
      have hsome : (e.host.registry.resource? slot i).isSome := by
        rw [hr.resource?]
        rfl
      obtain ⟨rfl, hbooked, hstocks⟩ := Host.booked_call he.wellFormed hwait hsome hcall
        fun d hd => ⟨hlocks i r hr d hd, hstrands i r hr d hd⟩
      let e₁ := (e.withHost host).withHost (e.withHost host).host
      have hcalled : e.call now slot (.request i session request) = some (some answer, e₁) :=
        call_of_host hcall (Host.initialise_nil _ _ _)
      have hpresent : (e₁.host.registry.resource? slot i).isSome := hstocks i hsome
      obtain ⟨r₁, hres⟩ := Option.isSome_iff_exists.mp hpresent
      have hbooked₁ : Host.Booked (e.setting now) slot i session e.host
          (e.host.callDeeds (e.setting now) slot (.request i session request)) e₁.host :=
        hbooked.before_eq rfl rfl (.of_eq rfl)
      obtain ⟨s', inst, hs', hdriver⟩ : ∃ s inst, e.host.registry.slot? slot = some s ∧
          s.driver = some inst := by
        obtain ⟨inst, _, _, _, _, htake, _⟩ := Host.call_eq_some hcall
        obtain ⟨s', hs', hdriver, _⟩ := Registry.takeDriver_cases htake
        exact ⟨s', inst, hs', hdriver⟩
      rcases hsettle : e₁.settle now slot i session answer with ⟨result, e'⟩
      have hrequest : e.request now slot name session request = some (result, e') := by
        simp only [Engine.request, hfind, hscreen, hcalled, hsettle]
      refine .answered hr (not_refuses hr hscreen hs' hdriver) hcall hrequest fun err herr => ?_
      have hundone :=
        undone_of_settle hbooked₁ hres answer ((congrArg Prod.fst hsettle).trans herr)
      rwa [hsettle] at hundone

/-- A driver arms a timer of its own and begins to wait before it finds fault with the value. Its
timer stays armed, and that of the wait is gone. -/
theorem concludes_request_badValue :
    let script : Script (Occupant TestDriver) := { rules := [
      { kind := .init, conditions := [], steps := [⟨.addResource "level" 2, false⟩] },
      { kind := .request, conditions := []
        steps := [⟨.timer .oneShot 50 3 none, false⟩, ⟨.await 0 none 4, false⟩]
        reply := some (.badValue "level" "high") }] }
    let factory : Factory TestDriver := { drivers := [("strict", .loaded (.scripted script))] }
    let options : EngineOptions :=
      { bufferSize := 1, maxSlots := 2, maxResources := 1, maxTimers := 2, ackTimeout := 100
        tracePackets := false, overloads := [] }
    ∃ e e' : Engine MemoryLink TestDriver, Reachable options factory e ∧
      e.Concludes 20 ⟨1⟩ "level" ⟨7⟩ (.set "high") ∧
      e.request 20 ⟨1⟩ "level" ⟨7⟩ (.set "high") =
        some (.error (.registry (.badValue "level" "high")), e') ∧
      e'.host.registry.wait ⟨1⟩ 0 = (none, none) ∧ e'.host.timers.due 200 = [⟨0, 0⟩] := by
  intro script factory options
  let new : Engine MemoryLink TestDriver := { create options {} factory with initLimit := 1 }
  let run := (new.act 0 (.install ⟨1⟩ "strict" none)).bind fun e =>
    (e.request 20 ⟨1⟩ "level" ⟨7⟩ (.set "high")).map fun answered => (e, answered)
  have hbefore : run.map (fun r =>
      ((r.1.findResource ⟨1⟩ "level").toOption.map (Prod.map id Resource.pendingTimer),
        (r.1.host.callDeeds (r.1.setting 20) ⟨1⟩ (.request 0 ⟨7⟩ (.set "high"))).all fun d =>
          d.locksOnly ⟨1⟩ 0 ⟨7⟩ && !d.strands ⟨1⟩ 0)) = some (some (0, none), true) := by
    decide +kernel
  have hafter : run.map (fun r =>
      (r.2.1, r.2.2.host.registry.wait ⟨1⟩ 0, r.2.2.host.timers.due 200)) =
        some (.error (.registry (.badValue "level" "high")), (none, none), [⟨0, 0⟩]) := by
    decide +kernel
  obtain ⟨⟨e, result, e'⟩, hrun, hbefore⟩ := Option.map_eq_some_iff.mp hbefore
  rw [hrun] at hafter
  simp only [Option.map_some, Option.some.injEq, Prod.mk.injEq] at hbefore hafter
  obtain ⟨hfound, hdeeds⟩ := hbefore
  obtain ⟨rfl, hwait, hdue⟩ := hafter
  obtain ⟨_, hinstall, hrun⟩ := Option.bind_eq_some_iff.mp hrun
  obtain ⟨_, hrequest, hrun⟩ := Option.map_eq_some_iff.mp hrun
  cases hrun
  have he : Reachable options factory e := .act 0 _ (.create {} 1) hinstall
  -- there is one resource of the name
  have hnames {i : Nat} {r : Resource} (hr : e.Names ⟨1⟩ "level" i r) :
      i = 0 ∧ r.pendingTimer = none := by
    simpa [hr.findResource, Except.toOption] using hfound
  have hpermitted {i : Nat} {r : Resource} (hr : e.Names ⟨1⟩ "level" i r) :
      ∀ d ∈ e.host.callDeeds (e.setting 20) ⟨1⟩ (.request i ⟨7⟩ (.set "high")),
        d.locksOnly ⟨1⟩ i ⟨7⟩ ∧ d.strands ⟨1⟩ i = false := by
    obtain ⟨rfl, _⟩ := hnames hr
    simpa using hdeeds
  exact ⟨e, e', he, he.concludes_request 20 ⟨1⟩ "level" ⟨7⟩ (.set "high")
    (fun _ _ hr _ => (hnames hr).2) (fun _ _ hr d hd => (hpermitted hr d hd).1)
    (fun _ _ hr d hd => (hpermitted hr d hd).2), hrequest, hwait, hdue⟩

/-- A driver that gives up the lock of its wait directly before it fails leaves the timer of that
wait armed, and noted beside the resource: for the host the session has ceased to wait already. -/
theorem not_concludes_request_unlocked :
    let script : Script (Occupant TestDriver) := { rules := [
      { kind := .init, conditions := [], steps := [⟨.addResource "level" 1, false⟩] },
      { kind := .request, conditions := []
        steps := [⟨.await 0 none 4, false⟩, ⟨.registry (.ok (.unlock ⟨1⟩ 0)), false⟩]
        reply := some (.badValue "level" "high") }] }
    let factory : Factory TestDriver := { drivers := [("hasty", .loaded (.scripted script))] }
    let options : EngineOptions :=
      { bufferSize := 1, maxSlots := 2, maxResources := 1, maxTimers := 2, ackTimeout := 100
        tracePackets := false, overloads := [] }
    ∃ e e' : Engine MemoryLink TestDriver, Reachable options factory e ∧
      (∀ slot i r, e.host.registry.resource? slot i = some r →
        r.lock = none ∧ r.pendingTimer = none) ∧
      (∀ d ∈ e.host.callDeeds (e.setting 0) ⟨1⟩ (.request 0 ⟨7⟩ .get), d.locksOnly ⟨1⟩ 0 ⟨7⟩) ∧
      e.request 0 ⟨1⟩ "level" ⟨7⟩ .get =
        some (.error (.registry (.badValue "level" "high")), e') ∧
      e.host.timers.due 100 = [] ∧ e'.host.timers.due 100 = [⟨0, 0⟩] ∧
      e'.host.registry.wait ⟨1⟩ 0 = (none, some ⟨0, 0⟩) ∧ ¬ e.Concludes 0 ⟨1⟩ "level" ⟨7⟩ .get := by
  intro script factory options
  let new : Engine MemoryLink TestDriver := { create options {} factory with initLimit := 1 }
  let run := (new.act 0 (.install ⟨1⟩ "hasty" none)).bind fun e =>
    (e.request 0 ⟨1⟩ "level" ⟨7⟩ .get).map fun answered => (e, answered)
  have hbefore : run.map (fun r =>
      (r.1.host.registry.slots.all fun s => s.resources.all fun res =>
          res.lock.isNone && res.pendingTimer.isNone,
        (r.1.findResource ⟨1⟩ "level").toOption.map Prod.fst,
        (r.1.host.callDeeds (r.1.setting 0) ⟨1⟩ (.request 0 ⟨7⟩ .get)).all fun d =>
          d.locksOnly ⟨1⟩ 0 ⟨7⟩,
        r.1.host.timers.due 100)) = some (true, some 0, true, []) := by
    decide +kernel
  have hafter : run.map (fun r =>
      (r.2.1, r.2.2.host.timers.due 100, r.2.2.host.registry.wait ⟨1⟩ 0)) =
        some (.error (.registry (.badValue "level" "high")), [⟨0, 0⟩], (none, some ⟨0, 0⟩)) := by
    decide +kernel
  obtain ⟨⟨e, result, e'⟩, hrun, hbefore⟩ := Option.map_eq_some_iff.mp hbefore
  rw [hrun] at hafter
  simp only [Option.map_some, Option.some.injEq, Prod.mk.injEq] at hbefore hafter
  obtain ⟨hfree, hfound, hdeeds, hbefore⟩ := hbefore
  obtain ⟨rfl, hafter, hwait⟩ := hafter
  obtain ⟨_, hinstall, hrun⟩ := Option.bind_eq_some_iff.mp hrun
  obtain ⟨_, hrequest, hrun⟩ := Option.map_eq_some_iff.mp hrun
  cases hrun
  have he : Reachable options factory e := .act 0 _ (.create {} 1) hinstall
  refine ⟨e, e', he, ?_, by simpa using hdeeds, hrequest, hbefore, hafter, hwait, ?_⟩
  -- every resource was free before
  · intro slot i r hr
    obtain ⟨s, hs, hr⟩ := Registry.resource?_eq_some.mp hr
    have hall := List.all_eq_true.mp hfree s (Registry.mem_slots_of_slot? hs)
    simpa using List.all_eq_true.mp hall r (List.mem_of_getElem? hr)
  · intro hconcludes
    cases hconcludes with
    | refused hrefuses hrefused =>
      cases hrequest.symm.trans hrefused
      cases hbefore.symm.trans hafter
    -- the driver unlocked the resource itself, so the timer beside it stays
    | answered hr haccepts hcall hrequest' hfails =>
      cases hrequest.symm.trans hrequest'
      obtain ⟨_, _, hundone⟩ := hfails _ rfl
      obtain ⟨r', hr', _, hpending⟩ := hundone.free
      obtain rfl : _ = 0 := by simpa [hr.findResource, Except.toOption] using hfound
      cases hpending.symm.trans
        (congrArg Prod.snd ((Registry.wait_of_resource? hr').symm.trans hwait))

end Engine

end BoardLink
