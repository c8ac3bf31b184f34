import BoardLink.Proofs.Host.Minor
import BoardLink.Proofs.Host.Turns
import BoardLink.Proofs.Timer.Releases

/-!
# What drivers do to timers

The operations that drivers perform during a call, each with the host that it finds, and those by which
a timer is released: it is cancelled, the wait that it ends is over, or its owner is loaded anew. A timer
that none of them releases stays as it is.
-/

namespace BoardLink

/-! ### Timers in the journal -/

namespace Journal

/-- The timers that fired, in order. -/
def fired (j : Journal) : List TimerId :=
  j.filterMap fun
    | .fired id _ => some id
    | _ => none

/-- The timers that were armed, in order. -/
def armed (j : Journal) : List TimerId :=
  j.filterMap fun
    | .armed id _ => some id
    | _ => none

lemma fired_append (j j' : Journal) : Journal.fired (j ++ j') = j.fired ++ j'.fired :=
  List.filterMap_append

lemma armed_append (j j' : Journal) : Journal.armed (j ++ j') = j.armed ++ j'.armed :=
  List.filterMap_append

lemma fired_of_isMinor {j : Journal} (h : ∀ e ∈ j, e.isMinor) : j.fired = [] := by
  refine List.filterMap_eq_nil_iff.mpr fun e he => ?_
  cases e with
  | fired => cases h _ he
  | _ => rfl

lemma armed_of_isMinor {j : Journal} (h : ∀ e ∈ j, e.isMinor) : j.armed = [] := by
  refine List.filterMap_eq_nil_iff.mpr fun e he => ?_
  cases e with
  | armed => cases h _ he
  | _ => rfl

end Journal

/-! ### Waits in the registry -/

namespace Registry

variable {D : Type}

/-- Does the timer end the wait for the resource? -/
def Waits (r : Registry D) (slot : SlotId) (i : Nat) (timer : TimerId) : Prop :=
  ∃ res, r.resource? slot i = some res ∧ res.pendingTimer = some timer

end Registry

/-! ### Deeds -/

/-- An operation that the driver of a slot performs, and the host that it finds. -/
structure Deed (L P : Type) where
  host : Host L P
  slot : SlotId
  op : Op P

/-- Is the timer released by the operation? It is cancelled, the reply that it guards is completed, or
its owner's slot is loaded anew. -/
def Deed.Releases {L P : Type} (d : Deed L P) (id : TimerId) : Prop :=
  ∃ timer, d.host.timers.get? id = some timer ∧
    (d.op = .cancelTimer id ∨
      (∃ i text, d.op = .completeReply i text ∧ d.host.registry.Waits d.slot i id) ∨
      (∃ name core, d.op = .installDriver timer.owner name core) ∧
        (d.host.registry.slot? timer.owner).isSome)

lemma Deed.Releases.armed {L P : Type} {d : Deed L P} {id : TimerId} (h : d.Releases id) :
    ∃ timer, d.host.timers.get? id = some timer :=
  h.imp fun _ => And.left

/-- May the operation release timers? -/
def Op.mayRelease {P : Type} : Op P → Bool
  | .cancelTimer _ | .completeReply .. | .installDriver .. => true
  | _ => false

namespace Host

variable {L P : Type} {h h' h'' : Host L P}

/-- The journal goes on, and these timers are armed in it, but none fires. -/
def Logs (h h' : Host L P) (armed : List TimerId) : Prop :=
  ∃ entries : Journal, h'.journal = h.journal ++ entries ∧ entries.fired = [] ∧ entries.armed = armed

lemma Minor.logs (hminor : Minor h h') : Logs h h' [] := by
  obtain ⟨entries, hjournal, hminor⟩ := hminor.journal
  exact ⟨entries, hjournal, Journal.fired_of_isMinor hminor, Journal.armed_of_isMinor hminor⟩

lemma Logs.of_eq (hjournal : h'.journal = h.journal) : Logs h h' [] :=
  ⟨[], by rw [hjournal, List.append_nil], rfl, rfl⟩

lemma Logs.trans {ids ids' : List TimerId} (hlogs : Logs h h' ids) (hlogs' : Logs h' h'' ids') :
    Logs h h'' (ids ++ ids') := by
  obtain ⟨entries, hjournal, hfired, harmed⟩ := hlogs
  obtain ⟨entries', hjournal', hfired', harmed'⟩ := hlogs'
  refine ⟨entries ++ entries', ?_, ?_, ?_⟩
  · rw [hjournal', hjournal, List.append_assoc]
  · rw [Journal.fired_append, hfired, hfired', List.append_nil]
  · rw [Journal.armed_append, harmed, harmed']

/-- What an operation comes to for the timers. -/
inductive Does (s : Setting P) (d : Deed L P) (h' : Host L P) : Prop
  | idle (htimers : h'.timers = d.host.timers) (hlogs : Logs d.host h' [])
      (hreleases : ∀ id, ¬ d.Releases id)
  | arm {kind : Timer.Kind} {period token : Nat} {id : TimerId}
      (hadd : d.host.timers.add kind period d.slot token s.now = .ok (id, h'.timers))
      (hlogs : Logs d.host h' [id]) (hreleases : ∀ id, ¬ d.Releases id)
  | cancel (id : TimerId) (htimers : h'.timers = (d.host.timers.cancel id).2)
      (hlogs : Logs d.host h' [])
      (hreleases : ∀ id', d.Releases id' ↔ id' = id ∧ ∃ timer, d.host.timers.get? id' = some timer)
  | drop (owner : SlotId) (htimers : h'.timers = (d.host.timers.cancelOwner owner).2)
      (hlogs : Logs d.host h' [])
      (hreleases : ∀ id', d.Releases id' ↔
        ∃ timer, d.host.timers.get? id' = some timer ∧ timer.owner = owner)

/-! ### Operations -/

section Operations

variable {setting : Setting P} {slot : SlotId}

lemma not_releases {op : Op P} (hop : op.mayRelease = false) (id : TimerId) :
    ¬ (⟨h, slot, op⟩ : Deed L P).Releases id := by
  rintro ⟨timer, _, heq | ⟨i, text, heq, _⟩ | ⟨⟨name, core, heq⟩, _⟩⟩
  · rw [show op = .cancelTimer id from heq] at hop
    cases hop
  · rw [show op = .completeReply i text from heq] at hop
    cases hop
  · rw [show op = .installDriver timer.owner name core from heq] at hop
    cases hop

lemma releases_cancelTimer {id id' : TimerId} :
    (⟨h, slot, .cancelTimer id⟩ : Deed L P).Releases id' ↔
      id' = id ∧ ∃ timer, h.timers.get? id' = some timer := by
  constructor
  · rintro ⟨timer, hget, heq | ⟨i, text, heq, _⟩ | ⟨⟨name, core, heq⟩, _⟩⟩
    · cases heq
      exact ⟨rfl, timer, hget⟩
    · cases heq
    · cases heq
  · rintro ⟨rfl, timer, hget⟩
    exact ⟨timer, hget, .inl rfl⟩

/-- The only timer that an answer may release is the one that the resource names. -/
lemma releases_completeReply {i : Nat} {text : String} {id : TimerId} :
    (⟨h, slot, .completeReply i text⟩ : Deed L P).Releases id ↔
      h.registry.Waits slot i id ∧ ∃ timer, h.timers.get? id = some timer := by
  constructor
  · rintro ⟨timer, hget, heq | ⟨j, text', heq, hwaits⟩ | ⟨⟨name, core, heq⟩, _⟩⟩
    · cases heq
    · cases heq
      exact ⟨hwaits, timer, hget⟩
    · cases heq
  · rintro ⟨hwaits, timer, hget⟩
    exact ⟨timer, hget, .inr (.inl ⟨i, text, rfl, hwaits⟩)⟩

private lemma broadcast_journal (i : Nat) (text : String) :
    (h.broadcast slot i text).2.journal = h.journal := by
  simp only [broadcast]
  split
  · rfl
  · split
    · rfl
    · split_ifs <;> rfl

private lemma command_logs (c : Registry.Command (Occupant P)) : Logs h (h.command c).2 [] := by
  simp only [command]
  split
  · exact .of_eq rfl
  · refine ⟨_, rfl, ?_, ?_⟩
    all_goals
      simp only [commandEntries]
      split <;> rfl

private lemma perform_logs_calm [Link L] {op : Op P} (hop : op.touchesWaits = false) :
    Logs h (h.perform setting slot op).2 [] := by
  cases op with
  | addTimer | cancelTimer | awaitReply | completeReply | installDriver => cases hop
  | setIdentity | addResource => exact .of_eq (onSlot_journal ..)
  | broadcast resource text => exact .of_eq (broadcast_journal resource text)
  | registry c => exact command_logs c
  | note n => exact ⟨[.noted n], rfl, rfl, rfl⟩
  | bindCore core =>
    simp only [perform]
    split <;> exact .of_eq rfl
  | send packet =>
    simp only [perform, send]
    split <;> exact .of_eq rfl
  | _ => exact .of_eq rfl

/-- An operation that neither arms nor cancels timers nor changes locks. -/
private lemma perform_does_calm [Link L] {op : Op P} (hop : op.touchesWaits = false) :
    Does setting ⟨h, slot, op⟩ (h.perform setting slot op).2 := by
  have hcalm : Calm (fun _ => True) h (h.perform setting slot op).2 :=
    perform_calm hop fun _ _ _ _ => trivial
  refine .idle hcalm.timers (perform_logs_calm hop) (not_releases ?_)
  cases op with
  | cancelTimer | completeReply | installDriver => cases hop
  | _ => rfl

private lemma addTimer_does [Link L] (kind : Timer.Kind) (period token : Nat) :
    Does setting ⟨h, slot, .addTimer kind period token⟩
      (h.perform setting slot (.addTimer kind period token)).2 := by
  simp only [perform]
  split
  · exact .idle rfl (.of_eq rfl) (not_releases rfl)
  · rename_i hadd
    exact .arm hadd ⟨[.armed _ _], rfl, rfl, rfl⟩ (not_releases rfl)

private lemma awaitReply_does [Link L] (i : Nat) (session : SessionId) (token : Nat) :
    Does setting ⟨h, slot, .awaitReply i session token⟩
      (h.perform setting slot (.awaitReply i session token)).2 := by
  rcases armReply_cases h slot i session setting.ackTimeout token setting.now with
      ⟨_, heq⟩ | ⟨r, timer, timers, hr, _, hadd, heq⟩
  · simp only [perform, heq]
    exact .idle rfl (.of_eq rfl) (not_releases rfl)
  · simp only [perform, heq]
    refine .arm hadd ⟨[.armed timer slot, .locked slot i session], ?_, rfl, rfl⟩ (not_releases rfl)
    simp [awaiting, record, setResource]

private lemma completeReply_does [Link L] (i : Nat) (text : String) :
    Does setting ⟨h, slot, .completeReply i text⟩
      (h.perform setting slot (.completeReply i text)).2 := by
  simp only [perform]
  rcases completeReply_cases h slot i text with ⟨hnone, heq⟩ | ⟨r, hsettled, _, hjournal, _⟩
  · rw [heq]
    refine .idle rfl (.of_eq rfl) fun id hid => ?_
    obtain ⟨⟨res, hres, _⟩, _⟩ := releases_completeReply.mp hid
    cases hres.symm.trans hnone
  · have hlogs : Logs h (h.completeReply slot i text).2 [] := by
      refine ⟨_, hjournal, ?_, ?_⟩ <;> cases r.lock <;> rfl
    have htimers := hsettled.timers
    -- a wait without a timer has nothing to cancel, so the two cases are different deeds
    cases hpending : r.pendingTimer with
    | none =>
      rw [hpending] at htimers
      refine .idle htimers hlogs fun id hid => ?_
      obtain ⟨⟨res, hres, htimer⟩, _⟩ := releases_completeReply.mp hid
      cases hres.symm.trans hsettled.resource
      cases hpending.symm.trans htimer
    | some id =>
      rw [hpending] at htimers
      refine .cancel id htimers hlogs fun id' => releases_completeReply.trans (and_congr_left' ?_)
      constructor
      · rintro ⟨res, hres, htimer⟩
        cases hres.symm.trans hsettled.resource
        exact Option.some.inj (htimer.symm.trans hpending)
      · rintro rfl
        exact ⟨r, hsettled.resource, hpending⟩

private lemma installDriver_does [Link L] (target : SlotId) (name : String) (core : Option CoreId) :
    Does setting ⟨h, slot, .installDriver target name core⟩
      (h.perform setting slot (.installDriver target name core)).2 := by
  have hcalm : Calm (fun _ => True) (h.dropTimers target)
      (h.installDriver setting.factory target name core).2 :=
    (installDriver_calm fun _ _ _ _ => trivial).1
  have hlogs : Logs h (h.installDriver setting.factory target name core).2 [] := by
    refine installDriver_rel (R := fun h h' => Logs h h' []) Logs.trans
      (vacate_minor h target core).logs (fun hfresh => ?_) (fun hbind => (bindTo_minor hbind).logs)
      fun hload => ?_
    · obtain ⟨registry, _, rfl⟩ := except_map_eq_ok.mp hfresh
      exact ⟨[.installed _ _], rfl, rfl, rfl⟩
    · simp only [loadDriver] at hload
      split at hload
      · obtain ⟨registry, _, rfl⟩ := except_map_eq_ok.mp hload
        exact ⟨[.created _ _], rfl, rfl, rfl⟩
      · cases hload
        exact .of_eq rfl
  -- the deed releases just the timers the target owned, and none when there is no such slot
  have hreleases (id : TimerId) :
      (⟨h, slot, .installDriver target name core⟩ : Deed L P).Releases id ↔
        (∃ timer, h.timers.get? id = some timer ∧ timer.owner = target) ∧
          (h.registry.slot? target).isSome := by
    constructor
    · rintro ⟨timer, hget, heq | ⟨j, text', heq, _⟩ | ⟨⟨name', core', heq⟩, hused⟩⟩
      · cases heq
      · cases heq
      · cases heq
        exact ⟨⟨timer, hget, rfl⟩, hused⟩
    · rintro ⟨⟨timer, hget, rfl⟩, hused⟩
      exact ⟨timer, hget, .inr (.inr ⟨⟨name, core, rfl⟩, hused⟩)⟩
  have htimers := hcalm.timers
  simp only [dropTimers] at htimers
  simp only [perform]
  -- `dropTimers` acts under the same test of the slot that `hreleases` ends with
  split_ifs at htimers with hused
  · exact .drop target htimers hlogs fun id => (hreleases id).trans (and_iff_left hused)
  · exact .idle htimers hlogs fun id hid => hused ((hreleases id).mp hid).2

/-- What an operation of any kind does. -/
lemma perform_does [Link L] (setting : Setting P) (h : Host L P) (slot : SlotId) (op : Op P) :
    Does setting ⟨h, slot, op⟩ (h.perform setting slot op).2 := by
  cases hop : op.touchesWaits with
  | false => exact perform_does_calm hop
  | true =>
    cases op with
    | addTimer kind period token => exact addTimer_does kind period token
    | cancelTimer id =>
      exact .cancel id rfl (.of_eq rfl) fun _ => releases_cancelTimer
    | awaitReply resource session token => exact awaitReply_does resource session token
    | completeReply resource text => exact completeReply_does resource text
    | installDriver target name core => exact installDriver_does target name core
    | addResource resource =>
      exact .idle (onSlot_timers ..) (.of_eq (onSlot_journal ..)) (not_releases rfl)
    | registry c => exact .idle (command_timers h c) (command_logs c) (not_releases rfl)
    | _ => cases hop

end Operations

end Host

end BoardLink
