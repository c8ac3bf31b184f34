import BoardLink.Proofs.Driver.Discipline
import BoardLink.Proofs.Host.Waits

/-!
# Locks never leak

While drivers are careful and no generation of a timer comes back, every lock of a host is guarded
by a timer of its own, whatever drivers do. What is beside a lock is a timer that nobody else knows.
-/

namespace BoardLink.Host

variable {L P : Type} {h h' h'' : Host L P}

/-- Every lock has a timer of its own beside it. -/
def Guarded (h : Host L P) : Prop := h.registry.Guarded h.timers

/-- A timer that was given out and ends nobody's wait. -/
def Plain (h : Host L P) (timer : TimerId) : Prop :=
  h.timers.Issued timer ∧ ¬ h.registry.Pends timer

/-- What the journal gained after it was as long as that of `h`. -/
def gained (h h' : Host L P) : Journal := h'.journal.drop h.journal.length

lemma mem_gained_of_prefix {entry : Entry} (hjournal : h'.journal <+: h''.journal)
    (hmem : entry ∈ gained h h') : entry ∈ gained h h'' := by
  obtain ⟨rest, hrest⟩ := hjournal
  rw [gained, ← hrest, List.drop_append]
  exact List.mem_append_left _ hmem

lemma mem_gained_of_later {entry : Entry} (hjournal : h.journal <+: h'.journal)
    (hmem : entry ∈ gained h' h'') : entry ∈ gained h h'' := by
  obtain ⟨rest, hrest⟩ := hjournal
  rw [gained, ← hrest, List.length_append, ← List.drop_drop] at hmem
  exact List.mem_of_mem_drop hmem

/-- What happens to timers and locks while locks stay guarded: timers that are gone stay gone, those
that fire once stay as they are, and a new lock has a new timer beside it. -/
structure Evolves (h h' : Host L P) : Prop where
  guarded : h'.Guarded
  issued : ∀ timer, h.timers.Issued timer → h'.timers.Issued timer
  gone : ∀ timer, h.timers.Issued timer → h.timers.get? timer = none → h'.timers.get? timer = none
  oneShot : ∀ timer armed, h.timers.Issued timer → armed.kind = .oneShot →
    h'.timers.get? timer = some armed → h.timers.get? timer = some armed
  journal : h.journal <+: h'.journal
  pends : ∀ timer, h'.registry.Pends timer → h.registry.Pends timer ∨
    ¬ h.timers.Issued timer ∧ ∃ owner, .armed timer owner ∈ gained h h'

namespace Evolves

lemma refl (hg : h.Guarded) : Evolves h h :=
  ⟨hg, fun _ => id, fun _ _ => id, fun _ _ _ _ => id, List.prefix_refl _, fun _ => .inl⟩

lemma trans (hev : Evolves h h') (hev' : Evolves h' h'') : Evolves h h'' where
  guarded := hev'.guarded
  issued timer hissued := hev'.issued timer (hev.issued timer hissued)
  gone timer hissued hgone :=
    hev'.gone timer (hev.issued timer hissued) (hev.gone timer hissued hgone)
  oneShot timer armed hissued hkind hget :=
    hev.oneShot timer armed hissued hkind
      (hev'.oneShot timer armed (hev.issued timer hissued) hkind hget)
  journal := hev.journal.trans hev'.journal
  pends timer hpends := by
    rcases hev'.pends timer hpends with hpends | ⟨hfresh, owner, hmem⟩
    · rcases hev.pends timer hpends with hpends | ⟨hfresh, owner, hmem⟩
      · exact .inl hpends
      · exact .inr ⟨hfresh, owner, mem_gained_of_prefix hev'.journal hmem⟩
    · exact .inr ⟨fun hissued => hfresh (hev.issued timer hissued), owner,
        mem_gained_of_later hev.journal hmem⟩

/-- Timers that end nobody's wait never will. -/
lemma plain (hev : Evolves h h') {timer : TimerId} (hplain : h.Plain timer) : h'.Plain timer := by
  refine ⟨hev.issued timer hplain.1, ?_⟩
  intro hpends
  rcases hev.pends timer hpends with hpends | ⟨hfresh, _⟩
  · exact hplain.2 hpends
  · exact hfresh hplain.1

lemma record (hev : Evolves h h') (e : Entry) : Evolves h (h'.record e) where
  guarded := hev.guarded
  issued := hev.issued
  gone := hev.gone
  oneShot := hev.oneShot
  journal := hev.journal.trans (List.prefix_append _ _)
  pends timer hpends := by
    rcases hev.pends timer hpends with hpends | ⟨hfresh, owner, hmem⟩
    · exact .inl hpends
    · exact .inr ⟨hfresh, owner, mem_gained_of_prefix (List.prefix_append _ _) hmem⟩

/-- Timers go, and no lock is taken. -/
lemma of_thinned (hg : h'.Guarded) (hthinned : TimerTable.Thinned h.timers h'.timers)
    (hquiet : Registry.Quiet h.registry h'.registry) (hjournal : h.journal <+: h'.journal) :
    Evolves h h' where
  guarded := hg
  issued timer := (hthinned.issued timer).mpr
  gone timer _ := hthinned.get?_none timer
  oneShot timer armed _ := hthinned.get?_oneShot timer armed
  journal := hjournal
  pends _ hpends := .inl (hquiet.pends hpends)

/-- One timer is armed, and only the lock beside it may be new. -/
lemma of_armed {timer : TimerId} {armed : Timer} {owner : SlotId} (hg : h'.Guarded)
    (harmed : TimerTable.Armed h.timers h'.timers timer armed) (hfresh : ¬ h.timers.Issued timer)
    (hjournal : h.journal <+: h'.journal) (hmem : .armed timer owner ∈ gained h h')
    (hpends : ∀ timer', h'.registry.Pends timer' → h.registry.Pends timer' ∨ timer' = timer) :
    Evolves h h' where
  guarded := hg
  issued timer' hissued := (harmed.issued timer').mpr (.inr hissued)
  -- only the new timer's place changed, and no timer issued earlier bears its id
  gone timer' hissued hgone := by
    rw [harmed.get?, if_neg, hgone]
    rintro rfl
    exact hfresh hissued
  oneShot timer' armed' hissued _ hget := by
    rw [harmed.get?, if_neg] at hget
    · exact hget
    · rintro rfl
      exact hfresh hissued
  journal := hjournal
  pends timer' hpends' := by
    rcases hpends timer' hpends' with hpends' | rfl
    · exact .inl hpends'
    · exact .inr ⟨hfresh, owner, hmem⟩

end Evolves

/-! ### Operations -/

variable {slot : SlotId} {i : Nat} {new : Instance P → Prop}

lemma Calm.evolves (hcalm : Calm new h h') (hg : h.Guarded) : Evolves h h' := by
  refine .of_thinned ?_ ?_ hcalm.quiet hcalm.journal.isPrefix
  · rw [Guarded, hcalm.timers]
    exact hg.of_quiet hcalm.quiet
  · rw [hcalm.timers]
    exact .refl hg.wellFormed

private lemma add_evolves {kind : Timer.Kind} {period token now : Nat} {timer : TimerId}
    {timers : TimerTable} (hg : h.Guarded)
    (hadd : h.timers.add kind period slot token now = .ok (timer, timers))
    (hwrap : timers.Unwrapped) : Evolves h ({ h with timers }.record (.armed timer slot)) := by
  have harmed := TimerTable.armed_add hg.wellFormed hadd
  have hfresh := harmed.fresh hwrap
  have hguarded : h.registry.Guarded timers := by
    apply hg.of_timers harmed.wellFormed
    intro timer' hpends
    rw [harmed.get?, if_neg]
    rintro rfl
    exact hfresh (hg.issued hpends)
  have hmem : .armed timer slot ∈ gained h ({ h with timers }.record (.armed timer slot)) := by
    simp [gained, record]
  exact .of_armed hguarded harmed hfresh (List.prefix_append _ _) hmem fun _ => .inl

private lemma armReply_evolves (hg : h.Guarded) (session : SessionId) (timeout token now : Nat)
    (hwrap : (h.armReply slot i session timeout token now).2.timers.Unwrapped) :
    Evolves h (h.armReply slot i session timeout token now).2 := by
  rcases armReply_cases h slot i session timeout token now with
      ⟨_, heq⟩ | ⟨r, timer, timers, hr, hlock, hadd, heq⟩
  · rw [heq]
    exact .refl hg
  · rw [heq] at hwrap ⊢
    have harmed := TimerTable.armed_add hg.wellFormed hadd
    have hfresh := harmed.fresh hwrap
    -- the journal entry tells a wait begun here from one that was there before
    have hmem : .armed timer slot ∈ gained h (h.awaiting slot i session r timer timers) := by
      simp [gained, awaiting, record, setResource]
    refine .of_armed (hg.await harmed rfl rfl hfresh) harmed hfresh ?_ hmem ?_
    · exact (List.prefix_append _ _).trans (List.prefix_append _ _)
    · rintro timer' ⟨slot', j, r', hr', htimer'⟩
      rcases Registry.resource?_setResource hr' with ⟨_, _, rfl⟩ | ⟨_, hr'⟩
      · cases htimer'
        exact .inr rfl
      · exact .inl ⟨slot', j, r', hr', htimer'⟩

private lemma Settled.evolves {r : Resource} (hsettled : Settled h slot i r h') (hg : h.Guarded) :
    Evolves h h' := by
  have hthinned : TimerTable.Thinned h.timers h'.timers := by
    rw [hsettled.timers]
    cases r.pendingTimer with
    | none => exact .refl hg.wellFormed
    | some timer => exact TimerTable.thinned_cancel hg.wellFormed timer
  -- the cancelled timer is the one this wait named, and no other wait names it
  have hguarded : h'.Guarded := by
    rw [Guarded, hsettled.registry]
    apply hg.settle hsettled.resource hthinned.wellFormed
    intro timer hne
    rw [hsettled.timers]
    cases htimer : r.pendingTimer with
    | none => rfl
    | some timer' =>
      rw [Option.map_some, Option.getD_some, TimerTable.get?_cancel, if_neg]
      rintro rfl
      exact hne htimer
  refine .of_thinned hguarded hthinned ?_ hsettled.journal.isPrefix
  rw [hsettled.registry]
  exact Registry.quiet_settle h.registry slot i r

private lemma cancel_evolves {timer : TimerId} (hg : h.Guarded) (hplain : h.Plain timer) :
    Evolves h { h with timers := (h.timers.cancel timer).2 } := by
  have hthinned := TimerTable.thinned_cancel hg.wellFormed timer
  refine .of_thinned ?_ hthinned (.refl _) (List.prefix_refl _)
  apply hg.of_timers hthinned.wellFormed
  intro timer' hpends
  rw [TimerTable.get?_cancel, if_neg]
  rintro rfl
  exact hplain.2 hpends

private lemma installDriver_evolves (hg : h.Guarded) (factory : Factory P) (slot : SlotId)
    (name : String) (core : Option CoreId) :
    Evolves h (h.installDriver factory slot name core).2 := by
  obtain ⟨hcalm, hbare⟩ : Calm (fun _ => True) (h.dropTimers slot)
        (h.installDriver factory slot name core).2 ∧
      (h.registry.slot? slot = none ∨ (h.installDriver factory slot name core).2.Bare slot) :=
    installDriver_calm fun _ _ _ _ => trivial
  cases hs : h.registry.slot? slot with
  | none =>
    have hdrop : h.dropTimers slot = h := by
      simp [dropTimers, hs]
    rw [hdrop] at hcalm
    exact hcalm.evolves hg
  | some s =>
    have hdrop : h.dropTimers slot = { h with timers := (h.timers.cancelOwner slot).2 } := by
      simp [dropTimers, hs]
    rw [hdrop] at hcalm
    have hthinned := (TimerTable.cancelOwner_spec hg.wellFormed slot).1
    refine .of_thinned ?_ ?_ hcalm.quiet hcalm.journal.isPrefix
    · rw [Guarded, hcalm.timers]
      exact hg.vacate hcalm.quiet (hbare.resolve_left (by simp [hs]))
    · rw [hcalm.timers]
      exact hthinned

private lemma fire_evolves {timer : TimerId} {now : Nat} {expiry : Expiry} {timers : TimerTable}
    (hg : h.Guarded) (hfire : h.timers.fire timer now = some (expiry, timers)) :
    Evolves h (({ h with timers }.record (.fired timer expiry.owner)).expireReplies expiry.owner
      timer) := by
  obtain ⟨armed, hget, howner, hthinned, _, hkeep⟩ := TimerTable.fire_eq_some hg.wellFormed hfire
  rw [howner]
  simp only [expireReplies]
  split
  · rename_i hs
    refine .of_thinned ?_ hthinned (.refl _) (List.prefix_append _ _)
    refine hg.of_timers hthinned.wellFormed fun timer' hpends => hkeep timer' ?_
    rintro rfl
    exact hg.not_pends_of_owner hget hs hpends
  · rename_i s hs
    exact .of_thinned (hg.expire hthinned.wellFormed hkeep hget hs) hthinned
      (Registry.quiet_expired hs timer)
      ((List.prefix_append _ _).trans (List.prefix_append _ _))

/-! ### Calls -/

variable [Driver P]

/-- The driver is careful, and the timers that it knows end nobody's wait. -/
def Trusts (h : Host L P) (driver : Occupant P) : Prop :=
  ∃ known, driver.Careful known ∧ ∀ timer ∈ known, h.Plain timer

lemma Evolves.trusts {driver : Occupant P} (hev : Evolves h h') (htrusts : h.Trusts driver) :
    h'.Trusts driver := by
  obtain ⟨known, hcareful, hplain⟩ := htrusts
  exact ⟨known, hcareful, fun timer hmem => hev.plain (hplain timer hmem)⟩

/-- All drivers in slots can be trusted. -/
def Staffed (h : Host L P) : Prop :=
  ∀ slot s inst, h.registry.slot? slot = some s → s.driver = some inst → h.Trusts inst.driver

lemma Staffed.of_hires (hstaffed : h.Staffed) (hev : Evolves h h')
    (hhires : Registry.Hires (fun inst => h'.Trusts inst.driver) h.registry h'.registry) :
    h'.Staffed := by
  intro slot s inst hs hinst
  rcases hhires slot s inst hs hinst with ⟨s', hs', hinst'⟩ | htrusts
  · exact hev.trusts (hstaffed slot s' inst hs' hinst')
  · exact htrusts

variable [Link L] {setting : Setting P} {known : Set TimerId}

omit [Link L] in
/-- The drivers that a permitted operation brings into slots can be trusted after it. -/
private lemma trusts_of_brings {op : Op P} {driver : Occupant P}
    (hop : Op.Careful Occupant.Careful known op) (hbrings : op.Brings setting.factory driver)
    (hfactory : ∀ name driver, setting.factory.create name = some driver → driver.Careful ∅)
    (hknown : ∀ timer ∈ known, h.Plain timer) : h.Trusts driver := by
  cases op with
  | installDriver target name core => exact ⟨∅, hfactory name driver hbrings, fun _ => False.elim⟩
  | registry command =>
    cases command with
    | setDriver id driver' =>
      cases hbrings
      exact ⟨known, hop, hknown⟩
    | _ => cases hbrings
  | _ => cases hbrings

/-- A permitted operation keeps locks guarded, and what it makes known ends nobody's wait. -/
private lemma perform_evolves {op : Op P} (hop : Op.Careful Occupant.Careful known op)
    (hg : h.Guarded) (hknown : ∀ timer ∈ known, h.Plain timer)
    (hwrap : (h.perform setting slot op).2.timers.Unwrapped) :
    Evolves h (h.perform setting slot op).2 ∧
      ∀ timer ∈ op.learned (h.perform setting slot op).1,
        (h.perform setting slot op).2.Plain timer := by
  cases hwaits : op.touchesWaits with
  | false =>
    have hcalm : Calm (fun _ => True) h (h.perform setting slot op).2 :=
      perform_calm hwaits fun _ _ _ _ => trivial
    refine ⟨hcalm.evolves hg, ?_⟩
    cases op with
    | addTimer => cases hwaits
    | _ => exact fun _ => False.elim
  | true =>
    cases op with
    | addTimer kind period token =>
      revert hwrap
      simp only [perform]
      split
      · intro hwrap
        exact ⟨.refl hg, fun _ => False.elim⟩
      · rename_i timer timers hadd
        intro hwrap
        refine ⟨add_evolves hg hadd hwrap, ?_⟩
        rintro timer' rfl
        have harmed := TimerTable.armed_add hg.wellFormed hadd
        refine ⟨(harmed.issued timer').mpr (.inl rfl), ?_⟩
        intro hpends
        -- a handle the driver learns is of a fresh timer, hence of no wait's
        exact harmed.fresh hwrap (hg.issued hpends)
    | cancelTimer id => exact ⟨cancel_evolves hg (hknown id hop), fun _ => False.elim⟩
    | awaitReply resource session token =>
      exact ⟨armReply_evolves hg session _ token _ hwrap, fun _ => False.elim⟩
    | completeReply resource text =>
      rcases completeReply_cases h slot resource text with ⟨_, heq⟩ | ⟨r, hsettled, _⟩
      · simp only [perform, heq]
        exact ⟨.refl hg, fun _ => False.elim⟩
      · exact ⟨hsettled.evolves hg, fun _ => False.elim⟩
    | installDriver target name core =>
      exact ⟨installDriver_evolves hg setting.factory target name core, fun _ => False.elim⟩
    | addResource => cases ((Op.locks_addResource (P := P)).mpr hop).symm.trans hwaits
    | registry command =>
      cases command with
      | setDriver => cases hwaits
      | _ => cases Eq.trans (Eq.symm hop) hwaits
    | _ => cases hwaits

/-- A program of a careful driver keeps locks guarded, and what it knows in the end ends nobody's
wait. -/
lemma run_keeps (slot : SlotId) {α : Type} {post : Set TimerId → α → Prop} {p : Program P α}
    (hp : p.Follows (Op.Careful Occupant.Careful) post known)
    (hfactory : ∀ name driver, setting.factory.create name = some driver → driver.Careful ∅)
    (hg : h.Guarded) (hstaffed : h.Staffed) (hknown : ∀ timer ∈ known, h.Plain timer)
    (hwrap : (run setting slot p h).2.1.timers.Unwrapped) :
    Evolves h (run setting slot p h).2.1 ∧ (run setting slot p h).2.1.Staffed ∧
      ∃ known', post known' (run setting slot p h).1 ∧
        ∀ timer ∈ known', (run setting slot p h).2.1.Plain timer := by
  -- `known` grows with each handle learned, which is why the induction leaves it free
  induction p generalizing h known with
  | done a => exact ⟨.refl hg, hstaffed, known, hp, hknown⟩
  | step op next ih =>
    obtain ⟨hop, hnext⟩ := hp
    have hwrap' : (h.perform setting slot op).2.timers.Unwrapped := hwrap.of_ages (run_ages slot _ _)
    obtain ⟨hev, hlearned⟩ := perform_evolves hop hg hknown hwrap'
    have hstaffs : Staffs (fun inst => (h.perform setting slot op).2.Trusts inst.driver) h
        (h.perform setting slot op).2 :=
      perform_staffs fun driver n _ hbrings =>
        hev.trusts (trusts_of_brings hop hbrings hfactory hknown)
    have hknown' : ∀ timer ∈ known ∪ op.learned (h.perform setting slot op).1,
        (h.perform setting slot op).2.Plain timer := by
      rintro timer (hmem | hmem)
      · exact hev.plain (hknown timer hmem)
      · exact hlearned timer hmem
    obtain ⟨hev', hstaffed', hpost⟩ :=
      ih _ (hnext _) hev.guarded (hstaffed.of_hires hev hstaffs.hires) hknown' hwrap
    exact ⟨hev.trans hev', hstaffed', hpost⟩

omit [Driver P] [Link L] in
private lemma restoreDriver_calm (h : Host L P) (slot : SlotId) (inst : Instance P)
    (generation : UInt32) (hnew : new inst) :
    Calm new h { h with registry := h.registry.restoreDriver slot inst generation } := by
  refine ⟨restoreDriver_staffs h slot generation hnew, rfl, ?_⟩
  rcases Registry.restoreDriver_cases h.registry slot inst generation with
      heq | ⟨s, hs, _, hupdated⟩
  · rw [heq]
    exact .refl _
  · exact hupdated.quiet_of_resources hs rfl

/-- A call of a driver keeps locks guarded, and all drivers stay careful. -/
lemma call_keeps {c : Callback} {result : c.Result} {slots : List SlotId}
    (hcall : h.call setting slot c = some (result, h', slots))
    (hfactory : ∀ name driver, setting.factory.create name = some driver → driver.Careful ∅)
    (hg : h.Guarded) (hstaffed : h.Staffed) (hwrap : h'.timers.Unwrapped) :
    Evolves h h' ∧ h'.Staffed := by
  obtain ⟨inst, generation, registry, driver, h₁, htake, hrun, rfl⟩ := call_eq_some hcall
  obtain ⟨s, hs, hinst, hupdated⟩ := Registry.takeDriver_cases htake
  obtain ⟨known, hcareful, hplain⟩ := hstaffed slot s inst hs hinst
  -- the driver is away from its slot while it runs
  have haway : Calm (fun _ => False) h { h with registry } :=
    ⟨.of_taken hupdated, rfl, hupdated.quiet_of_resources hs rfl⟩
  have hev := (haway.evolves hg).record (.called slot inst.serial c)
  have hkeeps := run_keeps slot (hcareful.respond careful_monotone c) hfactory hev.guarded
    (hstaffed.of_hires hev (hupdated.hires_of_none rfl))
    fun timer hmem => hev.plain (hplain timer hmem)
  rw [hrun] at hkeeps
  obtain ⟨hev₁, hstaffed₁, known', hcareful', hplain'⟩ := hkeeps hwrap
  have hback : Calm (fun inst' => inst'.driver = driver) h₁
      { h₁ with registry := h₁.registry.restoreDriver slot { inst with driver } generation } :=
    restoreDriver_calm h₁ slot { inst with driver } generation rfl
  have hev₂ := hback.evolves hev₁.guarded
  refine ⟨(hev.trans hev₁).trans hev₂, hstaffed₁.of_hires hev₂ ?_⟩
  intro slot' s' inst' hs' hinst'
  refine (hback.hires slot' s' inst' hs' hinst').imp_right ?_
  rintro rfl
  exact ⟨known', hcareful', fun timer hmem => hev₂.plain (hplain' timer hmem)⟩

omit [Link L] in
private lemma calm_keeps (hcalm : Calm (fun _ => False) h h') (hg : h.Guarded)
    (hstaffed : h.Staffed) : Evolves h h' ∧ h'.Staffed := by
  have hev := hcalm.evolves hg
  refine ⟨hev, hstaffed.of_hires hev ?_⟩
  intro slot s inst hs hinst
  exact (hcalm.hires slot s inst hs hinst).imp_right False.elim

/-- So does every step. -/
lemma Step.keeps (hstep : Step setting h h')
    (hfactory : ∀ name driver, setting.factory.create name = some driver → driver.Careful ∅)
    (hg : h.Guarded) (hstaffed : h.Staffed) (hwrap : h'.timers.Unwrapped) :
    Evolves h h' ∧ h'.Staffed := by
  cases hstep with
  | call hcall => exact call_keeps hcall hfactory hg hstaffed hwrap
  | transmit transmitter =>
    exact calm_keeps (.of_registry_eq rfl rfl rfl (.refl _)) hg hstaffed
  | tell outbox => exact calm_keeps (.of_registry_eq rfl rfl rfl (.refl _)) hg hstaffed
  | @fire timer expiry timers hfire =>
    have hev := fire_evolves hg hfire
    exact ⟨hev, hstaffed.of_hires hev (expireReplies_staffs _ expiry.owner timer).hires⟩
  | arm slot i session timeout token =>
    have hev := armReply_evolves hg session timeout token setting.now hwrap
    exact ⟨hev, hstaffed.of_hires hev (armReply_staffs h slot i session timeout token _).hires⟩
  | abandon slot i session =>
    rcases abandonReply_cases h slot i session with ⟨_, heq⟩ | ⟨r, hsettled, _⟩
    -- another session's wait, or none, is left alone
    · rw [heq]
      exact ⟨.refl hg, hstaffed⟩
    · have hev := hsettled.evolves hg
      exact ⟨hev, hstaffed.of_hires hev hsettled.staffs.hires⟩
  | subscribe broadcast hr => exact calm_keeps (setResource_calm hr rfl rfl) hg hstaffed

lemma Steps.keeps (hsteps : Steps setting h h')
    (hfactory : ∀ name driver, setting.factory.create name = some driver → driver.Careful ∅)
    (hg : h.Guarded) (hstaffed : h.Staffed) (hwrap : h'.timers.Unwrapped) :
    Evolves h h' ∧ h'.Staffed := by
  induction hsteps with
  | refl => exact ⟨.refl hg, hstaffed⟩
  | tail _ hstep ih =>
    obtain ⟨hev, hstaffed₁⟩ := ih (hwrap.of_ages hstep.ages)
    obtain ⟨hev', hstaffed₂⟩ := hstep.keeps hfactory hev.guarded hstaffed₁ hwrap
    exact ⟨hev.trans hev', hstaffed₂⟩

/-! ### Slots filled from outside -/

omit [Link L]

/-- Loading a careful driver keeps locks guarded. -/
lemma installDriver_keeps {factory : Factory P}
    (hfactory : ∀ name driver, factory.create name = some driver → driver.Careful ∅)
    (hg : h.Guarded) (hstaffed : h.Staffed) (slot : SlotId) (name : String)
    (core : Option CoreId) :
    Evolves h (h.installDriver factory slot name core).2 ∧
      (h.installDriver factory slot name core).2.Staffed := by
  have hev := installDriver_evolves hg factory slot name core
  have hstaffs : Staffs (fun inst => (h.installDriver factory slot name core).2.Trusts inst.driver) h
      (h.installDriver factory slot name core).2 :=
    installDriver_staffs fun driver n _ hcreate => ⟨∅, hfactory name driver hcreate, nofun⟩
  exact ⟨hev, hstaffed.of_hires hev hstaffs.hires⟩

/-- So does a fresh instance without driver. -/
lemma installFresh_keeps {name : String} (hinstall : h.installFresh slot name = .ok h')
    (hg : h.Guarded) (hstaffed : h.Staffed) : Evolves h h' ∧ h'.Staffed :=
  calm_keeps (installFresh_calm hinstall) hg hstaffed

/-- So does a careful driver that is put into a slot. -/
lemma setDriver_keeps {driver : Occupant P} (hset : h.setDriver slot driver = .ok h')
    (hdriver : driver.Careful ∅) (hg : h.Guarded) (hstaffed : h.Staffed) :
    Evolves h h' ∧ h'.Staffed := by
  have hcalm : Calm (fun inst => inst.driver = driver) h h' := setDriver_calm hset rfl
  have hev := hcalm.evolves hg
  refine ⟨hev, hstaffed.of_hires hev ?_⟩
  intro slot' s inst hs hinst
  refine (hcalm.hires slot' s inst hs hinst).imp_right ?_
  rintro rfl
  exact ⟨∅, hdriver, nofun⟩

end BoardLink.Host
