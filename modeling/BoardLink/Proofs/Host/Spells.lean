import BoardLink.Proofs.Host.Deeds
import BoardLink.Proofs.Host.Locks

/-!
# Timers while drivers are called

From the time when drivers are called until they have answered, a timer stays as it is unless it fires
or one of their operations releases it, and each timer that is armed meanwhile gets an identifier of its
own.
-/

namespace BoardLink.Host

variable {L P : Type} {h h' h'' : Host L P} {fired fired' : List TimerId}
  {deeds deeds' : List (Deed L P)}

/-- What happens to the timers while these fire and drivers do these deeds. -/
structure Spell (h h' : Host L P) (fired : List TimerId) (deeds : List (Deed L P)) : Prop where
  wellFormed : h'.timers.WellFormed
  retains : h.timers.Retains h'.timers
  kept : ∀ id timer, h.timers.get? id = some timer → id ∉ fired → (∀ d ∈ deeds, ¬ d.Releases id) →
    h'.timers.get? id = some timer
  released : ∀ d ∈ deeds, ∀ id, d.Releases id →
    h.timers.releases id.entry < h'.timers.releases id.entry
  journal : ∃ entries : Journal, h'.journal = h.journal ++ entries ∧ entries.fired = fired ∧
    ∀ id ∈ entries.armed, h.timers.ArmedOnWay h'.timers id

namespace Spell

/-- Nothing happens to the timers. -/
lemma of_timers_eq (hwell : h.timers.WellFormed) (htimers : h'.timers = h.timers)
    (hlogs : Logs h h' []) : Spell h h' [] [] := by
  obtain ⟨entries, hjournal, hfired, harmed⟩ := hlogs
  refine ⟨htimers ▸ hwell, htimers ▸ .refl _, fun id timer hget _ _ => htimers ▸ hget,
    List.forall_mem_nil _, entries, hjournal, hfired, fun id hid => ?_⟩
  rw [harmed] at hid
  cases hid

lemma refl (hwell : h.timers.WellFormed) : Spell h h [] [] := .of_timers_eq hwell rfl (.of_eq rfl)

lemma trans (hspell : Spell h h' fired deeds) (hspell' : Spell h' h'' fired' deeds') :
    Spell h h'' (fired ++ fired') (deeds ++ deeds') := by
  obtain ⟨entries, hjournal, hfired, harmed⟩ := hspell.journal
  obtain ⟨entries', hjournal', hfired', harmed'⟩ := hspell'.journal
  refine ⟨hspell'.wellFormed, hspell.retains.trans hspell'.retains, ?_, ?_, entries ++ entries', ?_,
    ?_, ?_⟩
  -- a timer is kept by the whole when it is kept by each half
  · intro id timer hget hid hdeeds
    obtain ⟨hid, hid'⟩ := not_or.mp (mt List.mem_append.mpr hid)
    obtain ⟨hdeeds, hdeeds'⟩ := List.forall_mem_append.mp hdeeds
    exact hspell'.kept id timer (hspell.kept id timer hget hid hdeeds) hid' hdeeds'
  -- a release made in one half still counts after the other, since releases are never taken back
  · intro d hd id hreleases
    rcases List.mem_append.mp hd with hd | hd
    · exact Nat.lt_of_lt_of_le (hspell.released d hd id hreleases)
        (hspell'.retains.releases_le id.entry)
    · exact Nat.lt_of_le_of_lt (hspell.retains.releases_le id.entry)
        (hspell'.released d hd id hreleases)
  · rw [hjournal', hjournal, List.append_assoc]
  · rw [Journal.fired_append, hfired, hfired']
  · intro id hid
    rw [Journal.armed_append] at hid
    rcases List.mem_append.mp hid with hid | hid
    · exact (harmed id hid).before hspell'.retains
    · exact (harmed' id hid).after hspell.retains

/-- Something that is nothing to the timers comes after. -/
lemma before_eq (hspell : Spell h h' fired deeds) (htimers : h''.timers = h'.timers)
    (hlogs : Logs h' h'' []) : Spell h h'' fired deeds := by
  have hspell' := hspell.trans (.of_timers_eq hspell.wellFormed htimers hlogs)
  rwa [List.append_nil, List.append_nil] at hspell'

/-- Something that is nothing to the timers comes before. -/
lemma after_eq (hspell : Spell h' h'' fired deeds) (hwell : h.timers.WellFormed)
    (htimers : h'.timers = h.timers) (hlogs : Logs h h' []) : Spell h h'' fired deeds :=
  (Spell.of_timers_eq hwell htimers hlogs).trans hspell

/-- The journal tells which timers fired. -/
lemma fired_gained (hspell : Spell h h' fired deeds) : (gained h h').fired = fired := by
  obtain ⟨entries, hjournal, hfired, _⟩ := hspell.journal
  rw [gained, hjournal, List.drop_left, hfired]

/-- The journal tells which timers were armed. -/
lemma armedOnWay_of_mem (hspell : Spell h h' fired deeds) {id : TimerId}
    (hid : id ∈ (gained h h').armed) : h.timers.ArmedOnWay h'.timers id := by
  obtain ⟨entries, hjournal, _, harmed⟩ := hspell.journal
  rw [gained, hjournal, List.drop_left] at hid
  exact harmed id hid

end Spell

/-! ### Deeds -/

/-- A deed that takes out the timers that it releases, and no other. -/
private lemma spell_of_deed {d : Deed L P} {armed : List TimerId} (hwell : h'.timers.WellFormed)
    (hretains : d.host.timers.Retains h'.timers)
    (hkept : ∀ id timer, d.host.timers.get? id = some timer → ¬ d.Releases id →
      h'.timers.get? id = some timer)
    (hgone : ∀ id, d.Releases id → h'.timers.get? id = none) (hlogs : Logs d.host h' armed)
    (harmed : ∀ id ∈ armed, d.host.timers.ArmedOnWay h'.timers id) : Spell d.host h' [] [d] := by
  obtain ⟨entries, hjournal, hfired, rfl⟩ := hlogs
  refine ⟨hwell, hretains, ?_, ?_, entries, hjournal, hfired, harmed⟩
  · exact fun id timer hget _ hdeeds => hkept id timer hget (hdeeds d (List.mem_singleton.mpr rfl))
  · intro d' hd' id hid
    obtain rfl := List.mem_singleton.mp hd'
    obtain ⟨timer, hget⟩ := hid.armed
    exact hretains.releases_lt hget (hgone id hid)

lemma Does.spell {s : Setting P} {d : Deed L P} (hdoes : Does s d h')
    (hwell : d.host.timers.WellFormed) : Spell d.host h' [] [d] := by
  cases hdoes with
  -- one case for each way a deed can treat the table
  | idle htimers hlogs hreleases =>
    refine spell_of_deed (htimers ▸ hwell) (htimers ▸ .refl _) (fun id timer hget _ => htimers ▸ hget)
      (fun id hid => absurd hid (hreleases id)) hlogs nofun
  | @arm _ _ _ new hadd hlogs hreleases =>
    have harmed := TimerTable.armed_add hwell hadd
    refine spell_of_deed harmed.wellFormed (TimerTable.retains_add hadd) (fun id timer hget _ => ?_)
      (fun id hid => absurd hid (hreleases id)) hlogs fun id hid => ?_
    -- the new timer's entry was vacant, so it is none of those already there
    · have hvacant := (TimerTable.vacant_of_add hwell hadd).get?_eq_none
      rw [harmed.get?, if_neg, hget]
      rintro rfl
      cases hvacant.symm.trans hget
    · obtain rfl := List.mem_singleton.mp hid
      exact TimerTable.armedOnWay_of_add hwell hadd
  | cancel id htimers hlogs hreleases =>
    have hget (id' : TimerId) := TimerTable.get?_cancel d.host.timers id id'
    rw [← htimers] at hget
    refine spell_of_deed (htimers ▸ (TimerTable.thinned_cancel hwell id).wellFormed)
      (htimers ▸ TimerTable.retains_cancel _ id) (fun id' timer hbefore hid => ?_)
      (fun id' hid => ?_) hlogs nofun
    · rw [hget, if_neg, hbefore]
      exact fun heq => hid ((hreleases id').mpr ⟨heq, timer, hbefore⟩)
    · rw [hget, if_pos ((hreleases id').mp hid).1]
  | drop owner htimers hlogs hreleases =>
    obtain ⟨hthinned, hget⟩ := TimerTable.cancelOwner_spec hwell owner
    rw [← htimers] at hget hthinned
    refine spell_of_deed hthinned.wellFormed (htimers ▸ TimerTable.retains_cancelOwner _ owner)
      (fun id timer hbefore hid => ?_) (fun id hid => ?_) hlogs nofun
    -- a timer that survives has another owner, otherwise the deed released it
    · have howner : timer.owner ≠ owner := fun heq => hid ((hreleases id).mpr ⟨timer, hbefore, heq⟩)
      rw [hget, hbefore]
      exact Option.filter_some_pos (by simpa using howner)
    · obtain ⟨timer, hbefore, howner⟩ := (hreleases id).mp hid
      rw [hget, hbefore]
      exact Option.filter_some_neg (by simpa using howner)

/-! ### Programs and calls -/

section Calls

variable [Link L]

/-- What the driver of a slot does in a program. -/
def programDeeds {α : Type} (s : Setting P) (slot : SlotId) :
    Program P α → Host L P → List (Deed L P)
  | .done _, _ => []
  | .step op next, h =>
    let (r, h') := h.perform s slot op
    ⟨h, slot, op⟩ :: programDeeds s slot (next r) h'

variable [Driver P]

/-- What the driver in a slot does when it is called, if there is one. -/
def callDeeds (h : Host L P) (s : Setting P) (slot : SlotId) (c : Callback) : List (Deed L P) :=
  match h.registry.takeDriver slot with
  | none => []
  | some (inst, _, registry) =>
    programDeeds s slot (inst.driver.respond c) ({ h with registry }.record (.called slot inst.serial c))

/-- What drivers do when their slots are initialised, each followed by the slots that it fills. -/
def initialiseDeeds (s : Setting P) : (limit : Nat) → List SlotId → Host L P → List (Deed L P)
  | _, [], _ => []
  | 0, _ :: _, _ => []
  | limit + 1, slot :: rest, h =>
    match h.call s slot .init with
    | none => initialiseDeeds s limit rest h
    | some (_, h', slots) => h.callDeeds s slot .init ++ initialiseDeeds s limit (slots ++ rest) h'

variable {s : Setting P} {slot : SlotId}

omit [Driver P] in
lemma run_spell {α : Type} (slot : SlotId) (p : Program P α) (hwell : h.timers.WellFormed) :
    Spell h (run s slot p h).2.1 [] (programDeeds s slot p h) := by
  induction p generalizing h with
  | done a => exact .refl hwell
  | step op next ih =>
    have hspell := (perform_does s h slot op).spell hwell
    exact hspell.trans (ih _ hspell.wellFormed)

lemma call_spell {c : Callback} {result : c.Result} {slots : List SlotId}
    (hwell : h.timers.WellFormed) (hcall : h.call s slot c = some (result, h', slots)) :
    Spell h h' [] (h.callDeeds s slot c) := by
  obtain ⟨inst, generation, registry, driver, h₁, htake, hrun, rfl⟩ := call_eq_some hcall
  have hduring := run_spell (s := s) slot (inst.driver.respond c)
    (h := { h with registry }.record (.called slot inst.serial c)) hwell
  rw [hrun] at hduring
  rw [callDeeds, htake]
  exact (hduring.after_eq hwell rfl ⟨[.called slot inst.serial c], rfl, rfl, rfl⟩).before_eq rfl
    (.of_eq rfl)

lemma initialise_spell {limit : Nat} {slots : List SlotId} (hwell : h.timers.WellFormed)
    (hinit : initialise s limit slots h = some h') :
    Spell h h' [] (initialiseDeeds s limit slots h) := by
  induction limit generalizing slots h with
  | zero =>
    cases slots with
    | nil =>
      cases hinit
      exact .refl hwell
    | cons slot rest => cases hinit
  | succ limit ih =>
    cases slots with
    | nil =>
      cases hinit
      exact .refl hwell
    | cons slot rest =>
      cases hcall : h.call s slot .init with
      | none =>
        simp only [initialise, hcall] at hinit
        simp only [initialiseDeeds, hcall]
        exact ih hwell hinit
      | some called =>
        simp only [initialise, hcall] at hinit
        simp only [initialiseDeeds, hcall]
        have hspell := call_spell hwell hcall
        exact hspell.trans (ih hspell.wellFormed hinit)

end Calls

/-! ### Timers that fire -/

/-- A timer fires and the waits that it guards end, before its owner is called. -/
lemma fire_spell {now : Nat} {id : TimerId} {expiry : Expiry} {timers : TimerTable}
    (hwell : h.timers.WellFormed) (hfire : h.timers.fire id now = some (expiry, timers)) :
    Spell h (h.rung timers id expiry.owner) [id] [] := by
  obtain ⟨_, _, _, _, hget⟩ := TimerTable.get?_fire hfire
  have hwell' := (TimerTable.thinned_fire hwell hfire).wellFormed
  have hfired : Spell h ({ h with timers }.record (.fired id expiry.owner)) [id] [] := by
    refine ⟨hwell', TimerTable.retains_fire hfire, fun id' timer hbefore hid _ => ?_,
      List.forall_mem_nil _, [.fired id expiry.owner], rfl, rfl, List.forall_mem_nil _⟩
    exact (hget id').trans ((if_neg (mt List.mem_singleton.mpr hid)).trans hbefore)
  exact hfired.before_eq (expireReplies_timers _ _ _) (expireReplies_minor _ _ _).logs

/-! ### Steps -/

lemma Step.wellFormed [Link L] [Driver P] {s : Setting P} (hstep : Step s h h')
    (hwell : h.timers.WellFormed) : h'.timers.WellFormed := by
  cases hstep with
  | call hcall => exact (call_spell hwell hcall).wellFormed
  | transmit | tell | subscribe => exact hwell
  | fire hfire => exact (fire_spell hwell hfire).wellFormed
  | arm slot i session timeout token =>
    -- a wait of any length begins as one does that a driver asks for
    exact ((perform_does { s with ackTimeout := timeout } h slot
      (.awaitReply i session token)).spell hwell).wellFormed
  | abandon slot i session =>
    rcases abandonReply_cases h slot i session with ⟨_, heq⟩ | ⟨r, hsettled, _⟩
    · rw [heq]
      exact hwell
    · rw [hsettled.timers]
      cases r.pendingTimer with
      | none => exact hwell
      | some timer => exact (TimerTable.thinned_cancel hwell timer).wellFormed

end BoardLink.Host
