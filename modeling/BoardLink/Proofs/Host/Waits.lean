import BoardLink.Proofs.Host.Calm
import BoardLink.Proofs.Host.Step

/-!
# Where waits begin and end

A wait begins when a resource is locked and its timer armed. It ends when the answer is told, when
the request fails, when the timer fires, or when another driver takes the slot.
-/

namespace BoardLink.Host

variable {L P : Type} {h h' : Host L P} {slot : SlotId} {i : Nat} {session : SessionId}

lemma resource?_of_getResource_error {e : RegistryError} (he : h.getResource slot i = .error e) :
    h.registry.resource? slot i = none := by
  simp only [getResource, Registry.getSlot, Registry.resource?] at he ⊢
  cases hs : h.registry.slot? slot with
  | none => rfl
  | some s =>
    rw [hs] at he
    cases hr : s.resource? i with
    | none => exact hr
    | some r => simp [bind, Except.bind, hr, pure, Except.pure] at he

lemma getResource_eq_ok {r : Resource} (hr : h.getResource slot i = .ok r) :
    h.registry.resource? slot i = some r := by
  obtain ⟨s, hs, hr⟩ := except_bind_eq_ok.mp hr
  split at hr
  · rename_i r' hr'
    cases hr
    exact Registry.resource?_eq_some.mpr ⟨s, Registry.slot?_of_getSlot hs, hr'⟩
  · cases hr

/-- The host after a wait began with a timer for it. -/
def awaiting (h : Host L P) (slot : SlotId) (i : Nat) (session : SessionId) (r : Resource)
    (timer : TimerId) (timers : TimerTable) : Host L P :=
  (({ h with timers }.setResource slot i
    { r with lock := some session, pendingTimer := some timer }).record (.armed timer slot)).record
      (.locked slot i session)

/-- A wait begins with a lock and a timer, or not at all. -/
lemma armReply_cases (h : Host L P) (slot : SlotId) (i : Nat) (session : SessionId)
    (timeout token now : Nat) :
    (∃ e, h.armReply slot i session timeout token now = (.error e, h)) ∨
      ∃ r timer timers, h.registry.resource? slot i = some r ∧ r.lock = none ∧
        h.timers.add .oneShot timeout slot token now = .ok (timer, timers) ∧
        h.armReply slot i session timeout token now =
          (.ok (), h.awaiting slot i session r timer timers) := by
  simp only [armReply]
  split
  · exact .inl ⟨_, rfl⟩
  · rename_i r hr
    split
    · exact .inl ⟨_, rfl⟩
    · rename_i r' hlock
      split
      · exact .inl ⟨_, rfl⟩
      · rename_i timer timers hadd
        -- the wait begins only after all three checks: resource, lock and room for the timer
        refine .inr ⟨r, timer, timers, getResource_eq_ok hr, ?_, hadd, ?_⟩
        · simp only [Resource.tryLock] at hlock
          split at hlock
          · cases hlock
          · assumption
        · simp only [Resource.tryLock] at hlock
          split at hlock
          · cases hlock
          · cases hlock
            rfl

/-- The wait for a resource, if there was one, is over. -/
structure Settled (h : Host L P) (slot : SlotId) (i : Nat) (r : Resource) (h' : Host L P) : Prop where
  resource : h.registry.resource? slot i = some r
  registry : h'.registry = h.registry.setResource slot i r.settle
  timers : h'.timers = (r.pendingTimer.map fun timer => (h.timers.cancel timer).2).getD h.timers
  transmitter : h'.transmitter = h.transmitter
  nextSerial : h'.nextSerial = h.nextSerial
  journal : h.journal.Continues h'.journal

/-- An answer ends the wait for a resource, and the session that waited, if any, is told. -/
lemma completeReply_cases (h : Host L P) (slot : SlotId) (i : Nat) (text : String) :
    (h.registry.resource? slot i = none ∧ h.completeReply slot i text = (none, h)) ∨
      ∃ r, Settled h slot i r (h.completeReply slot i text).2 ∧
        (h.completeReply slot i text).1 = r.lock ∧
        (h.completeReply slot i text).2.journal =
          h.journal ++ (r.lock.map fun session => .answered slot i session).toList ∧
        (h.completeReply slot i text).2.outbox =
          r.lock.elim h.outbox fun session => h.outbox.answer session text := by
  simp only [completeReply]
  split
  · rename_i e he
    exact .inl ⟨resource?_of_getResource_error he, rfl⟩
  · rename_i r hr
    refine .inr ⟨r, ⟨getResource_eq_ok hr, ?_, ?_, ?_, ?_, ?_⟩, ?_⟩
    all_goals
      cases r.pendingTimer <;> cases r.lock <;>
        first | rfl | exact .refl _ | exact ⟨_, rfl, fun _ => rfl⟩ |
          exact ⟨rfl, (List.append_nil _).symm, rfl⟩ | exact ⟨rfl, rfl, rfl⟩

/-- A failed request ends the wait of its session, and nobody is told. -/
lemma abandonReply_cases (h : Host L P) (slot : SlotId) (i : Nat) (session : SessionId) :
    ((h.registry.resource? slot i).bind Resource.lock ≠ some session ∧
        h.abandonReply slot i session = h) ∨
      ∃ r, Settled h slot i r (h.abandonReply slot i session) ∧ r.lock = some session ∧
        (h.abandonReply slot i session).journal = h.journal ++ [.abandoned slot i session] ∧
        (h.abandonReply slot i session).outbox = h.outbox := by
  simp only [abandonReply]
  split
  · rename_i hr
    exact .inl ⟨by simp [hr], rfl⟩
  · rename_i r hr
    split_ifs with hlock
    · refine .inr ⟨r, ⟨hr, ?_, ?_, ?_, ?_, ?_⟩, hlock, ?_⟩
      all_goals
        cases r.pendingTimer <;> first | rfl | exact ⟨_, rfl, fun _ => rfl⟩ | exact ⟨rfl, rfl⟩
    · exact .inl ⟨by simpa [hr] using hlock, rfl⟩

/-! ### Who is in the slots -/

variable {new : Instance P → Prop}

lemma armReply_staffs (h : Host L P) (slot : SlotId) (i : Nat) (session : SessionId)
    (timeout token now : Nat) :
    Staffs new h (h.armReply slot i session timeout token now).2 := by
  rcases armReply_cases h slot i session timeout token now with
      ⟨_, heq⟩ | ⟨r, timer, timers, _, _, _, heq⟩
  · rw [heq]
    exact .refl h
  · rw [heq]
    have hset : Staffs new h (h.setResource slot i
        { r with lock := some session, pendingTimer := some timer }) := .setResource ..
    exact ⟨hset.maxSlots, hset.hires, Nat.le_refl _, [.armed timer slot, .locked slot i session],
      List.append_assoc .., fun _ => rfl⟩

lemma Settled.staffs {r : Resource} (hsettled : Settled h slot i r h') : Staffs new h h' := by
  have hset : Staffs new h (h.setResource slot i r.settle) := .setResource ..
  refine ⟨?_, ?_, Nat.le_of_eq hsettled.nextSerial.symm, hsettled.journal⟩
  · rw [hsettled.registry]
    exact hset.maxSlots
  · rw [hsettled.registry]
    exact hset.hires

lemma abandonReply_staffs (h : Host L P) (slot : SlotId) (i : Nat) (session : SessionId) :
    Staffs new h (h.abandonReply slot i session) := by
  rcases abandonReply_cases h slot i session with ⟨_, heq⟩ | ⟨r, hsettled, _⟩
  · rw [heq]
    exact .refl h
  · exact hsettled.staffs

lemma expireReplies_staffs (h : Host L P) (owner : SlotId) (timer : TimerId) :
    Staffs new h (h.expireReplies owner timer) := by
  simp only [expireReplies]
  split
  · exact .refl h
  · rename_i s hs
    have hupdated := Registry.updated_setSlot hs (Registry.expired s timer)
    refine ⟨hupdated.maxSlots, hupdated.hires_of_driver hs rfl, Nat.le_refl _, _, rfl, ?_⟩
    intro serial
    rw [Journal.calls, List.filterMap_map]
    exact List.filterMap_eq_nil_iff.mpr fun _ _ => rfl

lemma dropTimers_staffs (h : Host L P) (slot : SlotId) : Staffs new h (h.dropTimers slot) := by
  simp only [dropTimers]
  split_ifs
  · exact .of_registry_eq rfl rfl (.refl _)
  · exact .refl h

lemma installDriver_staffs {factory : Factory P} {slot : SlotId} {name : String}
    {core : Option CoreId}
    (hnew : ∀ driver n, h.nextSerial ≤ n → factory.create name = some driver →
      new { serial := n, driver }) :
    Staffs new h (h.installDriver factory slot name core).2 :=
  (dropTimers_staffs h slot).trans (installDriver_calm hnew).1.toStaffs

/-- Drivers come into slots only by operations that bring them. -/
lemma perform_staffs [Link L] {setting : Setting P} {slot : SlotId} {op : Op P}
    (hnew : ∀ driver n, h.nextSerial ≤ n → op.Brings setting.factory driver →
      new { serial := n, driver }) :
    Staffs new h (h.perform setting slot op).2 := by
  cases hop : op.touchesWaits with
  | false => exact (perform_calm hop hnew).toStaffs
  | true =>
    cases op with
    | addTimer kind period token =>
      simp only [perform]
      split
      · exact .refl h
      · exact .of_registry_eq rfl rfl ⟨_, rfl, fun _ => rfl⟩
    | cancelTimer id => exact .of_registry_eq rfl rfl (.refl _)
    | addResource resource =>
      refine .of_onSlot fun s i s' hok => ?_
      obtain rfl := Slot.eq_of_addResource hok
      rfl
    | awaitReply resource session token => exact armReply_staffs h slot resource session _ token _
    | completeReply resource text =>
      rcases completeReply_cases h slot resource text with ⟨_, heq⟩ | ⟨r, hsettled, _⟩
      · simp only [perform, heq]
        exact .refl h
      · exact hsettled.staffs
    | installDriver target name core => exact installDriver_staffs hnew
    | registry command =>
      refine command_staffs fun id driver n hle hc => hnew driver n hle ?_
      rw [hc]
      rfl
    | _ => cases hop

/-! ### Releases only add up -/

lemma Settled.ages {r : Resource} (hsettled : Settled h slot i r h') : h.timers.Ages h'.timers := by
  rw [hsettled.timers]
  cases r.pendingTimer with
  | none => exact .refl _
  | some timer => exact TimerTable.ages_cancel _ timer

lemma dropTimers_ages (h : Host L P) (slot : SlotId) : h.timers.Ages (h.dropTimers slot).timers := by
  simp only [dropTimers]
  split_ifs
  · exact TimerTable.ages_cancelOwner _ slot
  · exact .refl _

lemma installDriver_ages (h : Host L P) (factory : Factory P) (slot : SlotId) (name : String)
    (core : Option CoreId) : h.timers.Ages (h.installDriver factory slot name core).2.timers := by
  have hcalm : Calm (fun _ => True) (h.dropTimers slot)
      (h.installDriver factory slot name core).2 :=
    (installDriver_calm fun _ _ _ _ => trivial).1
  rw [hcalm.timers]
  exact dropTimers_ages h slot

lemma armReply_ages (h : Host L P) (slot : SlotId) (i : Nat) (session : SessionId)
    (timeout token now : Nat) :
    h.timers.Ages (h.armReply slot i session timeout token now).2.timers := by
  rcases armReply_cases h slot i session timeout token now with
      ⟨_, heq⟩ | ⟨r, timer, timers, _, _, hadd, heq⟩
  · rw [heq]
    exact .refl _
  · rw [heq]
    exact TimerTable.ages_add hadd

lemma onSlot_timers {α : Type} (h : Host L P) (slot : SlotId)
    (f : Slot (Instance P) → Except RegistryError (α × Slot (Instance P))) :
    (h.onSlot slot f).2.timers = h.timers := by
  simp only [onSlot]
  split
  · rfl
  · split <;> rfl

lemma onSlot_journal {α : Type} (h : Host L P) (slot : SlotId)
    (f : Slot (Instance P) → Except RegistryError (α × Slot (Instance P))) :
    (h.onSlot slot f).2.journal = h.journal := by
  simp only [onSlot]
  split
  · rfl
  · split <;> rfl

lemma command_timers (h : Host L P) (c : Registry.Command (Occupant P)) :
    (h.command c).2.timers = h.timers := by
  simp only [command]
  split <;> rfl

variable [Link L] {setting : Setting P}

private lemma perform_ages (h : Host L P) (slot : SlotId) (op : Op P) :
    h.timers.Ages (h.perform setting slot op).2.timers := by
  cases hop : op.touchesWaits with
  | false =>
    have hcalm : Calm (fun _ => True) h (h.perform setting slot op).2 :=
      perform_calm hop fun _ _ _ _ => trivial
    rw [hcalm.timers]
    exact .refl _
  | true =>
    cases op with
    | addTimer kind period token =>
      simp only [perform]
      -- a full table keeps its age
      split
      · exact .refl _
      · exact TimerTable.ages_add ‹_›
    | cancelTimer id => exact TimerTable.ages_cancel h.timers id
    | addResource resource =>
      simp only [perform, onSlot_timers]
      exact .refl _
    | awaitReply resource session token => exact armReply_ages h slot resource session _ token _
    | completeReply resource text =>
      rcases completeReply_cases h slot resource text with ⟨_, heq⟩ | ⟨r, hsettled, _⟩
      · simp only [perform, heq]
        exact .refl _
      · exact hsettled.ages
    | installDriver target name core => exact installDriver_ages h _ target name core
    | registry command =>
      simp only [perform, command_timers]
      exact .refl _
    | _ => cases hop

lemma run_ages {α : Type} (slot : SlotId) (p : Program P α) (h : Host L P) :
    h.timers.Ages (run setting slot p h).2.1.timers :=
  run_rel (R := fun h h' => h.timers.Ages h'.timers) (fun _ => .refl _) .trans
    (fun h op => perform_ages h slot op) p h

variable [Driver P]

lemma call_ages {c : Callback} {result : c.Result} {slots : List SlotId}
    (hcall : h.call setting slot c = some (result, h', slots)) : h.timers.Ages h'.timers :=
  call_rel (R := fun h h' => h.timers.Ages h'.timers) hcall (fun _ => .refl _) .trans
    (fun _ _ => .refl _) (fun _ _ => .refl _) fun h op => perform_ages h slot op

lemma Step.ages (hstep : Step setting h h') : h.timers.Ages h'.timers := by
  cases hstep with
  | call hcall => exact call_ages hcall
  | transmit | tell => exact .refl _
  | fire hfire =>
    rw [expireReplies_timers]
    exact TimerTable.ages_fire hfire
  | arm slot i session timeout token => exact armReply_ages h slot i session timeout token _
  | abandon slot i session =>
    rcases abandonReply_cases h slot i session with ⟨_, heq⟩ | ⟨r, hsettled, _⟩
    · rw [heq]
      exact .refl _
    · exact hsettled.ages
  | subscribe broadcast hr => exact .refl _

lemma Steps.ages (hsteps : Steps setting h h') : h.timers.Ages h'.timers := by
  induction hsteps with
  | refl => exact .refl _
  | tail _ hstep ih => exact ih.trans hstep.ages

/-! ### The journal only grows -/

omit [Driver P] in
private lemma perform_journal (h : Host L P) (slot : SlotId) (op : Op P) :
    h.journal <+: (h.perform setting slot op).2.journal := by
  have hstaffs : Staffs (fun _ => True) h (h.perform setting slot op).2 :=
    perform_staffs fun _ _ _ _ => trivial
  exact hstaffs.journal.isPrefix

private lemma call_journal {c : Callback} {result : c.Result} {slots : List SlotId}
    (hcall : h.call setting slot c = some (result, h', slots)) : h.journal <+: h'.journal :=
  call_rel (R := fun h h' => h.journal <+: h'.journal) hcall (fun _ => List.prefix_refl _)
    List.IsPrefix.trans (fun _ _ => List.prefix_refl _) (fun _ _ => List.prefix_append _ _)
    fun h op => perform_journal h slot op

lemma Step.journal (hstep : Step setting h h') : h.journal <+: h'.journal := by
  cases hstep with
  | call hcall => exact call_journal hcall
  | transmit | tell => exact List.prefix_refl _
  | @fire timer expiry timers hfire =>
    have hstaffs : Staffs (fun _ => True) _ (expireReplies _ expiry.owner timer) :=
      expireReplies_staffs ({ h with timers }.record (.fired timer expiry.owner)) _ _
    exact (List.prefix_append _ _).trans hstaffs.journal.isPrefix
  | arm slot i session timeout token =>
    have hstaffs : Staffs (fun _ => True) h
        (h.armReply slot i session timeout token setting.now).2 := armReply_staffs ..
    exact hstaffs.journal.isPrefix
  | abandon slot i session =>
    rcases abandonReply_cases h slot i session with ⟨_, heq⟩ | ⟨r, hsettled, _⟩
    · exact heq.symm ▸ List.prefix_refl _
    · exact hsettled.journal.isPrefix
  | subscribe broadcast hr => exact List.prefix_refl _

lemma Steps.journal (hsteps : Steps setting h h') : h.journal <+: h'.journal := by
  induction hsteps with
  | refl => exact List.prefix_refl _
  | tail _ hstep ih => exact ih.trans hstep.journal

end BoardLink.Host
