import Mathlib.Data.List.Induction
import BoardLink.Proofs.Host.Idle
import BoardLink.Proofs.Host.Run
import BoardLink.Proofs.Host.Spells

/-!
# Drivers that answer a request

While a driver answers a request of a session for a resource, the resource waits for nothing or for
that session with a timer that was armed for it meanwhile. This holds as long as the driver begins
no other wait, takes no lock directly and does not pull the lock from under the timer. All other
timers are those from before that the driver did not release and those that it armed by itself.
-/

namespace BoardLink

namespace Deed

variable {L P : Type}

/-- Does the driver lock nothing but this resource of its slot, for this session alone and only by
waiting for an answer, while it loads no driver and puts no fresh instance into the slot? -/
def locksOnly (d : Deed L P) (slot : SlotId) (i : Nat) (session : SessionId) : Bool :=
  match d.op with
  | .awaitReply j session' _ => j == i && session' == session
  | .installDriver .. => false
  | .registry (.lock ..) => false
  | .registry (.install slot' _) => slot' != slot
  | .registry (.allocate name) => (d.host.registry.allocate name).toOption.all (·.1 != slot)
  | _ => true

/-- Does the driver give up the lock of the resource directly, so that the timer beside it stays? -/
def strands (d : Deed L P) (slot : SlotId) (i : Nat) : Bool :=
  match d.op with
  | .registry (.unlock slot' i') =>
    slot' == slot && i' == i && (d.host.registry.wait slot i).2.isSome
  | _ => false

/-- Is it permitted to a driver that answers a request of a session for a resource of its slot? -/
structure Permitted (d : Deed L P) (slot : SlotId) (i : Nat) (session : SessionId) : Prop where
  locksOnly : d.locksOnly slot i session
  not_strands : d.strands slot i = false

/-- Does the driver arm the timer by itself? -/
def Adds (s : Host.Setting P) (d : Deed L P) (id : TimerId) (timer : Timer) : Prop :=
  ∃ kind period token timers, d.op = .addTimer kind period token ∧
    d.host.timers.add kind period d.slot token s.now = .ok (id, timers) ∧
    timer = { kind, deadline := s.now + period, period, owner := d.slot, token }

end Deed

namespace Host

variable {L P : Type} {s : Setting P} {d : Deed L P} {deeds : List (Deed L P)} {h h₁ h₂ : Host L P}
  {id : TimerId} {timer : Timer} {slot : SlotId} {i : Nat} {session : SessionId}

/-! ### Timers from before and timers that were added -/

/-- Was the timer armed before these deeds, and did none of them release it? -/
def Keeps (h : Host L P) (deeds : List (Deed L P)) (id : TimerId) (timer : Timer) : Prop :=
  h.timers.get? id = some timer ∧ ∀ d ∈ deeds, ¬ d.Releases id

/-- Did a driver arm the timer by one of these deeds, and did none since release it? -/
def Added (s : Setting P) (deeds : List (Deed L P)) (id : TimerId) (timer : Timer) : Prop :=
  ∃ before d since, deeds = before ++ d :: since ∧ d.Adds s id timer ∧
    ∀ d' ∈ since, ¬ d'.Releases id

lemma keeps_append :
    h.Keeps (deeds ++ [d]) id timer ↔ h.Keeps deeds id timer ∧ ¬ d.Releases id := by
  simp [Keeps, or_imp, forall_and, and_assoc]

lemma not_added_nil : ¬ Added s ([] : List (Deed L P)) id timer := by
  rintro ⟨before, d, since, hnil, _⟩
  simp at hnil

/-- The last deed adds the timer, or it leaves one that was added before. -/
lemma added_append : Added s (deeds ++ [d]) id timer ↔
    d.Adds s id timer ∨ Added s deeds id timer ∧ ¬ d.Releases id := by
  constructor
  · rintro ⟨before, d', since, heq, hadds, hsince⟩
    induction since using List.reverseRecOn with
    | nil =>
      obtain ⟨_, hd⟩ := List.append_inj' heq rfl
      cases hd
      exact .inl hadds
    | append_singleton since last _ =>
      rw [← List.cons_append, ← List.append_assoc] at heq
      obtain ⟨rfl, hlast⟩ := List.append_inj' heq rfl
      cases hlast
      obtain ⟨hsince, hd⟩ := List.forall_mem_append.mp hsince
      exact .inr ⟨⟨before, d', since, rfl, hadds, hsince⟩, hd d (List.mem_singleton_self d)⟩
  · rintro (hadds | ⟨⟨before, d', since, rfl, hadds, hsince⟩, hd⟩)
    · exact ⟨deeds, d, [], rfl, hadds, List.forall_mem_nil _⟩
    · refine ⟨before, d', since ++ [d], by simp, hadds, List.forall_mem_append.mpr ⟨hsince, ?_⟩⟩
      intro d'' hd''
      rwa [List.mem_singleton.mp hd'']

/-- A deed that releases nothing leaves all timers from before. -/
private lemma keeps_append_iff (hreleases : ∀ id, ¬ d.Releases id) :
    h.Keeps (deeds ++ [d]) id timer ↔ h.Keeps deeds id timer :=
  keeps_append.trans (and_iff_left (hreleases id))

/-- If it adds nothing either, the timers that were added are the same. -/
private lemma added_append_iff (hreleases : ∀ id, ¬ d.Releases id)
    (hadds : ∀ id timer, ¬ d.Adds s id timer) :
    Added s (deeds ++ [d]) id timer ↔ Added s deeds id timer :=
  added_append.trans ((or_iff_right (hadds id timer)).trans (and_iff_left (hreleases id)))

/-! ### What a permitted deed comes to -/

/-- What a permitted deed comes to for the timers and for the wait for one resource. -/
inductive Answers (s : Setting P) (slot : SlotId) (i : Nat) (session : SessionId) (d : Deed L P)
    (h' : Host L P) : Prop
  | idle (htimers : h'.timers = d.host.timers)
      (hwait : h'.registry.wait slot i = d.host.registry.wait slot i ∨
        (d.host.registry.wait slot i).2 = none ∧ h'.registry.wait slot i = (none, none))
      (hreleases : ∀ id, ¬ d.Releases id) (hadds : ∀ id timer, ¬ d.Adds s id timer)
  | add {kind : Timer.Kind} {period token : Nat} {new : TimerId}
      (hadd : d.host.timers.add kind period d.slot token s.now = .ok (new, h'.timers))
      (hwait : h'.registry.wait slot i = d.host.registry.wait slot i)
      (hreleases : ∀ id, ¬ d.Releases id)
      (hadds : ∀ id timer, d.Adds s id timer ↔
        id = new ∧ timer = { kind, deadline := s.now + period, period, owner := d.slot, token })
  | await {kind : Timer.Kind} {period token : Nat} {new : TimerId}
      (hadd : d.host.timers.add kind period d.slot token s.now = .ok (new, h'.timers))
      (hfree : (d.host.registry.wait slot i).1 = none)
      (hwait : h'.registry.wait slot i = (some session, some new))
      (hreleases : ∀ id, ¬ d.Releases id) (hadds : ∀ id timer, ¬ d.Adds s id timer)
  | cancel {old : TimerId} (htimers : h'.timers = (d.host.timers.cancel old).2)
      (hwait : h'.registry.wait slot i = d.host.registry.wait slot i ∨
        (d.host.registry.wait slot i).2 = some old ∧ h'.registry.wait slot i = (none, none))
      (hreleases : ∀ id, d.Releases id ↔ id = old ∧ ∃ timer, d.host.timers.get? id = some timer)
      (hadds : ∀ id timer, ¬ d.Adds s id timer)

private lemma not_adds {op : Op P} (hop : ∀ kind period token, op ≠ .addTimer kind period token)
    (id : TimerId) (timer : Timer) : ¬ (⟨h, slot, op⟩ : Deed L P).Adds s id timer := by
  rintro ⟨kind, period, token, _, heq, _⟩
  exact hop kind period token heq

lemma waits_iff {r : Registry (Instance P)} : r.Waits slot i id ↔ (r.wait slot i).2 = some id := by
  simp [Registry.Waits, Registry.wait, Option.bind_eq_some_iff]

/-- A permitted command that fills a slot fills another one. -/
private lemma install_of_permitted {c : Registry.Command (Occupant P)} {slot' : SlotId}
    {answer : Registry.Answer} {r : Registry (Instance P)}
    (hpermitted : (⟨h, slot', .registry c⟩ : Deed L P).Permitted slot i session)
    (hperform : h.registry.perform (c.map fun driver => { serial := h.nextSerial, driver }) =
      .ok (answer, r))
    (hfills : c.fills) : ∃ id name, slot ≠ id ∧ h.registry.install id name = .ok r := by
  cases c with
  | allocate name =>
    obtain ⟨⟨id, r'⟩, halloc, heq⟩ := except_map_eq_ok.mp hperform
    cases heq
    refine ⟨id, name, ?_, Registry.install_of_allocate halloc⟩
    have hlocks := hpermitted.locksOnly
    simp only [Deed.locksOnly, halloc, Except.toOption, Option.all_some, bne_iff_ne] at hlocks
    exact hlocks.symm
  | install id name =>
    obtain ⟨r', hinstall, heq⟩ := except_map_eq_ok.mp hperform
    cases heq
    exact ⟨id, name, Ne.symm (bne_iff_ne.mp hpermitted.locksOnly), hinstall⟩
  | _ => cases hfills

/-! ### The resource stays -/

/-- No resource of the slot is gone. -/
def Stocks (slot : SlotId) (r r' : Registry (Instance P)) : Prop :=
  ∀ i, (r.resource? slot i).isSome → (r'.resource? slot i).isSome

namespace Stocks

variable {r r' r'' : Registry (Instance P)} {slot' : SlotId} {t t' : Slot (Instance P)}

lemma refl (slot : SlotId) (r : Registry (Instance P)) : Stocks slot r r := fun _ => id

lemma trans (h : Stocks slot r r') (h' : Stocks slot r' r'') : Stocks slot r r'' :=
  fun i hi => h' i (h i hi)

lemma of_unchanged (h : r.Unchanged r') : Stocks slot r r' := by
  intro i hi
  rwa [Registry.resource?, h.slot?]

lemma of_updated (h : r.Updated slot' t' r') (ht : r.slot? slot' = some t)
    (hlength : t.resources.length ≤ t'.resources.length) : Stocks slot r r' := by
  intro i hi
  rw [Registry.resource?, h.slot?]
  split_ifs with hslot
  · rw [Registry.resource?, hslot, ht, Option.bind_some, Slot.resource?, isSome_getElem?] at hi
    rw [Option.bind_some, Slot.resource?, isSome_getElem?]
    exact Nat.lt_of_lt_of_le hi hlength
  · exact hi

lemma of_setResource (r : Registry (Instance P)) (j : Nat) (res : Resource) :
    Stocks slot r (r.setResource slot' j res) := by
  cases ht : r.slot? slot' with
  | none =>
    simp only [Registry.setResource, ht]
    exact refl slot r
  | some t =>
    refine of_updated (Registry.updated_setResource ht j res) ht (Nat.le_of_eq ?_)
    simp [Slot.setResource]

lemma of_onSlot {α : Type} {f : Slot (Instance P) → Except RegistryError (α × Slot (Instance P))}
    (hf : ∀ t a t', f t = .ok (a, t') → t.resources.length ≤ t'.resources.length) :
    Stocks slot h.registry (h.onSlot slot' f).2.registry := by
  simp only [onSlot]
  split
  · exact refl _ _
  · rename_i t ht
    have ht := Registry.slot?_of_getSlot ht
    split
    · exact refl _ _
    · rename_i a t' hok
      exact of_updated (Registry.updated_setSlot ht t') ht (hf t a t' hok)

lemma of_install {id : SlotId} {name : String} (hinstall : r.install id name = .ok r')
    (hne : slot ≠ id) : Stocks slot r r' := by
  intro i hi
  rwa [Registry.resource?, (Registry.updated_install hinstall).slot?, if_neg hne]

/-- A command that fills no slot. -/
lemma of_perform {c : Registry.Command (Instance P)} {a : Registry.Answer}
    (hperform : r.perform c = .ok (a, r')) (hfills : c.fills = false) : Stocks slot r r' := by
  rcases Registry.perform_cases hperform with
      ⟨hfilled, _⟩ | hunchanged | ⟨id, t, t', ht, hedit, hupdated⟩
  · cases hfills.symm.trans hfilled
  · exact of_unchanged hunchanged
  · refine of_updated hupdated ht ?_
    cases hedit <;> simp [Slot.setResource]

end Stocks

/-- No permitted deed removes resources of the slot. -/
lemma perform_stocks [Link L] {op : Op P}
    (hpermitted : (⟨h, slot, op⟩ : Deed L P).Permitted slot i session) :
    Stocks slot h.registry (h.perform s slot op).2.registry := by
  cases op with
  | setIdentity name description =>
    refine Stocks.of_onSlot fun t a t' hok => ?_
    cases hok
    exact Nat.le_refl _
  | addResource resource =>
    refine Stocks.of_onSlot fun t a t' hok => ?_
    obtain rfl := Slot.eq_of_addResource hok
    simp
  | bindCore core =>
    simp only [perform]
    split
    · exact .refl _ _
    · rename_i r hbind
      rcases Registry.bindCore_cases hbind with rfl | ⟨t, ht, hupdated⟩
      · exact .refl _ _
      · exact .of_updated hupdated ht (Nat.le_refl _)
  | send packet =>
    simp only [perform, send]
    split
    · exact .refl _ _
    · exact .refl _ _
  | addTimer kind period token =>
    simp only [perform]
    split
    · exact .refl _ _
    · exact .refl _ _
  | awaitReply j session' token =>
    rcases armReply_cases h slot j session' s.ackTimeout token s.now with
        ⟨_, heq⟩ | ⟨r, new, timers, _, _, _, heq⟩
    · simp only [perform, heq]
      exact .refl _ _
    · simp only [perform, heq]
      exact .of_setResource _ _ _
  | completeReply j text =>
    rcases completeReply_cases h slot j text with ⟨_, heq⟩ | ⟨r, hsettled, _⟩
    · simp only [perform, heq]
      exact .refl _ _
    · simp only [perform, hsettled.registry]
      exact .of_setResource _ _ _
  | broadcast j text =>
    simp only [perform, broadcast]
    split
    · exact .refl _ _
    · split
      · exact .refl _ _
      · split_ifs
        · exact .of_setResource _ _ _
        · exact .refl _ _
  -- loading a driver is not permitted while the request is answered
  | installDriver => cases hpermitted.locksOnly
  | registry c =>
    simp only [perform, command]
    split
    · exact .refl _ _
    · rename_i answer r hperform
      cases hfills : c.fills with
      | true =>
        -- a fresh instance has no resources, but it is put into another slot than the one watched
        obtain ⟨id, name, hne, hinstall⟩ := install_of_permitted hpermitted hperform hfills
        exact .of_install hinstall hne
      | false =>
        refine .of_perform hperform ?_
        cases c with
        | allocate | install => cases hfills
        | _ => rfl
  | _ => exact .refl _ _

lemma run_stocks [Link L] {α : Type} (p : Program P α) (h₁ : Host L P)
    (hpermitted : ∀ d ∈ programDeeds s slot p h₁, d.Permitted slot i session) :
    Stocks slot h₁.registry (Host.run s slot p h₁).2.1.registry := by
  induction p generalizing h₁ with
  | done a => exact .refl _ _
  | step op next ih =>
    obtain ⟨hop, hnext⟩ := List.forall_mem_cons.mp hpermitted
    exact (perform_stocks hop).trans (ih _ _ hnext)

/-! ### What a permitted deed does to timers and the wait -/

/-- A permitted command is nothing to a wait with a timer. -/
private lemma command_wait {c : Registry.Command (Occupant P)} {slot' : SlotId}
    (hpermitted : (⟨h, slot', .registry c⟩ : Deed L P).Permitted slot i session)
    (hsome : (h.registry.resource? slot i).isSome) :
    (h.command c).2.registry.wait slot i = h.registry.wait slot i ∨
      (h.registry.wait slot i).2 = none ∧
        (h.command c).2.registry.wait slot i = (none, none) := by
  simp only [command]
  split
  · exact .inl rfl
  · rename_i answer r hperform
    cases hfills : c.fills with
    | true =>
      obtain ⟨id, name, hne, hinstall⟩ := install_of_permitted hpermitted hperform hfills
      exact .inl ((Registry.wait_install hinstall slot i).trans (if_neg hne))
    | false =>
      cases c with
      | allocate | install => cases hfills
      | lock => cases hpermitted.locksOnly
      | addResource id res =>
        obtain ⟨t, ht, hperform⟩ := except_bind_eq_ok.mp hperform
        obtain ⟨⟨j, t'⟩, hadd, hperform⟩ := except_bind_eq_ok.mp hperform
        cases hperform
        obtain rfl := Slot.eq_of_addResource hadd
        have ht := Registry.slot?_of_getSlot ht
        exact .inl ((Registry.updated_setSlot ht _).wait_of_added ht hsome)
      | unlock id j =>
        rw [show r.wait slot i = _ from Registry.wait_unlock hperform slot i]
        split_ifs with hwait
        -- an `unlock` of the watched resource is permitted only when no timer is pending for it
        · obtain ⟨rfl, rfl⟩ := hwait
          have hnone : (h.registry.wait slot i).2 = none := by
            simpa [Deed.strands] using hpermitted.not_strands
          exact .inr ⟨hnone, Prod.ext rfl hnone⟩
        · exact .inl rfl
      | _ => exact .inl (by rw [Registry.wait_perform hperform rfl rfl])

/-- An operation that touches neither timers nor waits. -/
private lemma answers_of_calm [Link L] {op : Op P} (hop : op.touchesWaits = false)
    (hposts : op.posts = false) :
    Answers s slot i session ⟨h, slot, op⟩ (h.perform s slot op).2 := by
  have hcalm : Calm (fun _ => True) h (h.perform s slot op).2 :=
    perform_calm hop fun _ _ _ _ => trivial
  refine .idle hcalm.timers (.inl (by rw [(perform_idle hposts).wait])) (not_releases ?_)
    (not_adds ?_)
  · cases op with
    | cancelTimer | completeReply | installDriver => cases hop
    | _ => rfl
  · rintro kind period token rfl
    cases hop

/-- An answer ends the wait for its resource and cancels the timer of that wait. -/
private lemma answers_completeReply (j : Nat) (text : String) :
    Answers s slot i session ⟨h, slot, .completeReply j text⟩ (h.completeReply slot j text).2 := by
  have hadds (id : TimerId) (timer : Timer) :
      ¬ (⟨h, slot, .completeReply j text⟩ : Deed L P).Adds s id timer := by
    refine not_adds ?_ id timer
    exact nofun
  rcases completeReply_cases h slot j text with ⟨hnone, heq⟩ | ⟨r, hsettled, _⟩
  · rw [heq]
    refine .idle rfl (.inl rfl) (fun id hid => ?_) hadds
    obtain ⟨⟨res, hres, _⟩, _⟩ := releases_completeReply.mp hid
    cases hres.symm.trans hnone
  · have hbefore := Registry.wait_of_resource? hsettled.resource
    have hwait : (h.completeReply slot j text).2.registry.wait slot i =
        if i = j then (none, none) else h.registry.wait slot i := by
      rw [hsettled.registry, Registry.wait_setResource hsettled.resource]
      simp [Resource.settle]
    have htimers := hsettled.timers
    -- with no timer pending the operation is idle for the timers; otherwise it cancels exactly that one
    cases hpending : r.pendingTimer with
    | none =>
      rw [hpending] at htimers hbefore
      refine .idle htimers ?_ (fun id hid => ?_) hadds
      · by_cases hi : i = j
        · rw [hwait, if_pos hi, hi, hbefore]
          exact .inr ⟨rfl, rfl⟩
        · rw [hwait, if_neg hi]
          exact .inl rfl
      · obtain ⟨hwaits, _⟩ := releases_completeReply.mp hid
        rw [waits_iff, hbefore] at hwaits
        cases hwaits
    | some old =>
      rw [hpending] at htimers hbefore
      refine .cancel htimers ?_ (fun id => releases_completeReply.trans (and_congr_left' ?_)) hadds
      · by_cases hi : i = j
        · rw [hwait, if_pos hi, hi, hbefore]
          exact .inr ⟨rfl, rfl⟩
        · rw [hwait, if_neg hi]
          exact .inl rfl
      · rw [waits_iff, hbefore]
        exact ⟨fun heq => (Option.some.inj heq).symm, fun heq => heq ▸ rfl⟩

/-- What every permitted deed comes to. -/
lemma answers_of_permitted [Link L] {op : Op P}
    (hpermitted : (⟨h, slot, op⟩ : Deed L P).Permitted slot i session)
    (hsome : (h.registry.resource? slot i).isSome) :
    Answers s slot i session ⟨h, slot, op⟩ (h.perform s slot op).2 := by
  cases op with
  | addResource res =>
    refine .idle (onSlot_timers ..) (.inl ?_) (not_releases rfl) (not_adds (by simp))
    simp only [perform, onSlot]
    split
    · rfl
    · rename_i t ht
      have ht := Registry.slot?_of_getSlot ht
      split
      · rfl
      · rename_i j t' hadd
        obtain rfl := Slot.eq_of_addResource hadd
        exact (Registry.updated_setSlot ht _).wait_of_added ht hsome
  | addTimer kind period token =>
    simp only [perform]
    split
    · rename_i hadd
      refine .idle rfl (.inl rfl) (not_releases rfl) ?_
      rintro id timer ⟨kind', period', token', timers, heq, hadd', _⟩
      cases heq
      cases hadd.symm.trans hadd'
    · rename_i new timers hadd
      refine .add hadd rfl (not_releases rfl) fun id timer => ?_
      constructor
      · rintro ⟨kind', period', token', timers', heq, hadd', rfl⟩
        cases heq
        cases hadd.symm.trans hadd'
        exact ⟨rfl, rfl⟩
      · rintro ⟨rfl, rfl⟩
        exact ⟨kind, period, token, timers, rfl, hadd, rfl⟩
  | cancelTimer old =>
    exact .cancel rfl (.inl rfl) (fun _ => releases_cancelTimer) (not_adds (by simp))
  | awaitReply j session' token =>
    -- a permitted `awaitReply` is for the very resource and session of the request
    obtain ⟨rfl, rfl⟩ : j = i ∧ session' = session := by
      simpa [Deed.locksOnly] using hpermitted.locksOnly
    rcases armReply_cases h slot j session' s.ackTimeout token s.now with
        ⟨_, heq⟩ | ⟨r, new, timers, hr, hlock, hadd, heq⟩
    · simp only [perform, heq]
      exact .idle rfl (.inl rfl) (not_releases rfl) (not_adds (by simp))
    · simp only [perform, heq]
      refine .await hadd ?_ ?_ (not_releases rfl) (not_adds (by simp))
      · rw [Registry.wait_of_resource? hr]
        exact hlock
      · exact (Registry.wait_setResource hr _ slot j).trans (if_pos ⟨rfl, rfl⟩)
  | completeReply j text => exact answers_completeReply j text
  | installDriver => cases hpermitted.locksOnly
  | registry c =>
    exact .idle (command_timers h c) (command_wait hpermitted hsome) (not_releases rfl)
      (not_adds (by simp))
  | _ => exact answers_of_calm rfl rfl

/-! ### The wait for the resource -/

/-- What holds of a host while a driver answers the request: nobody waits for the resource, or the
session does with a timer that was armed for it meanwhile, and each other timer is from before or
was added by the driver. -/
structure Booked (s : Setting P) (slot : SlotId) (i : Nat) (session : SessionId) (h : Host L P)
    (deeds : List (Deed L P)) (h' : Host L P) : Prop where
  spell : Spell h h' [] deeds
  wait : h'.registry.wait slot i = (none, none) ∨
    ∃ id, h'.registry.wait slot i = (some session, some id)
  began : ∀ id, (h'.registry.wait slot i).2 = some id →
    ∃ t timer, h.timers.Retains t ∧ t.get? id = some timer ∧ t.Retains h'.timers
  apart : ∀ id timer, (h'.registry.wait slot i).2 = some id → ¬ h.Keeps deeds id timer
  armed : ∀ id timer, h'.timers.get? id = some timer →
    h.Keeps deeds id timer ∨ Added s deeds id timer ∨ (h'.registry.wait slot i).2 = some id
  /-- The identifier of a timer is given out again only after its generation came back. -/
  added : ∀ id timer, Added s deeds id timer → h.timers.UnwrappedSince h'.timers id.entry →
    h'.timers.get? id = some timer ∧ (h'.registry.wait slot i).2 ≠ some id

lemma booked_nil (hspell : Spell h h₁ [] []) (htimers : h₁.timers = h.timers)
    (hwait : h₁.registry.wait slot i = (none, none)) : Booked s slot i session h [] h₁ := by
  have hnone (id : TimerId) : (h₁.registry.wait slot i).2 ≠ some id := by
    rw [hwait]
    exact nofun
  exact
    { spell := hspell
      wait := .inl hwait
      began := fun id hid => absurd hid (hnone id)
      apart := fun id _ hid => absurd hid (hnone id)
      armed := fun id timer hget => .inl ⟨htimers ▸ hget, List.forall_mem_nil _⟩
      added := fun _ _ hadded => absurd hadded not_added_nil }

namespace Booked

variable {h' : Host L P}

/-- No timer and no wait changes. -/
private lemma idle (hb : Booked s slot i session h deeds d.host)
    (hspell : Spell h h' [] (deeds ++ [d]))
    (htimers : h'.timers = d.host.timers)
    (hwait : h'.registry.wait slot i = d.host.registry.wait slot i ∨
      (d.host.registry.wait slot i).2 = none ∧ h'.registry.wait slot i = (none, none))
    (hreleases : ∀ id, ¬ d.Releases id) (hadds : ∀ id timer, ¬ d.Adds s id timer) :
    Booked s slot i session h (deeds ++ [d]) h' := by
  -- the pending timer is the same on both sides: either the wait stood still or it had none
  have hsame : (h'.registry.wait slot i).2 = (d.host.registry.wait slot i).2 := by
    rcases hwait with heq | ⟨hnone, heq⟩
    · rw [heq]
    · rw [heq, hnone]
  refine ⟨hspell, ?_, ?_, ?_, ?_, ?_⟩
  · rcases hwait with heq | ⟨_, heq⟩
    · exact heq ▸ hb.wait
    · exact .inl heq
  · exact fun id hid => htimers ▸ hb.began id (hsame ▸ hid)
  · exact fun id timer hid => (keeps_append_iff hreleases).not.mpr (hb.apart id timer (hsame ▸ hid))
  · intro id timer hget
    rw [keeps_append_iff hreleases, added_append_iff hreleases hadds, hsame]
    exact hb.armed id timer (htimers ▸ hget)
  · intro id timer hmem hwrap
    rw [htimers] at hwrap ⊢
    rw [hsame]
    exact hb.added id timer ((added_append_iff hreleases hadds).mp hmem) hwrap

/-- The driver arms a timer by itself. -/
private lemma add {kind : Timer.Kind} {period token : Nat} {new : TimerId}
    (hb : Booked s slot i session h deeds d.host) (hspell : Spell h h' [] (deeds ++ [d]))
    (hadd : d.host.timers.add kind period d.slot token s.now = .ok (new, h'.timers))
    (hwait : h'.registry.wait slot i = d.host.registry.wait slot i)
    (hreleases : ∀ id, ¬ d.Releases id)
    (hadds : ∀ id timer, d.Adds s id timer ↔
      id = new ∧ timer = { kind, deadline := s.now + period, period, owner := d.slot, token }) :
    Booked s slot i session h (deeds ++ [d]) h' := by
  have hwell := hb.spell.wellFormed
  have hretains := TimerTable.retains_add hadd
  have hget (id : TimerId) := (TimerTable.armed_add hwell hadd).get? id
  have hvacant := (TimerTable.vacant_of_add hwell hadd).get?_eq_none
  refine ⟨hspell, hwait ▸ hb.wait, ?_, ?_, ?_, ?_⟩
  · intro id hid
    obtain ⟨t, timer, hbefore, hearlier, hafter⟩ := hb.began id (hwait ▸ hid)
    exact ⟨t, timer, hbefore, hearlier, hafter.trans hretains⟩
  · exact fun id timer hid => (keeps_append_iff hreleases).not.mpr (hb.apart id timer (hwait ▸ hid))
  · intro id timer hid
    rw [keeps_append_iff hreleases, added_append, hwait]
    rw [hget] at hid
    split_ifs at hid with hnew
    · exact .inr (.inl (.inl ((hadds id timer).mpr ⟨hnew, (Option.some.inj hid).symm⟩)))
    · rcases hb.armed id timer hid with hkept | hadded | hpending
      · exact .inl hkept
      · exact .inr (.inl (.inr ⟨hadded, hreleases id⟩))
      · exact .inr (.inr hpending)
  · intro id timer hadded hwrap
    rw [hget, hwait]
    rcases added_append.mp hadded with hnew | ⟨hadded, _⟩
    · obtain ⟨rfl, rfl⟩ := (hadds id timer).mp hnew
      refine ⟨if_pos rfl, fun hpending => ?_⟩
      -- the timer of the wait was armed under this identifier before
      obtain ⟨t, timer, hbefore, hearlier, hafter⟩ := hb.began id hpending
      have hway := (TimerTable.armedOnWay_of_add hwell hadd).after hafter
      cases hearlier.symm.trans (hway.get?_eq_none (hwrap.after hbefore))
    · obtain ⟨hold, hpending⟩ := hb.added id timer hadded (hwrap.before hretains)
      refine ⟨?_, hpending⟩
      rw [if_neg, hold]
      rintro rfl
      cases hvacant.symm.trans hold

/-- The session begins to wait for the resource. -/
private lemma await {kind : Timer.Kind} {period token : Nat} {new : TimerId}
    (hb : Booked s slot i session h deeds d.host) (hspell : Spell h h' [] (deeds ++ [d]))
    (hadd : d.host.timers.add kind period d.slot token s.now = .ok (new, h'.timers))
    (hfree : (d.host.registry.wait slot i).1 = none)
    (hwait : h'.registry.wait slot i = (some session, some new))
    (hreleases : ∀ id, ¬ d.Releases id) (hadds : ∀ id timer, ¬ d.Adds s id timer) :
    Booked s slot i session h (deeds ++ [d]) h' := by
  have hwell := hb.spell.wellFormed
  have hget (id : TimerId) := (TimerTable.armed_add hwell hadd).get? id
  have hvacant := (TimerTable.vacant_of_add hwell hadd).get?_eq_none
  have hpending (id : TimerId) : (h'.registry.wait slot i).2 = some id ↔ id = new := by
    rw [hwait]
    exact ⟨fun heq => (Option.some.inj heq).symm, fun heq => heq ▸ rfl⟩
  -- the wait was free before, so none of the timers armed so far is the pending one
  have hnone : (d.host.registry.wait slot i).2 = none := by
    rcases hb.wait with heq | ⟨id, heq⟩
    · rw [heq]
    · rw [heq] at hfree
      cases hfree
  refine ⟨hspell, .inr ⟨new, hwait⟩, ?_, ?_, ?_, ?_⟩
  · intro id hid
    obtain rfl := (hpending id).mp hid
    exact ⟨h'.timers, _, hspell.retains, (hget id).trans (if_pos rfl), .refl _⟩
  · intro id timer hid hkept
    obtain rfl := (hpending id).mp hid
    obtain ⟨hbefore, hdeeds⟩ := (keeps_append_iff hreleases).mp hkept
    cases hvacant.symm.trans (hb.spell.kept id timer hbefore List.not_mem_nil hdeeds)
  · intro id timer hid
    rw [keeps_append_iff hreleases, added_append_iff hreleases hadds, hpending]
    rw [hget] at hid
    split_ifs at hid with hnew
    · exact .inr (.inr hnew)
    · rcases hb.armed id timer hid with hkept | hmem | hold
      · exact .inl hkept
      · exact .inr (.inl hmem)
      · cases hnone.symm.trans hold
  -- an id added before is still armed while the new id's entry was vacant, so the two differ
  · intro id timer hmem hwrap
    have hmem := (added_append_iff hreleases hadds).mp hmem
    obtain ⟨hold, _⟩ := hb.added id timer hmem (hwrap.before (TimerTable.retains_add hadd))
    have hne : id ≠ new := by
      rintro rfl
      cases hvacant.symm.trans hold
    rw [hget, if_neg hne, hold]
    exact ⟨rfl, (hpending id).not.mpr hne⟩

/-- A timer is cancelled, be it the one of the wait for the resource. -/
private lemma cancel {old : TimerId} (hb : Booked s slot i session h deeds d.host)
    (hspell : Spell h h' [] (deeds ++ [d]))
    (htimers : h'.timers = (d.host.timers.cancel old).2)
    (hwait : h'.registry.wait slot i = d.host.registry.wait slot i ∨
      (d.host.registry.wait slot i).2 = some old ∧ h'.registry.wait slot i = (none, none))
    (hreleases : ∀ id, d.Releases id ↔ id = old ∧ ∃ timer, d.host.timers.get? id = some timer)
    (hadds : ∀ id timer, ¬ d.Adds s id timer) :
    Booked s slot i session h (deeds ++ [d]) h' := by
  have hget (id : TimerId) := TimerTable.get?_cancel d.host.timers old id
  have hretains := TimerTable.retains_cancel d.host.timers old
  rw [← htimers] at hget hretains
  -- nothing is added by this deed, so a timer counts as added when it was and is not the one released
  have hadded (id : TimerId) (timer : Timer) :
      Added s (deeds ++ [d]) id timer ↔ Added s deeds id timer ∧ ¬ d.Releases id :=
    added_append.trans (or_iff_right (hadds id timer))
  have hpending (id : TimerId) (hid : (h'.registry.wait slot i).2 = some id) :
      (d.host.registry.wait slot i).2 = some id := by
    rcases hwait with heq | ⟨_, heq⟩
    · exact heq ▸ hid
    · rw [heq] at hid
      cases hid
  refine ⟨hspell, ?_, ?_, ?_, ?_, ?_⟩
  · rcases hwait with heq | ⟨_, heq⟩
    · exact heq ▸ hb.wait
    · exact .inl heq
  · intro id hid
    obtain ⟨t, timer, hbefore, hearlier, hafter⟩ := hb.began id (hpending id hid)
    exact ⟨t, timer, hbefore, hearlier, hafter.trans hretains⟩
  · exact fun id timer hid hkept =>
      hb.apart id timer (hpending id hid) (keeps_append.mp hkept).1
  · intro id timer hid
    rw [hget] at hid
    split_ifs at hid with hold
    have hstays : ¬ d.Releases id := fun hrelease => hold ((hreleases id).mp hrelease).1
    rw [keeps_append, hadded]
    rcases hb.armed id timer hid with hkept | hmem | hwaits
    · exact .inl ⟨hkept, hstays⟩
    · exact .inr (.inl ⟨hmem, hstays⟩)
    · refine .inr (.inr ?_)
      rcases hwait with heq | ⟨heq, _⟩
      · exact heq ▸ hwaits
      · cases hwaits.symm.trans heq
        exact absurd rfl hold
  · intro id timer hmem hwrap
    obtain ⟨hmem, hstays⟩ := (hadded id timer).mp hmem
    obtain ⟨hbefore, hapart⟩ := hb.added id timer hmem (hwrap.before hretains)
    have hne : id ≠ old := fun heq => hstays ((hreleases id).mpr ⟨heq, timer, hbefore⟩)
    rw [hget, if_neg hne]
    exact ⟨hbefore, fun hid => hapart (hpending id hid)⟩

/-- Something that is nothing to timers and waits comes after. -/
lemma before_eq (hb : Booked s slot i session h deeds h₁) (htimers : h'.timers = h₁.timers)
    (hwait : h'.registry.wait slot i = h₁.registry.wait slot i) (hlogs : Logs h₁ h' []) :
    Booked s slot i session h deeds h' where
  spell := hb.spell.before_eq htimers hlogs
  wait := hwait ▸ hb.wait
  began := by
    rw [hwait, htimers]
    exact hb.began
  apart := by
    rw [hwait]
    exact hb.apart
  armed := by
    rw [hwait, htimers]
    exact hb.armed
  added := by
    rw [hwait, htimers]
    exact hb.added

/-- Every permitted deed keeps the resource booked. -/
lemma perform [Link L] {op : Op P} (hb : Booked s slot i session h deeds h₁)
    (hpermitted : (⟨h₁, slot, op⟩ : Deed L P).Permitted slot i session)
    (hsome : (h₁.registry.resource? slot i).isSome) :
    Booked s slot i session h (deeds ++ [⟨h₁, slot, op⟩]) (h₁.perform s slot op).2 := by
  have hspell := hb.spell.trans ((perform_does s h₁ slot op).spell hb.spell.wellFormed)
  cases answers_of_permitted (s := s) hpermitted hsome with
  | idle htimers hwait hreleases hadds => exact hb.idle hspell htimers hwait hreleases hadds
  | add hadd hwait hreleases hadds => exact hb.add hspell hadd hwait hreleases hadds
  | await hadd hfree hwait hreleases hadds =>
    exact hb.await hspell hadd hfree hwait hreleases hadds
  | cancel htimers hwait hreleases hadds => exact hb.cancel hspell htimers hwait hreleases hadds

/-- So does a program of permitted deeds. -/
lemma run [Link L] {α : Type} (p : Program P α) (hb : Booked s slot i session h deeds h₁)
    (hpermitted : ∀ d ∈ programDeeds s slot p h₁, d.Permitted slot i session)
    (hsome : (h₁.registry.resource? slot i).isSome) :
    Booked s slot i session h (deeds ++ programDeeds s slot p h₁) (Host.run s slot p h₁).2.1 := by
  induction p generalizing h₁ deeds with
  | done a =>
    rw [programDeeds, List.append_nil]
    exact hb
  | step op next ih =>
    obtain ⟨hop, hnext⟩ := List.forall_mem_cons.mp hpermitted
    have hrest := ih _ (hb.perform hop hsome) hnext (perform_stocks hop i hsome)
    rw [List.append_assoc] at hrest
    exact hrest

end Booked

/-- Permitted deeds leave no slots to be initialised. -/
lemma slots_of_permitted [Link L] {α : Type} (p : Program P α) (h₁ : Host L P)
    (hpermitted : ∀ d ∈ programDeeds s slot p h₁, d.Permitted slot i session) :
    (Host.run s slot p h₁).2.2 = [] := by
  induction p generalizing h₁ with
  | done a => rfl
  | step op next ih =>
    obtain ⟨hop, hnext⟩ := List.forall_mem_cons.mp hpermitted
    show spawned op _ ++ _ = []
    rw [Host.spawned_eq_nil (by rintro _ _ _ rfl; cases hop.locksOnly), ih _ _ hnext, List.append_nil]

/-! ### The whole call -/

section Calls

variable [Link L] [Driver P] {h' : Host L P} {c : Callback} {result : c.Result}
  {slots : List SlotId}

/-- A driver of whose deeds all are permitted fills no slots and leaves the resource booked. -/
lemma booked_call (hwell : h.timers.WellFormed) (hwait : h.registry.wait slot i = (none, none))
    (hsome : (h.registry.resource? slot i).isSome)
    (hcall : h.call s slot c = some (result, h', slots))
    (hpermitted : ∀ d ∈ h.callDeeds s slot c, d.Permitted slot i session) :
    slots = [] ∧ Booked s slot i session h (h.callDeeds s slot c) h' ∧
      Stocks slot h.registry h'.registry := by
  obtain ⟨inst, generation, registry, driver, h₁, htake, hrun, rfl⟩ := call_eq_some hcall
  obtain ⟨t, ht, _, htaken⟩ := Registry.takeDriver_cases htake
  simp only [callDeeds, htake] at hpermitted ⊢
  let h₀ : Host L P := { h with registry }.record (.called slot inst.serial c)
  have hslots := slots_of_permitted (inst.driver.respond c) h₀ hpermitted
  have hstocks := run_stocks (inst.driver.respond c) h₀ hpermitted
  have hbooked : Booked s slot i session h [] h₀ := by
    refine booked_nil (.of_timers_eq hwell rfl ⟨[.called slot inst.serial c], rfl, rfl, rfl⟩) rfl ?_
    rw [← hwait, ← htaken.wait_eq ht (Slot.wait_of_resources rfl)]
    rfl
  have hstocked := Stocks.of_updated htaken ht (Nat.le_refl _) i hsome
  have hbooked := hbooked.run (inst.driver.respond c) hpermitted hstocked
  rw [hrun] at hslots hstocks hbooked
  -- putting the instance back touches neither timers nor waits
  refine ⟨hslots, hbooked.before_eq rfl ?_ (.of_eq rfl), ?_⟩
  · exact congrFun (congrFun (Registry.wait_restoreDriver ..) slot) i
  · refine (Stocks.of_updated htaken ht (Nat.le_refl _)).trans (hstocks.trans ?_)
    rcases Registry.restoreDriver_cases h₁.registry slot { inst with driver } generation with
        heq | ⟨t', ht', _, hupdated⟩
    · exact heq.symm ▸ .refl slot _
    · exact .of_updated hupdated ht' (Nat.le_refl _)

end Calls

/-! ### Undoing the wait -/

/-- What is left when the request failed: nobody waits for the resource, and the armed timers are
those from before that the driver did not release and those that it armed by itself. -/
structure Undone (s : Setting P) (slot : SlotId) (i : Nat) (h : Host L P) (deeds : List (Deed L P))
    (h' : Host L P) : Prop where
  free : ∃ r, h'.registry.resource? slot i = some r ∧ r.IsFree
  get?_of_keeps : ∀ id timer, h.Keeps deeds id timer → h'.timers.get? id = some timer
  keeps_or_added : ∀ id timer, h'.timers.get? id = some timer →
    h.Keeps deeds id timer ∨ Added s deeds id timer
  get?_of_added : ∀ id timer, Added s deeds id timer →
    h.timers.UnwrappedSince h'.timers id.entry → h'.timers.get? id = some timer

namespace Booked

/-- Nobody waits for a resource that is not locked. -/
private lemma wait_of_lock (hb : Booked s slot i session h deeds h₁)
    (hlock : (h₁.registry.wait slot i).1 ≠ some session) :
    h₁.registry.wait slot i = (none, none) := by
  rcases hb.wait with heq | ⟨id, heq⟩
  · exact heq
  · rw [heq] at hlock
    exact absurd rfl hlock

/-- Where nobody waits, there is nothing to undo. -/
lemma undone (hb : Booked s slot i session h deeds h₁) {r : Resource}
    (hres : h₁.registry.resource? slot i = some r)
    (hlock : (h₁.registry.wait slot i).1 ≠ some session) : Undone s slot i h deeds h₁ := by
  have hwait := hb.wait_of_lock hlock
  have hnone (id : TimerId) : (h₁.registry.wait slot i).2 ≠ some id := by
    rw [hwait]
    exact nofun
  rw [Registry.wait_of_resource? hres, Prod.mk.injEq] at hwait
  exact
    { free := ⟨r, hres, hwait⟩
      get?_of_keeps := fun id timer hkept => hb.spell.kept id timer hkept.1 List.not_mem_nil hkept.2
      keeps_or_added := fun id timer hget =>
        (hb.armed id timer hget).imp_right (Or.resolve_right · (hnone id))
      get?_of_added := fun id timer hadded hwrap => (hb.added id timer hadded hwrap).1 }

/-- The wait of the session is abandoned, and its timer is gone. -/
lemma undone_abandonReply (hb : Booked s slot i session h deeds h₁) {r : Resource}
    (hres : h₁.registry.resource? slot i = some r) :
    Undone s slot i h deeds (h₁.abandonReply slot i session) := by
  rcases abandonReply_cases h₁ slot i session with ⟨hlock, heq⟩ | ⟨r', hsettled, hlock, _⟩
  · rw [heq]
    exact hb.undone hres hlock
  · have hwait := Registry.wait_of_resource? hsettled.resource
    -- the lock is held by this session, so the wait was begun by the request and has its timer
    obtain ⟨old, hpending⟩ : ∃ old, r'.pendingTimer = some old := by
      rcases hb.wait with heq | ⟨old, heq⟩
      · cases hlock.symm.trans (congrArg Prod.fst (hwait.symm.trans heq))
      · exact ⟨old, congrArg Prod.snd (hwait.symm.trans heq)⟩
    rw [hpending] at hwait
    have hget (id : TimerId) : (h₁.abandonReply slot i session).timers.get? id =
        if id = old then none else h₁.timers.get? id := by
      rw [hsettled.timers, hpending]
      exact TimerTable.get?_cancel h₁.timers old id
    have hretains : h₁.timers.Retains (h₁.abandonReply slot i session).timers := by
      rw [hsettled.timers, hpending]
      exact TimerTable.retains_cancel h₁.timers old
    have hpends (id : TimerId) : (h₁.registry.wait slot i).2 = some id ↔ id = old := by
      rw [hwait]
      exact ⟨fun heq => (Option.some.inj heq).symm, fun heq => heq ▸ rfl⟩
    refine ⟨⟨r'.settle, ?_, rfl, rfl⟩, ?_, ?_, ?_⟩
    · obtain ⟨t, ht, hres'⟩ := Registry.resource?_eq_some.mp hsettled.resource
      rw [hsettled.registry, Registry.resource?,
        (Registry.updated_setResource ht i r'.settle).slot?, if_pos rfl]
      have hi : i < t.resources.length := (List.getElem?_eq_some_iff.mp hres').1
      simp [Slot.setResource, Slot.resource?, hi]
    · intro id timer hkept
      rw [hget, if_neg fun heq => hb.apart id timer ((hpends id).mpr heq) hkept]
      exact hb.spell.kept id timer hkept.1 List.not_mem_nil hkept.2
    · intro id timer hid
      rw [hget] at hid
      split_ifs at hid with hold
      exact (hb.armed id timer hid).imp_right (Or.resolve_right · ((hpends id).not.mpr hold))
    · intro id timer hadded hwrap
      obtain ⟨hbefore, hapart⟩ := hb.added id timer hadded (hwrap.before hretains)
      rw [hget, if_neg fun heq => hapart ((hpends id).mpr heq)]
      exact hbefore

end Booked

end Host

end BoardLink
