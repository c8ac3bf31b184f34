import BoardLink.Proofs.Registry.Slots
import BoardLink.Proofs.Timer.Table

/-!
# Locks and the timers beside them

A session waits for an answer while a resource is locked for it, and the timer beside the lock ends
the wait. The registry holds the lock and the name of the timer, and the table holds the timer. Here
is what ties the two together, and what keeps it.
-/

namespace BoardLink

/-- Is nobody waiting for an answer about the resource? -/
def Resource.IsFree (r : Resource) : Prop := r.lock = none ∧ r.pendingTimer = none

instance (r : Resource) : Decidable r.IsFree := inferInstanceAs (Decidable (_ ∧ _))

/-- Whoever waits for an answer about a resource of a slot waited before the change, with the same
timer. -/
def Slot.Quiet {D : Type} (s s' : Slot D) : Prop :=
  ∀ i res', s'.resource? i = some res' →
    res'.IsFree ∨ ∃ res, s.resource? i = some res ∧
      res'.lock = res.lock ∧ res'.pendingTimer = res.pendingTimer

/-- Nobody notices a change of anything but the resources. -/
lemma Slot.Quiet.of_resources {D : Type} {s s' : Slot D} (h : s'.resources = s.resources) :
    s.Quiet s' := by
  intro i res hres
  rw [Slot.resource?, h] at hres
  exact .inr ⟨res, hres, rfl, rfl⟩

namespace Registry

variable {D : Type} {r r' r'' : Registry D} {id : SlotId} {s s' : Slot D} {timer : TimerId}

/-! ### Changes that no wait notices -/

/-- Whoever waits now waited before, for the same resource and with the same timer. -/
def Quiet (r r' : Registry D) : Prop :=
  ∀ id i res', r'.resource? id i = some res' →
    res'.IsFree ∨ ∃ res, r.resource? id i = some res ∧
      res'.lock = res.lock ∧ res'.pendingTimer = res.pendingTimer

lemma Quiet.refl (r : Registry D) : Quiet r r := fun _ _ res h => .inr ⟨res, h, rfl, rfl⟩

lemma Quiet.trans (h : Quiet r r') (h' : Quiet r' r'') : Quiet r r'' := by
  intro id i res'' hres''
  rcases h' id i res'' hres'' with hfree | ⟨res', hres', hlock', htimer'⟩
  · exact .inl hfree
  · rcases h id i res' hres' with ⟨hlock, htimer⟩ | ⟨res, hres, hlock, htimer⟩
    · exact .inl ⟨hlock'.trans hlock, htimer'.trans htimer⟩
    · exact .inr ⟨res, hres, hlock'.trans hlock, htimer'.trans htimer⟩

lemma resource?_eq_some {i : Nat} {res : Resource} :
    r.resource? id i = some res ↔ ∃ s, r.slot? id = some s ∧ s.resource? i = some res :=
  Option.bind_eq_some_iff

lemma Unchanged.quiet (h : Unchanged r r') : Quiet r r' := by
  intro id i res hres
  rw [resource?, h.slot?] at hres
  exact .inr ⟨res, hres, rfl, rfl⟩

lemma Updated.quiet (h : Updated r id s' r') (hs : r.slot? id = some s) (hquiet : s.Quiet s') :
    Quiet r r' := by
  intro id' i res' hres'
  obtain ⟨s'', hs'', hres'⟩ := resource?_eq_some.mp hres'
  rw [h.slot?] at hs''
  split_ifs at hs'' with hid
  · cases hs''
    rcases hquiet i res' hres' with hfree | ⟨res, hres, hsame⟩
    · exact .inl hfree
    · exact .inr ⟨res, resource?_eq_some.mpr ⟨s, hid ▸ hs, hres⟩, hsame⟩
  · exact .inr ⟨res', resource?_eq_some.mpr ⟨s'', hs'', hres'⟩, rfl, rfl⟩

/-- An edit that leaves the resources of the slot alone. -/
lemma Updated.resource?_eq (h : Updated r id s' r') (hs : r.slot? id = some s)
    (hresources : s'.resources = s.resources) (id' : SlotId) (i : Nat) :
    r'.resource? id' i = r.resource? id' i := by
  simp only [resource?, h.slot?]
  split_ifs with hid
  · rw [hid, hs, Option.bind_some, Option.bind_some, Slot.resource?, Slot.resource?, hresources]
  · rfl

lemma Updated.quiet_of_resources (h : Updated r id s' r') (hs : r.slot? id = some s)
    (hresources : s'.resources = s.resources) : Quiet r r' :=
  h.quiet hs (.of_resources hresources)

/-- A fresh instance has no resources. -/
lemma Updated.quiet_of_fresh {name : String} {n : Nat} (h : Updated r id (.fresh id name n) r') :
    Quiet r r' := by
  intro id' i res' hres'
  obtain ⟨s'', hs'', hres'⟩ := resource?_eq_some.mp hres'
  rw [h.slot?] at hs''
  split_ifs at hs''
  · cases hs''
    cases hres'
  · exact .inr ⟨res', resource?_eq_some.mpr ⟨s'', hs'', hres'⟩, rfl, rfl⟩

/-- Does the command change a lock by itself, or bring in a resource that somebody waits for? -/
def Command.locks : Command D → Bool
  | .lock .. | .unlock .. => true
  | .addResource _ resource => ¬resource.IsFree
  | _ => false

@[simp] lemma Command.locks_addResource {res : Resource} :
    (Command.addResource id res : Command D).locks = false ↔ res.IsFree := by
  simp [locks]

lemma Command.locks_map {E : Type} (f : D → E) (c : Command D) : (c.map f).locks = c.locks := by
  cases c <;> rfl

private lemma slot_resource?_setResource {i j : Nat} {res res' : Resource}
    (h : (s.setResource i res).resource? j = some res') :
    (j = i ∧ res' = res) ∨ (j ≠ i ∧ s.resource? j = some res') := by
  simp only [Slot.setResource, Slot.resource?, List.getElem?_set] at h ⊢
  split_ifs at h with hij
  · cases h
    exact .inl ⟨hij.symm, rfl⟩
  · exact .inr ⟨Ne.symm hij, h⟩

/-- A change of a resource that no wait notices. -/
lemma quiet_setResource {i : Nat} {res res' : Resource} (hres : s.resource? i = some res)
    (hlock : res'.lock = res.lock) (htimer : res'.pendingTimer = res.pendingTimer) :
    s.Quiet (s.setResource i res') := by
  intro j res'' h
  rcases slot_resource?_setResource h with ⟨rfl, rfl⟩ | ⟨_, h⟩
  · exact .inr ⟨res, hres, hlock, htimer⟩
  · exact .inr ⟨res'', h, rfl, rfl⟩

lemma quiet_addResource (s : Slot D) {res : Resource} (hfree : res.IsFree) :
    s.Quiet { s with resources := s.resources ++ [res] } := by
  intro i res' h
  simp only [Slot.resource?, List.getElem?_append] at h ⊢
  split_ifs at h
  · exact .inr ⟨res', h, rfl, rfl⟩
  · rw [List.getElem?_singleton] at h
    split_ifs at h
    cases h
    exact .inl hfree

/-- Commands that change no lock are quiet. -/
lemma perform_quiet {c : Command D} {a : Answer} (h : r.perform c = .ok (a, r'))
    (hc : c.locks = false) : Quiet r r' := by
  -- a fresh slot starts without locks, the cores hold none, and an edit stays within one slot
  rcases perform_cases h with
      ⟨_, id, name, hinstall⟩ | hunchanged | ⟨id, s, s', hs, hedit, hupdated⟩
  · exact (updated_install hinstall).quiet_of_fresh
  · exact hunchanged.quiet
  · cases hedit with
    | lock | unlock => cases hc
    | addResource => exact hupdated.quiet hs (quiet_addResource s (Command.locks_addResource.mp hc))
    | subscribe _ _ hres hres' =>
      obtain ⟨broadcast, rfl⟩ := subscribe_cases hres'
      exact hupdated.quiet hs (quiet_setResource hres rfl rfl)
    | unsubscribe _ hres => exact hupdated.quiet hs (quiet_setResource hres rfl rfl)
    | _ => exact hupdated.quiet_of_resources hs rfl

lemma resource?_setResource {id' : SlotId} {i j : Nat} {res res' : Resource}
    (h : (r.setResource id i res).resource? id' j = some res') :
    (id' = id ∧ j = i ∧ res' = res) ∨ (¬ (id' = id ∧ j = i) ∧ r.resource? id' j = some res') := by
  simp only [setResource] at h
  split at h
  · rename_i s hs
    obtain ⟨s', hs', hres'⟩ := resource?_eq_some.mp h
    rw [(updated_setSlot hs _).slot?] at hs'
    split_ifs at hs' with hid
    · cases hs'
      rcases slot_resource?_setResource hres' with ⟨rfl, rfl⟩ | ⟨hj, hres'⟩
      · exact .inl ⟨hid, rfl, rfl⟩
      · exact .inr ⟨fun h => hj h.2, resource?_eq_some.mpr ⟨s, hid ▸ hs, hres'⟩⟩
    · exact .inr ⟨fun h => hid h.1, resource?_eq_some.mpr ⟨s', hs', hres'⟩⟩
  · rename_i hnone
    refine .inr ⟨?_, h⟩
    rintro ⟨rfl, -⟩
    rw [resource?, hnone] at h
    -- no slot, no resource: the write was lost and the hypothesis cannot hold
    cases h

/-- Settling frees a resource. -/
lemma quiet_settle (r : Registry D) (id : SlotId) (i : Nat) (res : Resource) :
    Quiet r (r.setResource id i res.settle) := by
  intro id' j res' h
  rcases resource?_setResource h with ⟨_, _, rfl⟩ | ⟨_, h⟩
  · exact .inl ⟨rfl, rfl⟩
  · exact .inr ⟨res', h, rfl, rfl⟩

/-- A slot whose waits for one timer are over. -/
def expired (s : Slot D) (timer : TimerId) : Slot D :=
  { s with resources := s.resources.map fun res =>
    if res.pendingTimer = some timer then res.settle else res }

lemma resource?_expired {i : Nat} {res' : Resource} (h : (expired s timer).resource? i = some res') :
    ∃ res, s.resource? i = some res ∧
      res' = if res.pendingTimer = some timer then res.settle else res := by
  simp only [expired, Slot.resource?, List.getElem?_map, Option.map_eq_some_iff] at h
  obtain ⟨res, hres, rfl⟩ := h
  exact ⟨res, hres, rfl⟩

lemma quiet_expired (hs : r.slot? id = some s) (timer : TimerId) :
    Quiet r (r.setSlot id (expired s timer)) := by
  refine (updated_setSlot hs _).quiet hs fun i res' hres' => ?_
  obtain ⟨res, hres, rfl⟩ := resource?_expired hres'
  split_ifs
  · exact .inl ⟨rfl, rfl⟩
  · exact .inr ⟨res, hres, rfl, rfl⟩

/-! ### Locks and timers -/

/-- Does some resource name this timer as the one that ends its wait? -/
def Pends (r : Registry D) (timer : TimerId) : Prop :=
  ∃ id i res, r.resource? id i = some res ∧ res.pendingTimer = some timer

lemma Quiet.pends (h : Quiet r r') (hpends : r'.Pends timer) : r.Pends timer := by
  obtain ⟨id, i, res', hres', htimer⟩ := hpends
  rcases h id i res' hres' with ⟨_, hnone⟩ | ⟨res, hres, _, hsame⟩
  · rw [hnone] at htimer
    cases htimer
  · exact ⟨id, i, res, hres, hsame ▸ htimer⟩

/-- Every lock has a timer of its own beside it, armed to end the wait once. -/
structure Guarded (r : Registry D) (t : TimerTable) : Prop where
  wellFormed : t.WellFormed
  lock_iff : ∀ {id i res}, r.resource? id i = some res →
    (res.lock.isSome ↔ res.pendingTimer.isSome)
  armed : ∀ {id i res timer}, r.resource? id i = some res → res.pendingTimer = some timer →
    ∃ armed, t.get? timer = some armed ∧ armed.kind = .oneShot ∧ armed.owner = id
  unique : ∀ {id i res id' i' res' timer}, r.resource? id i = some res →
    res.pendingTimer = some timer → r.resource? id' i' = some res' →
    res'.pendingTimer = some timer → id = id' ∧ i = i'

namespace Guarded

variable {t t' : TimerTable}

/-- Where no slot is in use, no lock is held. -/
lemma of_free (hnone : ∀ id, r.slot? id = none) (hwf : t.WellFormed) : Guarded r t := by
  have hfree (id : SlotId) (i : Nat) : r.resource? id i = none := by
    rw [resource?, hnone]
    rfl
  refine ⟨hwf, fun hres => ?_, fun hres => ?_, fun hres => ?_⟩
  all_goals
    rw [hfree] at hres
    cases hres

lemma issued (h : Guarded r t) (hpends : r.Pends timer) : t.Issued timer := by
  obtain ⟨id, i, res, hres, htimer⟩ := hpends
  obtain ⟨armed, hget, _⟩ := h.armed hres htimer
  exact TimerTable.issued_of_get? hget

/-- A quiet change of the registry keeps the locks guarded. -/
lemma of_quiet (h : Guarded r t) (hquiet : Quiet r r') : Guarded r' t where
  wellFormed := h.wellFormed
  lock_iff hres' := by
    rcases hquiet _ _ _ hres' with ⟨hlock, htimer⟩ | ⟨res, hres, hlock, htimer⟩
    · simp [hlock, htimer]
    · rw [hlock, htimer]
      exact h.lock_iff hres
  armed hres' htimer' := by
    rcases hquiet _ _ _ hres' with ⟨_, htimer⟩ | ⟨res, hres, _, htimer⟩
    · rw [htimer] at htimer'
      cases htimer'
    · exact h.armed hres (htimer ▸ htimer')
  unique hres₁ htimer₁ hres₂ htimer₂ := by
    rcases hquiet _ _ _ hres₁ with ⟨_, htimer⟩ | ⟨res, hres, _, htimer⟩
    · rw [htimer] at htimer₁
      cases htimer₁
    · rcases hquiet _ _ _ hres₂ with ⟨_, htimer'⟩ | ⟨res', hres', _, htimer'⟩
      · rw [htimer'] at htimer₂
        cases htimer₂
      · exact h.unique hres (htimer ▸ htimer₁) hres' (htimer' ▸ htimer₂)

/-- So does a change of the table that leaves the timers beside locks alone. -/
lemma of_timers (h : Guarded r t) (hwf : t'.WellFormed)
    (hkeep : ∀ timer, r.Pends timer → t'.get? timer = t.get? timer) : Guarded r t' where
  wellFormed := hwf
  lock_iff := h.lock_iff
  armed hres htimer := by
    rw [hkeep _ ⟨_, _, _, hres, htimer⟩]
    exact h.armed hres htimer
  unique := h.unique

/-- A lock is taken together with a new timer. -/
lemma await {i : Nat} {res : Resource} {session : SessionId} {armed : Timer} (h : Guarded r t)
    (harmed : TimerTable.Armed t t' timer armed) (hkind : armed.kind = .oneShot)
    (howner : armed.owner = id) (hfresh : ¬ t.Issued timer) :
    Guarded (r.setResource id i { res with lock := some session, pendingTimer := some timer }) t' where
  wellFormed := harmed.wellFormed
  lock_iff hres := by
    rcases resource?_setResource hres with ⟨_, _, rfl⟩ | ⟨_, hres⟩
    · simp
    · exact h.lock_iff hres
  armed {id' j res' timer'} hres htimer := by
    rcases resource?_setResource hres with ⟨rfl, _, rfl⟩ | ⟨_, hold⟩
    · cases htimer
      exact ⟨armed, by rw [harmed.get?, if_pos rfl], hkind, howner⟩
    · have hne : timer' ≠ timer := by
        rintro rfl
        -- every pending timer was issued, while this one is fresh
        exact hfresh (h.issued ⟨_, _, _, hold, htimer⟩)
      rw [harmed.get?, if_neg hne]
      exact h.armed hold htimer
  unique hres htimer hres' htimer' := by
    rcases resource?_setResource hres with ⟨rfl, rfl, rfl⟩ | ⟨_, hold⟩
    · rcases resource?_setResource hres' with ⟨rfl, rfl, rfl⟩ | ⟨_, hold'⟩
      · exact ⟨rfl, rfl⟩
      · cases htimer
        exact absurd (h.issued ⟨_, _, _, hold', htimer'⟩) hfresh
    · rcases resource?_setResource hres' with ⟨rfl, rfl, rfl⟩ | ⟨_, hold'⟩
      · cases htimer'
        exact absurd (h.issued ⟨_, _, _, hold, htimer⟩) hfresh
      · exact h.unique hold htimer hold' htimer'

/-- A lock is given up together with its timer. -/
lemma settle {i : Nat} {res : Resource} (h : Guarded r t) (hres : r.resource? id i = some res)
    (hwf : t'.WellFormed)
    (hkeep : ∀ timer, res.pendingTimer ≠ some timer → t'.get? timer = t.get? timer) :
    Guarded (r.setResource id i res.settle) t' := by
  refine (h.of_quiet (quiet_settle r id i res)).of_timers hwf ?_
  rintro timer ⟨id', j, res', hres', htimer'⟩
  apply hkeep
  intro htimer
  rcases resource?_setResource hres' with ⟨_, _, rfl⟩ | ⟨hne, hres'⟩
  · cases htimer'
  · exact hne (h.unique hres' htimer' hres htimer)

/-- All locks that wait for one timer are given up when it fires. -/
lemma expire {armed : Timer} (h : Guarded r t) (hwf : t'.WellFormed)
    (hkeep : ∀ timer' ≠ timer, t'.get? timer' = t.get? timer') (hget : t.get? timer = some armed)
    (hs : r.slot? armed.owner = some s) :
    Guarded (r.setSlot armed.owner (expired s timer)) t' := by
  refine (h.of_quiet (quiet_expired hs timer)).of_timers hwf ?_
  rintro timer' ⟨id', i, res', hres', htimer'⟩
  apply hkeep
  rintro rfl
  -- the timer that fires is not beside a lock any more, neither at its owner nor elsewhere
  obtain ⟨s', hs', hres'⟩ := resource?_eq_some.mp hres'
  rw [(updated_setSlot hs _).slot?] at hs'
  split_ifs at hs' with hid
  · cases hs'
    obtain ⟨res, hres, rfl⟩ := resource?_expired hres'
    split_ifs at htimer' with hpending
    · cases htimer'
    · exact hpending htimer'
  · obtain ⟨armed', hget', _, howner⟩ := h.armed (resource?_eq_some.mpr ⟨s', hs', hres'⟩) htimer'
    rw [hget] at hget'
    cases hget'
    exact hid howner.symm

/-- Nobody waits for a timer whose owner is not in use. -/
lemma not_pends_of_owner {armed : Timer} (h : Guarded r t) (hget : t.get? timer = some armed)
    (hs : r.slot? armed.owner = none) : ¬ r.Pends timer := by
  rintro ⟨id, i, res, hres, htimer⟩
  obtain ⟨armed', hget', _, rfl⟩ := h.armed hres htimer
  rw [hget] at hget'
  cases hget'
  rw [resource?, hs] at hres
  cases hres

/-- The locks of a slot go with its timers when a fresh instance takes its place. -/
lemma vacate (h : Guarded r t) (hquiet : Quiet r r') (hnone : ∀ i, r'.resource? id i = none) :
    Guarded r' (t.cancelOwner id).2 := by
  obtain ⟨hthinned, hget⟩ := TimerTable.cancelOwner_spec h.wellFormed id
  refine (h.of_quiet hquiet).of_timers hthinned.wellFormed ?_
  rintro timer ⟨id', i, res, hres, htimer⟩
  obtain ⟨armed, harmed, _, rfl⟩ := (h.of_quiet hquiet).armed hres htimer
  have hne : armed.owner ≠ id := by
    rintro rfl
    rw [hnone i] at hres
    cases hres
  rw [hget, harmed]
  simp [Option.filter, hne]

end Guarded

end Registry

end BoardLink
