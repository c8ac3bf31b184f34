import Mathlib.Data.List.Nodup
import Mathlib.Data.List.Perm.Basic
import BoardLink.Proofs.Registry.Locks

/-!
# Who waits for what

A resource is waited for by the session in its lock, together with the timer beside the lock. Nothing
that is done to a registry changes that, but for locks that are taken or given up and for slots that
are filled anew.
-/

namespace BoardLink

/-- A session that waits for an answer about a resource of a slot. -/
structure Wait where
  slot : SlotId
  resource : Nat
  session : SessionId
  deriving DecidableEq

/-! ### Resources of one slot -/

/-- The session and the timer that wait for a resource of a slot. -/
def Slot.wait {D : Type} (s : Slot D) (i : Nat) : Option SessionId × Option TimerId :=
  ((s.resource? i).bind Resource.lock, (s.resource? i).bind Resource.pendingTimer)

namespace Slot

variable {D : Type} {s s' : Slot D} {i j : Nat} {res res' : Resource}

lemma wait_of_resource? (hres : s.resource? i = some res) :
    s.wait i = (res.lock, res.pendingTimer) := by
  simp [wait, hres]

lemma wait_of_resources (h : s'.resources = s.resources) : s'.wait = s.wait := by
  funext i
  simp only [wait, resource?, h]

/-- Nobody waits for a resource that was just added, if it is free. -/
lemma wait_addResource (s : Slot D) (hfree : res.IsFree) :
    Slot.wait { s with resources := s.resources ++ [res] } = s.wait := by
  funext i
  simp only [wait, resource?, List.getElem?_append]
  split_ifs with hi
  · rfl
  · rw [List.getElem?_eq_none (Nat.not_lt.mp hi), List.getElem?_singleton]
    split_ifs
    · exact Prod.ext hfree.1 hfree.2
    · rfl

lemma wait_setResource (hres : s.resource? i = some res) (res' : Resource) (j : Nat) :
    (s.setResource i res').wait j =
      if j = i then (res'.lock, res'.pendingTimer) else s.wait j := by
  have hi : i < s.resources.length := (List.getElem?_eq_some_iff.mp hres).1
  simp only [wait, setResource, resource?, List.getElem?_set]
  by_cases hij : i = j
  · simp [hij, hij ▸ hi]
  · simp [hij, Ne.symm hij]

/-- A change of a resource that leaves its lock and its timer alone. -/
lemma wait_setResource_of_eq (hres : s.resource? i = some res) (hlock : res'.lock = res.lock)
    (htimer : res'.pendingTimer = res.pendingTimer) : (s.setResource i res').wait = s.wait := by
  funext j
  rw [wait_setResource hres]
  split_ifs with hj
  · rw [hj, wait_of_resource? hres, hlock, htimer]
  · rfl

/-- Those who wait for resources of a kind, with the numbers of the resources. -/
def waiting (s : Slot D) (p : Resource → Bool) : List (Nat × SessionId) :=
  (s.resources.zipIdx.filter fun (r, _) => p r).filterMap fun (r, i) =>
    r.lock.map fun session => (i, session)

lemma mem_waiting {p : Resource → Bool} {session : SessionId} :
    (i, session) ∈ s.waiting p ↔
      ∃ res, s.resource? i = some res ∧ p res ∧ res.lock = some session := by
  simp only [waiting, List.mem_filterMap, List.mem_filter, Prod.exists, Option.map_eq_some_iff,
    Prod.mk.injEq, List.mem_zipIdx_iff_getElem?]
  constructor
  · rintro ⟨res, _, ⟨hres, hp⟩, _, hlock, rfl, rfl⟩
    exact ⟨res, hres, hp, hlock⟩
  · rintro ⟨res, hres, hp, hlock⟩
    exact ⟨res, i, ⟨hres, hp⟩, session, hlock, rfl, rfl⟩

/-- Each resource has its own number. -/
lemma nodup_waiting (s : Slot D) (p : Resource → Bool) : (s.waiting p).Nodup := by
  have hnumbers : s.resources.zipIdx.Pairwise fun a b => a.2 ≠ b.2 := by
    rw [← List.pairwise_map, List.zipIdx_map_snd]
    exact List.nodup_range'
  refine (hnumbers.filter _).filterMap _ fun a b hne w hw w' hw' => ?_
  obtain ⟨_, _, rfl⟩ := Option.map_eq_some_iff.mp hw
  obtain ⟨_, _, rfl⟩ := Option.map_eq_some_iff.mp hw'
  exact fun heq => hne (Prod.mk.inj heq).1

lemma holders_eq (s : Slot D) : s.holders = (s.waiting fun _ => true).map Prod.snd := by
  have hresources : s.holders = (s.resources.zipIdx.map Prod.fst).filterMap Resource.lock := by
    rw [List.zipIdx_map_fst, holders]
  have hall : (s.resources.zipIdx.filter fun (_, _) => true) = s.resources.zipIdx :=
    List.filter_eq_self.mpr fun _ _ => rfl
  rw [hresources, waiting, hall, List.map_filterMap, List.filterMap_map]
  congr 1
  funext p
  cases hlock : p.1.lock with
  | none => simp [hlock]
  | some session => simp [hlock]

end Slot

namespace Registry

variable {D : Type} {r r' r'' : Registry D} {id : SlotId} {s s' : Slot D}

/-! ### Resources of all slots -/

/-- The session and the timer that wait for a resource. -/
def wait (r : Registry D) (id : SlotId) (i : Nat) : Option SessionId × Option TimerId :=
  ((r.resource? id i).bind Resource.lock, (r.resource? id i).bind Resource.pendingTimer)

lemma wait_of_slot? (hs : r.slot? id = some s) : r.wait id = s.wait := by
  funext i
  simp [wait, Slot.wait, resource?, hs]

lemma wait_of_resource? {i : Nat} {res : Resource} (hres : r.resource? id i = some res) :
    r.wait id i = (res.lock, res.pendingTimer) := by
  simp [wait, hres]

lemma wait_of_free (hs : r.slot? id = none) (i : Nat) : r.wait id i = (none, none) := by
  simp [wait, resource?, hs]

lemma Unchanged.wait (h : Unchanged r r') : r'.wait = r.wait := by
  funext id i
  simp only [Registry.wait, resource?, h.slot?]

lemma Updated.wait (h : Updated r id s' r') (id' : SlotId) :
    r'.wait id' = if id' = id then s'.wait else r.wait id' := by
  split_ifs with hid
  · apply wait_of_slot?
    rw [h.slot?, if_pos hid]
  · funext i
    simp only [Registry.wait, resource?, h.slot?, if_neg hid]

/-- An edit that leaves the waits in the slot alone. -/
lemma Updated.wait_eq (h : Updated r id s' r') (hs : r.slot? id = some s) (hwait : s'.wait = s.wait) :
    r'.wait = r.wait := by
  funext id'
  rw [h.wait]
  split_ifs with hid
  · rw [hwait, hid, wait_of_slot? hs]
  · rfl

/-- A resource that is added is nothing to those who wait for one that was there. -/
lemma Updated.wait_of_added {res : Resource} {id' : SlotId} {i : Nat}
    (h : Updated r id { s with resources := s.resources ++ [res] } r') (hs : r.slot? id = some s)
    (hsome : (r.resource? id' i).isSome) : r'.wait id' i = r.wait id' i := by
  obtain ⟨found, hfound⟩ := Option.isSome_iff_exists.mp hsome
  obtain ⟨s', hs', hres⟩ := resource?_eq_some.mp hfound
  rw [h.wait]
  split_ifs with hid
  · cases hs.symm.trans (hid ▸ hs')
    have hi : i < s.resources.length := (List.getElem?_eq_some_iff.mp hres).1
    have hkept : Slot.resource? { s with resources := s.resources ++ [res] } i = some found := by
      rw [Slot.resource?, List.getElem?_append_left hi]
      exact hres
    rw [Slot.wait_of_resource? hkept, wait_of_resource? hfound]
  · rfl

lemma wait_setResource {i : Nat} {res : Resource} (hres : r.resource? id i = some res)
    (res' : Resource) (id' : SlotId) (j : Nat) :
    (r.setResource id i res').wait id' j =
      if id' = id ∧ j = i then (res'.lock, res'.pendingTimer) else r.wait id' j := by
  obtain ⟨s, hs, hres⟩ := resource?_eq_some.mp hres
  rw [(updated_setResource hs i res').wait]
  by_cases hid : id' = id
  · rw [if_pos hid, Slot.wait_setResource hres, hid, wait_of_slot? hs]
    simp
  · rw [if_neg hid, if_neg fun h => hid h.1]

/-- Nobody waits for anything in a slot that was just filled. -/
lemma wait_install {name : String} (h : r.install id name = .ok r') (id' : SlotId) (i : Nat) :
    r'.wait id' i = if id' = id then (none, none) else r.wait id' i := by
  rw [(updated_install h).wait]
  split_ifs
  · rfl
  · rfl

/-- Nobody waits any more for what waited for the timer. -/
lemma wait_expired (s : Slot D) (timer : TimerId) (i : Nat) :
    (expired s timer).wait i = if (s.wait i).2 = some timer then (none, none) else s.wait i := by
  have hmap : (expired s timer).resource? i = (s.resource? i).map fun res =>
      if res.pendingTimer = some timer then res.settle else res := by
    simp [expired, Slot.resource?]
  cases hres : s.resource? i with
  | none => simp [Slot.wait, hmap, hres]
  | some res =>
    rw [Slot.wait_of_resource? hres, Slot.wait, hmap, hres]
    by_cases htimer : res.pendingTimer = some timer
    · simp [htimer, Resource.settle]
    · simp [htimer]

lemma wait_restoreDriver (r : Registry D) (id : SlotId) (driver : D) (generation : UInt32) :
    (r.restoreDriver id driver generation).wait = r.wait := by
  rcases restoreDriver_cases r id driver generation with heq | ⟨s, hs, _, hupdated⟩
  · rw [heq]
  · exact hupdated.wait_eq hs (Slot.wait_of_resources rfl)

lemma wait_releaseCore (r : Registry D) (c : CoreId) (id : SlotId) :
    (r.releaseCore c id).2.wait = r.wait := by
  rcases releaseCore_cases r c id with hunchanged | ⟨s, hs, hupdated⟩
  · exact hunchanged.wait
  · exact hupdated.wait_eq hs (Slot.wait_of_resources rfl)

lemma wait_bindCore {c : CoreId} (h : r.bindCore c id = .ok r') : r'.wait = r.wait := by
  rcases bindCore_cases h with rfl | ⟨s, hs, hupdated⟩
  · rfl
  · exact hupdated.wait_eq hs (Slot.wait_of_resources rfl)

lemma wait_setDriver {driver : D} (h : r.setDriver id driver = .ok r') : r'.wait = r.wait := by
  obtain ⟨s, hs, hupdated⟩ := setDriver_cases h
  exact hupdated.wait_eq hs (Slot.wait_of_resources rfl)

/-- A command that changes no lock and fills no slot is nothing to those who wait. -/
lemma wait_perform {c : Command D} {a : Answer} (h : r.perform c = .ok (a, r'))
    (hlocks : c.locks = false) (hfills : c.fills = false) : r'.wait = r.wait := by
  rcases perform_cases h with ⟨hfilled, _⟩ | hunchanged | ⟨id, s, s', hs, hedit, hupdated⟩
  · rw [hfilled] at hfills
    cases hfills
  · exact hunchanged.wait
  · apply hupdated.wait_eq hs
    cases hedit with
    | lock | unlock => cases hlocks
    | addResource => exact Slot.wait_addResource s (Command.locks_addResource.mp hlocks)
    | subscribe _ _ hres hres' =>
      obtain ⟨broadcast, rfl⟩ := subscribe_cases hres'
      exact Slot.wait_setResource_of_eq hres rfl rfl
    | unsubscribe _ hres => exact Slot.wait_setResource_of_eq hres rfl rfl
    | _ => exact Slot.wait_of_resources rfl

/-- A lock that is given up directly leaves its timer behind. -/
lemma wait_unlock {i : Nat} {a : Answer} (h : r.perform (.unlock id i) = .ok (a, r')) (id' : SlotId)
    (j : Nat) :
    r'.wait id' j = if id' = id ∧ j = i then (none, (r.wait id i).2) else r.wait id' j := by
  obtain ⟨s, hs, h⟩ := except_bind_eq_ok.mp h
  have hs := slot?_of_getSlot hs
  split at h
  · rename_i hres
    cases h
    split_ifs with hwait
    · obtain ⟨rfl, rfl⟩ := hwait
      simp [wait, resource?, hs, hres]
    · rfl
  · rename_i res hres
    cases h
    have hres' : r.resource? id i = some res := resource?_eq_some.mpr ⟨s, hs, hres⟩
    have hset : r.setResource id i res.unlock = r.setSlot id (s.setResource i res.unlock) := by
      simp only [setResource, hs]
    rw [wait_of_resource? hres', ← hset, wait_setResource hres']
    rfl

/-! ### Locks and timers in pairs -/

/-- Beside every lock there is a timer, and beside every timer a lock. -/
def Paired (r : Registry D) : Prop := ∀ id i, (r.wait id i).1.isSome = (r.wait id i).2.isSome

lemma Paired.of_ite {p : SlotId → Nat → Prop} [∀ id i, Decidable (p id i)]
    {w : Option SessionId × Option TimerId} (h : r.Paired)
    (hwait : ∀ id i, r'.wait id i = if p id i then w else r.wait id i)
    (hw : w.1.isSome = w.2.isSome) : r'.Paired := by
  intro id i
  rw [hwait]
  split_ifs
  · exact hw
  · exact h id i

/-! ### All locks -/

/-- These are the waits of all who hold locks, each once. -/
structure Held (r : Registry D) (ws : List Wait) : Prop where
  nodup : ws.Nodup
  mem : ∀ w, w ∈ ws ↔ (r.wait w.slot w.resource).1 = some w.session

namespace Held

variable {ws : List Wait} {i : Nat} {session : SessionId}

/-- One more lock is taken. -/
lemma take {timer : Option TimerId} (h : r.Held ws) (hfree : (r.wait id i).1 = none)
    (hwait : ∀ id' j, r'.wait id' j =
      if id' = id ∧ j = i then (some session, timer) else r.wait id' j) :
    (∀ w ∈ ws, ¬ (w.slot = id ∧ w.resource = i)) ∧ r'.Held (⟨id, i, session⟩ :: ws) := by
  have hnew : ∀ w ∈ ws, ¬ (w.slot = id ∧ w.resource = i) := by
    rintro w hw ⟨rfl, rfl⟩
    rw [h.mem, hfree] at hw
    cases hw
  refine ⟨hnew, h.nodup.cons fun hw => hnew _ hw ⟨rfl, rfl⟩, ?_⟩
  rintro ⟨id', j, session'⟩
  rw [List.mem_cons, h.mem, hwait]
  split_ifs with hplace
  · obtain ⟨rfl, rfl⟩ := hplace
    simp [hfree, eq_comm]
  · simp only [Wait.mk.injEq]
    tauto

/-- One lock is given up. -/
lemma release (h : r.Held ws) (hheld : (r.wait id i).1 = some session)
    (hwait : ∀ id' j, r'.wait id' j =
      if id' = id ∧ j = i then (none, none) else r.wait id' j) :
    ⟨id, i, session⟩ ∈ ws ∧ r'.Held (ws.erase ⟨id, i, session⟩) := by
  refine ⟨(h.mem _).mpr hheld, h.nodup.erase _, ?_⟩
  rintro ⟨id', j, session'⟩
  rw [h.nodup.mem_erase_iff, h.mem, hwait]
  split_ifs with hplace
  · obtain ⟨rfl, rfl⟩ := hplace
    simp [hheld, eq_comm]
  · simp only [ne_eq, Wait.mk.injEq]
    tauto

/-- All locks in a slot are gone. -/
lemma vacate (h : r.Held ws)
    (hwait : ∀ id' j, r'.wait id' j = if id' = id then (none, none) else r.wait id' j) :
    r'.Held (ws.filter fun w => w.slot ≠ id) := by
  refine ⟨h.nodup.filter _, ?_⟩
  intro w
  rw [List.mem_filter, h.mem, hwait, decide_eq_true_eq]
  split_ifs with hslot
  · simp [hslot]
  · simp [hslot]

/-- In a free slot nobody holds a lock. -/
lemma filter_of_free (h : r.Held ws) (hs : r.slot? id = none) :
    (ws.filter fun w => w.slot = id) = [] := by
  refine List.filter_eq_nil_iff.mpr fun w hw => ?_
  rw [decide_eq_true_eq]
  rintro rfl
  rw [h.mem, wait_of_free hs] at hw
  cases hw

/-- The sessions that hold locks in a slot are those that wait for something in it. -/
lemma holders_perm (h : r.Held ws) (hs : r.slot? id = some s) :
    s.holders.Perm ((ws.filter fun w => w.slot = id).map Wait.session) := by
  have hwaits : ((s.waiting fun _ => true).map fun p => (⟨id, p.1, p.2⟩ : Wait)).Perm
      (ws.filter fun w => w.slot = id) := by
    -- both lists are free of repetition, so having the same members makes them permutations
    refine (List.perm_ext_iff_of_nodup ?_ (h.nodup.filter _)).mpr ?_
    · refine (Slot.nodup_waiting s _).map ?_
      rintro ⟨i, session⟩ ⟨j, session'⟩ heq
      cases heq
      rfl
    · rintro ⟨id', i, session⟩
      rw [List.mem_filter, h.mem, decide_eq_true_eq, List.mem_map]
      constructor
      · rintro ⟨⟨i, session⟩, hwaiting, heq⟩
        cases heq
        obtain ⟨res, hres, _, hlock⟩ := Slot.mem_waiting.mp hwaiting
        rw [wait_of_slot? hs, Slot.wait_of_resource? hres]
        exact ⟨hlock, rfl⟩
      · rintro ⟨hwait, rfl⟩
        rw [wait_of_slot? hs] at hwait
        obtain ⟨res, hres, hlock⟩ := Option.bind_eq_some_iff.mp hwait
        exact ⟨(i, session), Slot.mem_waiting.mpr ⟨res, hres, rfl, hlock⟩, rfl⟩
  have hsessions := hwaits.map Wait.session
  rw [List.map_map] at hsessions
  rw [Slot.holders_eq]
  exact hsessions

end Held

end Registry

end BoardLink
