import Mathlib.Tactic.Common
import BoardLink.Proofs.Except
import BoardLink.Registry.Command

/-!
# Slots under the operations of the registry

Each operation of the registry leaves the slots alone, changes what is in one slot in use, or puts a
fresh instance into one place.
-/

namespace BoardLink

/-- A resource that is added comes last. -/
lemma Slot.eq_of_addResource {D : Type} {s s' : Slot D} {res : Resource} {i : Nat}
    (h : s.addResource res = .ok (i, s')) : s' = { s with resources := s.resources ++ [res] } := by
  simp only [addResource] at h
  split_ifs at h
  cases h
  rfl

namespace Registry

variable {D : Type} {r r' : Registry D} {id id' : SlotId} {s s' : Slot D}

/-! ### Reading after writing -/

lemma toNat_inj : id.toNat = id'.toNat ↔ id = id' := by
  constructor
  · intro h
    cases id
    cases id'
    exact congrArg SlotId.mk (UInt16.toNat_inj.mp h)
  · rintro rfl
    rfl

lemma place_of_slot? (h : r.slot? id = some s) : ∃ g, r.places[id.toNat]? = some ⟨g, some s⟩ := by
  simp only [slot?] at h
  split at h
  · rename_i place hplace
    obtain ⟨g, slot⟩ := place
    exact ⟨g, h ▸ hplace⟩
  · cases h

lemma mem_slots_of_slot? (h : r.slot? id = some s) : s ∈ r.slots := by
  obtain ⟨g, hplace⟩ := place_of_slot? h
  exact List.mem_filterMap.mpr ⟨_, Array.mem_toList_iff.mpr (Array.mem_of_getElem? hplace), rfl⟩

/-- At first no slot is in use. -/
lemma slot?_empty (maxSlots maxResources : Nat) (id : SlotId) :
    (empty maxSlots maxResources : Registry D).slot? id = none := by
  simp only [slot?, empty]
  split
  · rename_i place hplace
    rw [Array.getElem?_replicate] at hplace
    split_ifs at hplace
    cases hplace
    rfl
  · rfl

/-- The places hold the same slots but for one, which now holds `s`. -/
structure Updated (r : Registry D) (id : SlotId) (s : Slot D) (r' : Registry D) : Prop where
  maxSlots : r'.maxSlots = r.maxSlots
  slot? : ∀ id', r'.slot? id' = if id' = id then some s else r.slot? id'

/-- All places hold the same slots. -/
structure Unchanged (r r' : Registry D) : Prop where
  maxSlots : r'.maxSlots = r.maxSlots
  slot? : ∀ id, r'.slot? id = r.slot? id

lemma Unchanged.refl (r : Registry D) : Unchanged r r := ⟨rfl, fun _ => rfl⟩

lemma unchanged_setCore (r : Registry D) (c : CoreId) (core : Core) :
    Unchanged r (r.setCore c core) := ⟨rfl, fun _ => rfl⟩

lemma Updated.unchanged {r'' : Registry D} (h : Updated r id s r') (h' : Unchanged r' r'') :
    Updated r id s r'' where
  maxSlots := h'.maxSlots.trans h.maxSlots
  slot? id' := (h'.slot? id').trans (h.slot? id')

/-- A slot that is free after an edit was free before. -/
lemma Updated.slot?_eq_none (h : Updated r id s r') (hnone : r'.slot? id' = none) :
    r.slot? id' = none := by
  rw [h.slot?] at hnone
  split_ifs at hnone
  exact hnone

lemma Unchanged.updated {r'' : Registry D} (h : Unchanged r r') (h' : Updated r' id s r'') :
    Updated r id s r'' where
  maxSlots := h'.maxSlots.trans h.maxSlots
  slot? id' := by rw [h'.slot?, h.slot?]

private lemma slot?_modify (r : Registry D) (f : Place D → Place D) (id id' : SlotId) :
    { r with places := r.places.modify id.toNat f }.slot? id' =
      if id' = id then (r.places[id.toNat]?.map f).bind Place.slot else r.slot? id' := by
  simp only [slot?, Array.getElem?_modify]
  by_cases hid : id' = id
  · rw [if_pos hid, if_pos (congrArg _ hid.symm), hid]
    cases r.places[id.toNat]? <;> rfl
  · rw [if_neg hid, if_neg fun h => hid (toNat_inj.mp h).symm]

lemma updated_setSlot (h : r.slot? id = some s) (s' : Slot D) : Updated r id s' (r.setSlot id s') where
  maxSlots := Array.size_modify ..
  slot? id' := by
    obtain ⟨g, hplace⟩ := place_of_slot? h
    rw [setSlot, slot?_modify, hplace]
    rfl

lemma updated_setResource (h : r.slot? id = some s) (i : Nat) (res : Resource) :
    Updated r id (s.setResource i res) (r.setResource id i res) := by
  simp only [setResource, h]
  exact updated_setSlot h _

/-- A fresh instance takes the place of whatever was there. -/
lemma updated_install {name : String} (h : r.install id name = .ok r') :
    Updated r id (.fresh id name r.maxResources) r' := by
  simp only [install] at h
  split at h
  · cases h
  · rename_i place hplace
    cases h
    -- the core of the instance before is freed first, which is nothing to the slots
    split
    · refine (unchanged_setCore r _ _).updated ⟨Array.size_modify .., ?_⟩
      intro id'
      have hplaces (c : CoreId) : (r.setCoreSlot c none).places = r.places := rfl
      rw [slot?_modify, hplaces, hplace]
      rfl
    · refine ⟨Array.size_modify .., ?_⟩
      intro id'
      rw [slot?_modify, hplace]
      rfl

lemma install_of_allocate {name : String} (h : r.allocate name = .ok (id, r')) :
    r.install id name = .ok r' := by
  simp only [allocate] at h
  split at h
  · cases h
  · obtain ⟨_, hinstall, h⟩ := except_map_eq_ok.mp h
    cases h
    exact hinstall

/-- Only where there is no place nothing can be installed. -/
lemma slot?_of_install_error {name : String} {e : RegistryError} (h : r.install id name = .error e) :
    r.slot? id = none := by
  simp only [install] at h
  split at h
  · rename_i hplace
    simp only [slot?, hplace]
  · cases h

lemma slot?_of_getSlot (h : r.getSlot id = .ok s) : r.slot? id = some s := by
  simp only [getSlot] at h
  split at h
  · cases h
    assumption
  · cases h

/-! ### Edits of one slot -/

/-- The same slot with another core or none. -/
lemma bindCore_cases {c : CoreId} (h : r.bindCore c id = .ok r') :
    r' = r ∨ ∃ s, r.slot? id = some s ∧ Updated r id { s with core := some c } r' := by
  simp only [bindCore] at h
  split at h
  · split_ifs at h
    cases h
    exact .inl rfl
  · split at h
    · cases h
    · rename_i s hs
      cases h
      exact .inr ⟨s, hs, (updated_setSlot hs _).unchanged (unchanged_setCore _ _ _)⟩

lemma releaseCore_cases (r : Registry D) (c : CoreId) (id : SlotId) :
    Unchanged r (r.releaseCore c id).2 ∨
      ∃ s, r.slot? id = some s ∧ Updated r id { s with core := none } (r.releaseCore c id).2 := by
  simp only [releaseCore]
  split_ifs
  · have hcore := unchanged_setCore r c { r.core c with slot := none }
    split
    · rename_i s hs
      exact .inr ⟨s, (hcore.slot? id).symm.trans hs, hcore.updated (updated_setSlot hs _)⟩
    · exact .inl hcore
  · exact .inl (.refl r)

lemma setDriver_cases {driver : D} (h : r.setDriver id driver = .ok r') :
    ∃ s, r.slot? id = some s ∧ Updated r id { s with driver := some driver } r' := by
  obtain ⟨s, hs, rfl⟩ := except_map_eq_ok.mp h
  exact ⟨s, slot?_of_getSlot hs, updated_setSlot (slot?_of_getSlot hs) _⟩

lemma takeDriver_cases {driver : D} {generation : UInt32}
    (h : r.takeDriver id = some (driver, generation, r')) :
    ∃ s, r.slot? id = some s ∧ s.driver = some driver ∧ Updated r id { s with driver := none } r' := by
  simp only [takeDriver] at h
  split at h
  · rename_i g s hplace
    have hs : r.slot? id = some s := by
      simp only [slot?, hplace]
    split at h
    · rename_i driver hdriver
      cases h
      exact ⟨s, hs, hdriver, updated_setSlot hs _⟩
    · cases h
  · cases h

lemma exists_takeDriver {driver : D} (hs : r.slot? id = some s) (hdriver : s.driver = some driver) :
    ∃ generation r', r.takeDriver id = some (driver, generation, r') := by
  obtain ⟨generation, hplace⟩ := place_of_slot? hs
  simp only [takeDriver, hplace, hdriver]
  exact ⟨_, _, rfl⟩

lemma restoreDriver_cases (r : Registry D) (id : SlotId) (driver : D) (generation : UInt32) :
    r.restoreDriver id driver generation = r ∨
      ∃ s, r.slot? id = some s ∧ s.driver = none ∧
        Updated r id { s with driver := some driver } (r.restoreDriver id driver generation) := by
  simp only [restoreDriver]
  split
  · rename_i g s hplace
    have hs : r.slot? id = some s := by
      simp only [slot?, hplace]
    split_ifs with hcurrent
    · refine .inr ⟨s, hs, ?_, updated_setSlot hs _⟩
      simpa [Slot.hasDriver] using hcurrent.2
    · exact .inl rfl
  · exact .inl rfl

/-! ### Commands -/

/-- Does the command put a fresh instance into a place? -/
def Command.fills : Command D → Bool
  | .allocate _ | .install .. => true
  | _ => false

/-- What a command that fills no place does to the slot it is about. -/
inductive Command.Edit : Command D → Slot D → Slot D → Prop
  | bind (c : CoreId) (id : SlotId) (s : Slot D) : Edit (.bind c id) s { s with core := some c }
  | release (c : CoreId) (id : SlotId) (s : Slot D) : Edit (.release c id) s { s with core := none }
  | setDriver (id : SlotId) (driver : D) (s : Slot D) :
      Edit (.setDriver id driver) s { s with driver := some driver }
  | addResource (id : SlotId) (resource : Resource) (s : Slot D) :
      Edit (.addResource id resource) s { s with resources := s.resources ++ [resource] }
  | identity (id : SlotId) (name description : String) (s : Slot D) :
      Edit (.identity id name description) s { s with name, description }
  | lock {i : Nat} (id : SlotId) (session : SessionId) {s : Slot D} {r : Resource}
      (hr : s.resource? i = some r) :
      Edit (.lock id i session) s (s.setResource i { r with lock := some session })
  | unlock {i : Nat} (id : SlotId) {s : Slot D} {r : Resource} (hr : s.resource? i = some r) :
      Edit (.unlock id i) s (s.setResource i r.unlock)
  | subscribe {i : Nat} (id : SlotId) (handle : Handle) {s : Slot D} {r r' : Resource}
      (hr : s.resource? i = some r) (hr' : r.subscribe handle = .ok r') :
      Edit (.subscribe id i handle) s (s.setResource i r')
  | unsubscribe {i : Nat} (id : SlotId) {s : Slot D} {r : Resource} (hr : s.resource? i = some r) :
      Edit (.unsubscribe id i) s (s.setResource i r.unsubscribe)

/-- A subscription changes the handle alone. -/
lemma subscribe_cases {res res' : Resource} {handle : Handle}
    (h : res.subscribe handle = .ok res') : ∃ broadcast, res' = { res with broadcast } := by
  simp only [Resource.subscribe] at h
  split_ifs at h
  all_goals
    cases h
    exact ⟨_, rfl⟩

/-- A resource of a slot in use is missing or gets another value. -/
private lemma onResource_cases {i : Nat} {f : Resource → Except RegistryError (Answer × Resource)}
    {a : Answer} (h : r.onResource id i f = .ok (a, r')) :
    Unchanged r r' ∨ ∃ s res res', r.slot? id = some s ∧ s.resource? i = some res ∧
      f res = .ok (a, res') ∧ Updated r id (s.setResource i res') r' := by
  obtain ⟨s, hs, h⟩ := except_bind_eq_ok.mp h
  have hs := slot?_of_getSlot hs
  split at h
  · cases h
    exact .inl (.refl r)
  · rename_i res hres
    obtain ⟨⟨a', res'⟩, hf, h⟩ := except_bind_eq_ok.mp h
    cases h
    exact .inr ⟨s, res, res', hs, hres, hf, updated_setSlot hs _⟩

/-- A command fills a place, leaves all slots alone or edits one. -/
lemma perform_cases {c : Command D} {a : Answer} (h : r.perform c = .ok (a, r')) :
    (c.fills ∧ ∃ id name, r.install id name = .ok r') ∨ Unchanged r r' ∨
      ∃ id s s', r.slot? id = some s ∧ c.Edit s s' ∧ Updated r id s' r' := by
  cases c with
  | allocate name =>
    obtain ⟨⟨id, r₁⟩, halloc, h⟩ := except_map_eq_ok.mp h
    cases h
    exact .inl ⟨rfl, _, _, install_of_allocate halloc⟩
  | install id name =>
    obtain ⟨r₁, hinstall, h⟩ := except_map_eq_ok.mp h
    cases h
    exact .inl ⟨rfl, id, name, hinstall⟩
  | bind c id =>
    obtain ⟨r₁, hbind, h⟩ := except_map_eq_ok.mp h
    cases h
    rcases bindCore_cases hbind with rfl | ⟨s, hs, hupdated⟩
    · exact .inr (.inl (.refl _))
    · exact .inr (.inr ⟨id, s, _, hs, .bind c id s, hupdated⟩)
  | release c id =>
    have hcases := releaseCore_cases r c id
    cases h
    rcases hcases with hunchanged | ⟨s, hs, hupdated⟩
    · exact .inr (.inl hunchanged)
    · exact .inr (.inr ⟨id, s, _, hs, .release c id s, hupdated⟩)
  | setDriverId c number =>
    cases h
    exact .inr (.inl (unchanged_setCore r c _))
  | setDriver id driver =>
    obtain ⟨r₁, hdriver, h⟩ := except_map_eq_ok.mp h
    cases h
    obtain ⟨s, hs, hupdated⟩ := setDriver_cases hdriver
    exact .inr (.inr ⟨id, s, _, hs, .setDriver id driver s, hupdated⟩)
  | addResource id resource =>
    obtain ⟨s, hs, h⟩ := except_bind_eq_ok.mp h
    obtain ⟨⟨i, s'⟩, hadd, h⟩ := except_bind_eq_ok.mp h
    cases h
    have hs := slot?_of_getSlot hs
    obtain rfl := Slot.eq_of_addResource hadd
    exact .inr (.inr ⟨id, s, _, hs, .addResource id resource s, updated_setSlot hs _⟩)
  | identity id name description =>
    obtain ⟨s, hs, h⟩ := except_bind_eq_ok.mp h
    cases h
    have hs := slot?_of_getSlot hs
    exact .inr (.inr ⟨id, s, _, hs, .identity id name description s, updated_setSlot hs _⟩)
  | lock id i session =>
    rcases onResource_cases h with hunchanged | ⟨s, res, res', hs, hres, hf, hupdated⟩
    · exact .inr (.inl hunchanged)
    · obtain ⟨res'', hlock, hf⟩ := except_bind_eq_ok.mp hf
      cases hf
      simp only [Resource.tryLock] at hlock
      split at hlock
      · cases hlock
      · cases hlock
        exact .inr (.inr ⟨id, s, _, hs, .lock id session hres, hupdated⟩)
  | unlock id i =>
    rcases onResource_cases h with hunchanged | ⟨s, res, res', hs, hres, hf, hupdated⟩
    · exact .inr (.inl hunchanged)
    · cases hf
      exact .inr (.inr ⟨id, s, _, hs, .unlock id hres, hupdated⟩)
  | subscribe id i handle =>
    rcases onResource_cases h with hunchanged | ⟨s, res, res', hs, hres, hf, hupdated⟩
    · exact .inr (.inl hunchanged)
    · obtain ⟨res'', hsubscribe, hf⟩ := except_bind_eq_ok.mp hf
      cases hf
      exact .inr (.inr ⟨id, s, _, hs, .subscribe id handle hres hsubscribe, hupdated⟩)
  | unsubscribe id i =>
    rcases onResource_cases h with hunchanged | ⟨s, res, res', hs, hres, hf, hupdated⟩
    · exact .inr (.inl hunchanged)
    · cases hf
      exact .inr (.inr ⟨id, s, _, hs, .unsubscribe id hres, hupdated⟩)
  | _ =>
    cases h
    exact .inr (.inl (.refl r))

/-- No command makes the pool larger or smaller. -/
lemma perform_maxSlots {c : Command D} {a : Answer} (h : r.perform c = .ok (a, r')) :
    r'.maxSlots = r.maxSlots := by
  rcases perform_cases h with ⟨_, id, name, hinstall⟩ | hunchanged | ⟨_, _, _, _, _, hupdated⟩
  · exact (updated_install hinstall).maxSlots
  · exact hunchanged.maxSlots
  · exact hupdated.maxSlots

/-! ### Drivers in slots -/

/-- Every driver in a slot was in that slot before or is new. -/
def Hires (new : D → Prop) (r r' : Registry D) : Prop :=
  ∀ id s d, r'.slot? id = some s → s.driver = some d →
    (∃ s, r.slot? id = some s ∧ s.driver = some d) ∨ new d

variable {new : D → Prop}

lemma Hires.trans {r'' : Registry D} (h : Hires new r r') (h' : Hires new r' r'') :
    Hires new r r'' := by
  intro id s d hs hd
  rcases h' id s d hs hd with ⟨s', hs', hd'⟩ | hnew
  · exact h id s' d hs' hd'
  · exact .inr hnew

lemma Unchanged.hires (h : Unchanged r r') : Hires new r r' := by
  intro id s d hs hd
  rw [h.slot?] at hs
  exact .inl ⟨s, hs, hd⟩

lemma Updated.hires (h : Updated r id s' r')
    (hdriver : ∀ d, s'.driver = some d → (∃ s, r.slot? id = some s ∧ s.driver = some d) ∨ new d) :
    Hires new r r' := by
  intro id' s'' d hs'' hd
  rw [h.slot?] at hs''
  split_ifs at hs'' with hid
  · cases hs''
    rw [hid]
    exact hdriver d hd
  · exact .inl ⟨s'', hs'', hd⟩

/-- An edit that leaves the driver of the slot alone. -/
lemma Updated.hires_of_driver (h : Updated r id s' r') (hs : r.slot? id = some s)
    (hdriver : s'.driver = s.driver) : Hires new r r' :=
  h.hires fun _ hd => .inl ⟨s, hs, hdriver ▸ hd⟩

lemma hires_setResource (r : Registry D) (id : SlotId) (i : Nat) (res : Resource) :
    Hires new r (r.setResource id i res) := by
  cases hs : r.slot? id with
  | none =>
    simp only [setResource, hs]
    exact (Unchanged.refl r).hires
  | some s => exact (updated_setResource hs i res).hires_of_driver hs rfl

/-- A slot without driver. -/
lemma Updated.hires_of_none (h : Updated r id s' r') (hdriver : s'.driver = none) :
    Hires new r r' :=
  h.hires fun d hd => by
    rw [hdriver] at hd
    cases hd

/-- A command brings at most the driver that it names. -/
lemma perform_hires {c : Command D} {a : Answer} (h : r.perform c = .ok (a, r'))
    (hnew : ∀ id d, c = .setDriver id d → new d) : Hires new r r' := by
  rcases perform_cases h with
      ⟨_, id, name, hinstall⟩ | hunchanged | ⟨id, s, s', hs, hedit, hupdated⟩
  · exact (updated_install hinstall).hires_of_none rfl
  · exact hunchanged.hires
  · cases hedit with
    | setDriver id' d =>
      apply hupdated.hires
      intro d' hd'
      cases hd'
      exact .inr (hnew id' d rfl)
    | _ => exact hupdated.hires_of_driver hs rfl

end Registry

end BoardLink
