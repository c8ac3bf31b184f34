import BoardLink.Proofs.Registry.Slots

/-!
# Places and their generations

The generation of a place counts the slots that were put there. Whatever else is done to a registry,
the same slots stay in use, in the same generations.
-/

namespace BoardLink.Registry

variable {D : Type} {r r' r'' : Registry D} {id id' : SlotId} {s s' : Slot D}

/-! ### Generations after writing -/

@[simp] lemma generation?_setCore (r : Registry D) (c : CoreId) (core : Core) (id : SlotId) :
    (r.setCore c core).generation? id = r.generation? id := rfl

@[simp] lemma generation?_setCoreSlot (r : Registry D) (c : CoreId) (slot : Option SlotId)
    (id : SlotId) : (r.setCoreSlot c slot).generation? id = r.generation? id := rfl

@[simp] lemma generation?_setSlot (r : Registry D) (id : SlotId) (s : Slot D) (id' : SlotId) :
    (r.setSlot id s).generation? id' = r.generation? id' := by
  simp only [generation?, setSlot, Array.getElem?_modify]
  split_ifs
  · simp [Function.comp_def]
  · rfl

@[simp] lemma generation?_setResource (r : Registry D) (id : SlotId) (i : Nat) (res : Resource)
    (id' : SlotId) : (r.setResource id i res).generation? id' = r.generation? id' := by
  simp only [setResource]
  split
  · exact generation?_setSlot r id _ id'
  · rfl

@[simp] lemma generation?_releaseCore (r : Registry D) (c : CoreId) (id id' : SlotId) :
    (r.releaseCore c id).2.generation? id' = r.generation? id' := by
  simp only [releaseCore]
  split_ifs
  · split
    · exact generation?_setSlot (r.setCoreSlot c none) id _ id'
    · rfl
  · rfl

@[simp] lemma generation?_restoreDriver (r : Registry D) (id : SlotId) (driver : D)
    (generation : UInt32) (id' : SlotId) :
    (r.restoreDriver id driver generation).generation? id' = r.generation? id' := by
  simp only [restoreDriver]
  split
  · split_ifs
    · exact generation?_setSlot r id _ id'
    · rfl
  · rfl

lemma generation?_bindCore {c : CoreId} (h : r.bindCore c id = .ok r') (id' : SlotId) :
    r'.generation? id' = r.generation? id' := by
  simp only [bindCore] at h
  split at h
  · split_ifs at h
    cases h
    rfl
  · split at h
    · cases h
    · cases h
      exact generation?_setSlot r id _ id'

lemma generation?_setDriver {driver : D} (h : r.setDriver id driver = .ok r') (id' : SlotId) :
    r'.generation? id' = r.generation? id' := by
  obtain ⟨s, _, rfl⟩ := except_map_eq_ok.mp h
  exact generation?_setSlot r id _ id'

/-- A driver is taken out of its slot in the generation of that slot. -/
lemma generation?_takeDriver {driver : D} {generation : UInt32}
    (h : r.takeDriver id = some (driver, generation, r')) :
    r.generation? id = some generation ∧ ∀ id', r'.generation? id' = r.generation? id' := by
  simp only [takeDriver] at h
  split at h
  · rename_i g s hplace
    split at h
    · cases h
      refine ⟨?_, generation?_setSlot r id _⟩
      simp only [generation?, hplace, Option.map_some]
    · cases h
  · cases h

/-- A driver comes back to its slot only in the generation in which it was taken out. -/
lemma generation?_of_restoreDriver {driver : D} {generation : UInt32}
    (h : r.restoreDriver id driver generation ≠ r) : r.generation? id = some generation := by
  simp only [restoreDriver] at h
  split at h
  · rename_i g s hplace
    split_ifs at h with hcurrent
    · simp only [generation?, hplace, Option.map_some, hcurrent.1]
    · exact absurd rfl h
  · exact absurd rfl h

/-- At first every place is in the same generation. -/
lemma generation?_empty {maxSlots maxResources : Nat} {generation : UInt32}
    (h : (empty maxSlots maxResources : Registry D).generation? id = some generation) :
    generation = 0 := by
  simp only [generation?, empty, Array.getElem?_replicate] at h
  split_ifs at h
  · cases h
    rfl
  · cases h

/-- A fresh instance moves the generation of its place on. -/
lemma generation?_install {name : String} (h : r.install id name = .ok r') (id' : SlotId) :
    r'.generation? id' =
      if id' = id then (r.generation? id').map (· + 1) else r.generation? id' := by
  have hmodify (r : Registry D) : { r with
      places := r.places.modify id.toNat fun p =>
        { generation := p.generation + 1, slot := some (.fresh id name r.maxResources) } }.generation?
          id' = if id' = id then (r.generation? id').map (· + 1) else r.generation? id' := by
    simp only [generation?, Array.getElem?_modify]
    by_cases hid : id' = id
    · rw [if_pos (congrArg _ hid.symm), if_pos hid, Option.map_map, Option.map_map]
      rfl
    · rw [if_neg fun heq => hid (toNat_inj.mp heq).symm, if_neg hid]
  simp only [install] at h
  split at h
  · cases h
  · cases h
    split
    · exact hmodify (r.setCoreSlot _ none)
    · exact hmodify r

/-! ### The same slots in use -/

/-- The same slots are in use, in the same generations. -/
structure SamePlaces (r r' : Registry D) : Prop where
  maxSlots : r'.maxSlots = r.maxSlots
  generation? : ∀ id, r'.generation? id = r.generation? id
  isSome_slot? : ∀ id, (r'.slot? id).isSome = (r.slot? id).isSome

lemma SamePlaces.refl (r : Registry D) : SamePlaces r r := ⟨rfl, fun _ => rfl, fun _ => rfl⟩

lemma SamePlaces.trans (h : SamePlaces r r') (h' : SamePlaces r' r'') : SamePlaces r r'' where
  maxSlots := h'.maxSlots.trans h.maxSlots
  generation? id := (h'.generation? id).trans (h.generation? id)
  isSome_slot? id := (h'.isSome_slot? id).trans (h.isSome_slot? id)

lemma Unchanged.samePlaces (h : Unchanged r r')
    (hgeneration : ∀ id, r'.generation? id = r.generation? id) : SamePlaces r r' :=
  ⟨h.maxSlots, hgeneration, fun id => by rw [h.slot?]⟩

/-- Something else in a slot in use. -/
lemma Updated.samePlaces (h : Updated r id s' r') (hs : r.slot? id = some s)
    (hgeneration : ∀ id, r'.generation? id = r.generation? id) : SamePlaces r r' := by
  refine ⟨h.maxSlots, hgeneration, fun id' => ?_⟩
  rw [h.slot?]
  split_ifs with hid
  · rw [hid, hs, Option.isSome_some, Option.isSome_some]
  · rfl

lemma samePlaces_setResource (r : Registry D) (id : SlotId) (i : Nat) (res : Resource) :
    SamePlaces r (r.setResource id i res) := by
  cases hs : r.slot? id with
  | none =>
    simp only [setResource, hs]
    exact .refl r
  | some s => exact (updated_setResource hs i res).samePlaces hs (generation?_setResource r id i res)

lemma samePlaces_releaseCore (r : Registry D) (c : CoreId) (id : SlotId) :
    SamePlaces r (r.releaseCore c id).2 := by
  have hgeneration := generation?_releaseCore r c id
  rcases releaseCore_cases r c id with hunchanged | ⟨s, hs, hupdated⟩
  · exact hunchanged.samePlaces hgeneration
  · exact hupdated.samePlaces hs hgeneration

lemma samePlaces_setDriver {driver : D} (h : r.setDriver id driver = .ok r') : SamePlaces r r' := by
  obtain ⟨s, hs, hupdated⟩ := setDriver_cases h
  exact hupdated.samePlaces hs (generation?_setDriver h)

lemma samePlaces_takeDriver {driver : D} {generation : UInt32}
    (h : r.takeDriver id = some (driver, generation, r')) : SamePlaces r r' := by
  obtain ⟨s, hs, _, hupdated⟩ := takeDriver_cases h
  exact hupdated.samePlaces hs (generation?_takeDriver h).2

lemma samePlaces_restoreDriver (r : Registry D) (id : SlotId) (driver : D) (generation : UInt32) :
    SamePlaces r (r.restoreDriver id driver generation) := by
  rcases restoreDriver_cases r id driver generation with heq | ⟨s, hs, _, hupdated⟩
  · rw [heq]
    exact .refl r
  · exact hupdated.samePlaces hs (generation?_restoreDriver r id driver generation)

private lemma generation?_onResource {i : Nat} {a : Answer}
    {f : Resource → Except RegistryError (Answer × Resource)}
    (h : r.onResource id i f = .ok (a, r')) (id' : SlotId) :
    r'.generation? id' = r.generation? id' := by
  obtain ⟨s, _, h⟩ := except_bind_eq_ok.mp h
  split at h
  · cases h
    rfl
  · obtain ⟨_, _, h⟩ := except_bind_eq_ok.mp h
    cases h
    exact generation?_setSlot r id _ id'

/-- Only commands that fill a place move generations on. -/
private lemma generation?_perform {c : Command D} {a : Answer} (h : r.perform c = .ok (a, r'))
    (hc : c.fills = false) (id' : SlotId) : r'.generation? id' = r.generation? id' := by
  cases c with
  | allocate | install => cases hc
  | bind c id =>
    obtain ⟨r₁, hbind, h⟩ := except_map_eq_ok.mp h
    cases h
    exact generation?_bindCore hbind id'
  | release c id =>
    cases h
    exact generation?_releaseCore r c id id'
  | setDriver id driver =>
    obtain ⟨r₁, hdriver, h⟩ := except_map_eq_ok.mp h
    cases h
    exact generation?_setDriver hdriver id'
  | addResource id resource =>
    obtain ⟨_, _, h⟩ := except_bind_eq_ok.mp h
    obtain ⟨_, _, h⟩ := except_bind_eq_ok.mp h
    cases h
    exact generation?_setSlot r id _ id'
  | identity id name description =>
    obtain ⟨_, _, h⟩ := except_bind_eq_ok.mp h
    cases h
    exact generation?_setSlot r id _ id'
  | lock | unlock | subscribe | unsubscribe => exact generation?_onResource h id'
  | _ =>
    cases h
    rfl

/-- Only commands that fill a place change which slots are in use. -/
lemma samePlaces_perform {c : Command D} {a : Answer} (h : r.perform c = .ok (a, r'))
    (hc : c.fills = false) : SamePlaces r r' := by
  have hgeneration := generation?_perform h hc
  rcases perform_cases h with ⟨hfills, _⟩ | hunchanged | ⟨id, s, s', hs, hedit, hupdated⟩
  · rw [hc] at hfills
    cases hfills
  · exact hunchanged.samePlaces hgeneration
  · exact hupdated.samePlaces hs hgeneration

/-! ### Slots in use -/

/-- Whatever slot is in use stays in use. -/
def StayInUse (r r' : Registry D) : Prop := ∀ id, (r.slot? id).isSome → (r'.slot? id).isSome

lemma StayInUse.refl (r : Registry D) : StayInUse r r := fun _ => id

lemma StayInUse.trans (h : StayInUse r r') (h' : StayInUse r' r'') : StayInUse r r'' :=
  fun id hid => h' id (h id hid)

lemma SamePlaces.stayInUse (h : SamePlaces r r') : StayInUse r r' :=
  fun id hid => (h.isSome_slot? id).trans hid

lemma stayInUse_install {name : String} (h : r.install id name = .ok r') : StayInUse r r' := by
  intro id' hid'
  rw [(updated_install h).slot?]
  split_ifs
  · rfl
  · exact hid'

/-- Where the numbers of slots tell all places apart, a slot is allocated in a free place. -/
lemma slot?_of_allocate {name : String} (hpool : r.maxSlots ≤ 65536)
    (h : r.allocate name = .ok (id, r')) : r.slot? id = none := by
  simp only [allocate] at h
  split at h
  · cases h
  · rename_i i hfree
    obtain ⟨_, _, h⟩ := except_map_eq_ok.mp h
    cases h
    obtain ⟨hi, hfree, _⟩ := Array.findIdx?_eq_some_iff_getElem.mp hfree
    have hid : (SlotId.ofNat i).toNat = i := Nat.mod_eq_of_lt (Nat.lt_of_lt_of_le hi hpool)
    simp only [slot?, hid, Array.getElem?_eq_getElem hi]
    exact Option.isNone_iff_eq_none.mp hfree

end BoardLink.Registry
