import BoardLink.Proofs.Registry.Places

/-!
# Who is in which slot

A slot in use has a driver, or none while the driver is away or if it was never found, and the name
under which this driver was asked for. Only fresh instances and the comings and goings of drivers
change that.
-/

namespace BoardLink.Registry

variable {D : Type} {r r' r'' : Registry D} {id id' : SlotId} {s s' : Slot D} {name : String}
  {driver : D} {generation : UInt32}

/-- The name under which the driver of a slot was asked for, and the driver, if the slot is in use. -/
def occupant? (r : Registry D) (id : SlotId) : Option (String × Option D) :=
  (r.slot? id).map fun s => (s.driverName, s.driver)

lemma occupant?_of_slot? (h : r.slot? id = some s) : r.occupant? id = some (s.driverName, s.driver) := by
  rw [occupant?, h, Option.map_some]

lemma exists_of_occupant? {held : Option D} (h : r.occupant? id = some (name, held)) :
    ∃ s, r.slot? id = some s ∧ s.driverName = name ∧ s.driver = held := by
  obtain ⟨s, hs, heq⟩ := Option.map_eq_some_iff.mp h
  cases heq
  exact ⟨s, hs, rfl, rfl⟩

lemma Updated.occupant? (h : Updated r id s' r') (id' : SlotId) :
    r'.occupant? id' = if id' = id then some (s'.driverName, s'.driver) else r.occupant? id' := by
  rw [Registry.occupant?, h.slot?]
  split_ifs
  · rfl
  · rfl

/-! ### Edits that leave everybody in place -/

/-- The same drivers are in the same slots, under the same names. -/
def SameOccupants (r r' : Registry D) : Prop := ∀ id, r'.occupant? id = r.occupant? id

lemma SameOccupants.refl (r : Registry D) : SameOccupants r r := fun _ => rfl

lemma SameOccupants.trans (h : SameOccupants r r') (h' : SameOccupants r' r'') :
    SameOccupants r r'' := fun id => (h' id).trans (h id)

lemma SameOccupants.hires {new : D → Prop} (h : SameOccupants r r') : Hires new r r' := by
  intro id s d hs hd
  have hoccupant := (h id).symm.trans (occupant?_of_slot? hs)
  obtain ⟨s', hs', _, hdriver⟩ := exists_of_occupant? hoccupant
  exact .inl ⟨s', hs', hdriver.trans hd⟩

lemma Unchanged.sameOccupants (h : Unchanged r r') : SameOccupants r r' := by
  intro id
  rw [occupant?, h.slot?, occupant?]

lemma Updated.sameOccupants (h : Updated r id s' r') (hs : r.slot? id = some s)
    (hname : s'.driverName = s.driverName) (hdriver : s'.driver = s.driver) :
    SameOccupants r r' := by
  intro id'
  rw [h.occupant?]
  split_ifs with hid
  · rw [hid, occupant?_of_slot? hs, hname, hdriver]
  · rfl

lemma sameOccupants_setResource (r : Registry D) (id : SlotId) (i : Nat) (res : Resource) :
    SameOccupants r (r.setResource id i res) := by
  cases hs : r.slot? id with
  | none =>
    simp only [setResource, hs]
    exact .refl r
  | some s => exact (updated_setResource hs i res).sameOccupants hs rfl rfl

lemma sameOccupants_releaseCore (r : Registry D) (c : CoreId) (id : SlotId) :
    SameOccupants r (r.releaseCore c id).2 := by
  rcases releaseCore_cases r c id with hunchanged | ⟨s, hs, hupdated⟩
  · exact hunchanged.sameOccupants
  · exact hupdated.sameOccupants hs rfl rfl

lemma sameOccupants_bindCore {c : CoreId} (h : r.bindCore c id = .ok r') : SameOccupants r r' := by
  rcases bindCore_cases h with rfl | ⟨s, hs, hupdated⟩
  · exact .refl r'
  · exact hupdated.sameOccupants hs rfl rfl

/-- A command that fills no place and brings no driver leaves everybody in place. -/
lemma sameOccupants_perform {c : Command D} {a : Answer} (h : r.perform c = .ok (a, r'))
    (hfills : c.fills = false) (hdriver : ∀ id d, c ≠ .setDriver id d) : SameOccupants r r' := by
  rcases perform_cases h with ⟨hc, _⟩ | hunchanged | ⟨id, s, s', hs, hedit, hupdated⟩
  · rw [hfills] at hc
    cases hc
  · exact hunchanged.sameOccupants
  · cases hedit with
    | setDriver id d => exact absurd rfl (hdriver id d)
    | _ => exact hupdated.sameOccupants hs rfl rfl

/-! ### Comings and goings -/

lemma occupant?_install (h : r.install id name = .ok r') (id' : SlotId) :
    r'.occupant? id' = if id' = id then some (name, none) else r.occupant? id' :=
  (updated_install h).occupant? id'

lemma occupant?_setDriver (h : r.setDriver id driver = .ok r') :
    ∃ name held, r.occupant? id = some (name, held) ∧
      ∀ id', r'.occupant? id' = if id' = id then some (name, some driver) else r.occupant? id' := by
  obtain ⟨s, hs, hupdated⟩ := setDriver_cases h
  exact ⟨_, _, occupant?_of_slot? hs, hupdated.occupant?⟩

lemma occupant?_takeDriver (h : r.takeDriver id = some (driver, generation, r')) :
    ∃ name, r.occupant? id = some (name, some driver) ∧
      ∀ id', r'.occupant? id' = if id' = id then some (name, none) else r.occupant? id' := by
  obtain ⟨s, hs, hdriver, hupdated⟩ := takeDriver_cases h
  exact ⟨_, by rw [occupant?_of_slot? hs, hdriver], hupdated.occupant?⟩

/-- A driver comes back to its slot if the slot is in the same generation and without a driver. -/
lemma occupant?_restoreDriver (hgeneration : r.generation? id = some generation)
    (hoccupant : r.occupant? id = some (name, none)) (driver : D) (id' : SlotId) :
    (r.restoreDriver id driver generation).occupant? id' =
      if id' = id then some (name, some driver) else r.occupant? id' := by
  obtain ⟨s, hs, rfl, hdriver⟩ := exists_of_occupant? hoccupant
  obtain ⟨g, hplace⟩ := place_of_slot? hs
  have hg : g = generation := by
    rw [generation?, hplace, Option.map_some] at hgeneration
    exact Option.some.inj hgeneration
  have hback : r.restoreDriver id driver generation = r.setSlot id { s with driver := some driver } := by
    simp only [restoreDriver, hplace]
    rw [if_pos ⟨hg, by simp [Slot.hasDriver, hdriver]⟩]
  rw [hback]
  exact (updated_setSlot hs _).occupant? id'

/-- A driver is dropped if its slot is in another generation. -/
lemma restoreDriver_of_generation_ne (h : r.generation? id ≠ some generation) (driver : D) :
    r.restoreDriver id driver generation = r := by
  by_contra hne
  exact h (generation?_of_restoreDriver hne)

end BoardLink.Registry
