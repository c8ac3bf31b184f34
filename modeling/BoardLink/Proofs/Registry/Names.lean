import BoardLink.Proofs.Registry.Slots

/-!
# Under which names drivers were asked for

A slot keeps the name of its driver until a fresh instance takes its place.
-/

namespace BoardLink.Registry

variable {D : Type} {r r' r'' : Registry D} {id : SlotId} {s s' : Slot D}

/-- The name under which the driver of a slot was asked for, if the slot is in use. -/
def driverName? (r : Registry D) (id : SlotId) : Option String := (r.slot? id).map Slot.driverName

/-- The same slots are in use, under the same names. -/
def SameNames (r r' : Registry D) : Prop := ∀ id, r'.driverName? id = r.driverName? id

lemma SameNames.refl (r : Registry D) : SameNames r r := fun _ => rfl

lemma SameNames.trans (h : SameNames r r') (h' : SameNames r' r'') : SameNames r r'' :=
  fun id => (h' id).trans (h id)

lemma Unchanged.sameNames (h : Unchanged r r') : SameNames r r' := fun id => by
  rw [driverName?, h.slot?, driverName?]

/-- A slot of the same name instead of the one in use. -/
lemma Updated.sameNames (h : Updated r id s' r') (hs : r.slot? id = some s)
    (hname : s'.driverName = s.driverName) : SameNames r r' := by
  intro id'
  rw [driverName?, h.slot?, driverName?]
  split_ifs with hid
  · rw [hid, hs, Option.map_some, Option.map_some, hname]
  · rfl

/-- A fresh instance has the name under which it was asked for. -/
lemma driverName?_install {name : String} (h : r.install id name = .ok r') (id' : SlotId) :
    r'.driverName? id' = if id' = id then some name else r.driverName? id' := by
  rw [driverName?, (updated_install h).slot?]
  split_ifs
  · rfl
  · rfl

/-- There is a place for a slot whose number is small enough. -/
lemma maxSlots_le_of_install_error {name : String} {e : RegistryError}
    (h : r.install id name = .error e) : r.maxSlots ≤ id.toNat := by
  simp only [install] at h
  split at h
  · exact Array.getElem?_eq_none_iff.mp ‹_›
  · cases h

lemma sameNames_setResource (r : Registry D) (id : SlotId) (i : Nat) (res : Resource) :
    SameNames r (r.setResource id i res) := by
  cases hs : r.slot? id with
  | none =>
    simp only [setResource, hs]
    exact .refl r
  | some s => exact (updated_setResource hs i res).sameNames hs rfl

lemma sameNames_releaseCore (r : Registry D) (c : CoreId) (id : SlotId) :
    SameNames r (r.releaseCore c id).2 := by
  rcases releaseCore_cases r c id with hunchanged | ⟨s, hs, hupdated⟩
  · exact hunchanged.sameNames
  · exact hupdated.sameNames hs rfl

lemma sameNames_bindCore {c : CoreId} (h : r.bindCore c id = .ok r') : SameNames r r' := by
  rcases bindCore_cases h with rfl | ⟨s, hs, hupdated⟩
  · exact .refl r'
  · exact hupdated.sameNames hs rfl

lemma sameNames_setDriver {driver : D} (h : r.setDriver id driver = .ok r') : SameNames r r' := by
  obtain ⟨s, hs, hupdated⟩ := setDriver_cases h
  exact hupdated.sameNames hs rfl

/-- Only commands that fill a place change names. -/
lemma sameNames_perform {c : Command D} {a : Answer} (h : r.perform c = .ok (a, r'))
    (hc : c.fills = false) : SameNames r r' := by
  rcases perform_cases h with ⟨hfills, _⟩ | hunchanged | ⟨id, s, s', hs, hedit, hupdated⟩
  · rw [hc] at hfills
    cases hfills
  · exact hunchanged.sameNames
  · apply hupdated.sameNames hs
    cases hedit <;> rfl

end BoardLink.Registry
