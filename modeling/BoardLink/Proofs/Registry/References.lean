import BoardLink.Proofs.Registry.Bindings
import BoardLink.Proofs.Registry.Places

/-!
# Both sides of a binding

What slots say of cores and what cores say of slots go together in every registry that operations lead
to, though not as two sides of one table: a slot names one core only, also where several are bound to
it. A request that is refused leaves both sides as they are.
-/

namespace BoardLink.Registry

variable {D : Type} {r r' : Registry D} {id : SlotId} {c : CoreId}

/-! ### Slots that cores are bound to -/

/-- Every slot that a core is bound to is in use. -/
def Housed (r : Registry D) : Prop := ∀ c id, (r.core c).slot = some id → (r.slot? id).isSome

namespace Housed

lemma empty (maxSlots maxResources : Nat) :
    (Registry.empty maxSlots maxResources : Registry D).Housed := by
  intro c id hbound
  simp [Registry.core, Registry.empty] at hbound

/-- Slots stay in use, and no core comes to a slot. -/
lemma of_stay (hr : r.Housed) (hstay : StayInUse r r')
    (hbindings : ∀ c id, (r'.core c).slot = some id → (r.core c).slot = some id) : r'.Housed := by
  intro c id hbound
  exact hstay id (hr c id (hbindings c id hbound))

lemma install (hr : r.Housed) {name : String} (h : r.install id name = .ok r') : r'.Housed := by
  refine hr.of_stay (stayInUse_install h) fun c id' hbound => ?_
  rw [install_bindings h] at hbound
  split_ifs at hbound
  exact hbound

/-- The slot that a core comes to is in use, or the request is refused. -/
lemma bindCore (hr : r.Housed) (h : r.bindCore c id = .ok r') : r'.Housed := by
  rcases bindCore_bindings h with rfl | ⟨_, hbound, s, _, hupdated⟩
  · exact hr
  · intro c' id' hc'
    rw [hbound] at hc'
    rw [hupdated.slot?]
    split_ifs at hc' with hcore
    · cases hc'
      simp
    · split_ifs
      · rfl
      · exact hr c' id' hc'

lemma releaseCore (hr : r.Housed) (c : CoreId) (id : SlotId) : (r.releaseCore c id).2.Housed := by
  refine hr.of_stay (samePlaces_releaseCore r c id).stayInUse fun c' id' hbound => ?_
  rcases releaseCore_bindings r c id with heq | ⟨_, hfree, _⟩
  · rwa [heq] at hbound
  · rw [hfree] at hbound
    split_ifs at hbound
    exact hbound

/-- What happens to the driver of a slot is nothing to cores. -/
lemma of_same (hr : r.Housed) (h : SamePlaces r r') (hcores : ∀ c, r'.core c = r.core c) :
    r'.Housed := by
  refine hr.of_stay h.stayInUse fun c id hbound => ?_
  rwa [hcores] at hbound

end Housed

variable {binds : CoreId → SlotId → Prop} {maxSlots maxResources : Nat}

lemma Step.housed (h : Step binds r r') (hr : r.Housed) : r'.Housed := by
  cases h with
  | allocate h => exact hr.install (install_of_allocate h)
  | install h => exact hr.install h
  | bindCore _ h => exact hr.bindCore h
  | releaseCore c id => exact hr.releaseCore c id
  | setDriver h => exact hr.of_same (samePlaces_setDriver h) (core_setDriver h)
  | takeDriver h => exact hr.of_same (samePlaces_takeDriver h) (core_takeDriver h)
  | restoreDriver id driver generation =>
    have hsame := samePlaces_restoreDriver r id driver generation
    exact hr.of_same hsame (core_restoreDriver r id driver generation)

lemma Reachable.housed (h : Reachable maxSlots maxResources r) : r.Housed := by
  induction h with
  | refl => exact .empty maxSlots maxResources
  | tail _ hstep ih => exact hstep.housed ih

/-! ### Where packets of a core go -/

/-- Packets of a core go to the slot that it is bound to, while there is a driver in it. -/
lemma route_eq_some_iff :
    r.route c = some id ↔ (r.core c).slot = some id ∧ ∃ s, r.slot? id = some s ∧ s.hasDriver := by
  constructor
  · intro hroute
    obtain ⟨hbound, s, driver, hs, hdriver⟩ := bound_of_route hroute
    exact ⟨hbound, s, hs, by simp [Slot.hasDriver, hdriver]⟩
  · rintro ⟨hbound, s, hs, hdriver⟩
    simp [route, hbound, hs, hdriver]

/-! ### Requests that are refused -/

/-- Binding a core in place, write by write: the slot names the core before the core names the
slot. -/
def bindInPlace (c : CoreId) (id : SlotId) : EStateM RegistryError (Registry D) Unit := do
  match ((← get).core c).slot with
  | some bound => if bound ≠ id then throw (.coreAlreadyBound c.val)
  | none =>
    match (← get).slot? id with
    | none => throw (.unknownSlot id.toNat)
    | some s =>
      modify fun r => r.setSlot id { s with core := some c }
      modify fun r => r.setCoreSlot c (some id)

/-- In place the same becomes of a registry, and nothing has been written when the request is
refused. -/
lemma run_bindInPlace (r : Registry D) (c : CoreId) (id : SlotId) :
    (bindInPlace c id).run r =
      match r.bindCore c id with
      | .ok r' => .ok () r'
      | .error e => .error e r := by
  cases hbound : (r.core c).slot with
  | some bound =>
    by_cases hid : bound = id
    · simp [bindInPlace, bindCore, hbound, hid]
    · simp [bindInPlace, bindCore, hbound, hid]
  | none =>
    cases hs : r.slot? id with
    | none => simp [bindInPlace, bindCore, hbound, hs]
    | some s => simp [bindInPlace, bindCore, hbound, hs]

/-- A slot that does not have the core cannot give it away. -/
lemma releaseCore_of_false (h : (r.releaseCore c id).1 = false) : (r.releaseCore c id).2 = r := by
  simp only [releaseCore] at h ⊢
  split_ifs at h ⊢
  · split at h
    · cases h
    · cases h
  · rfl

/-- In a registry that operations lead to, a core that a slot in use names is bound to that slot, so
that no two slots name one core, and a slot that a core is bound to is in use. Packets of a core go
just to the slot that it is bound to, and only while there is a driver in it. Binding a core in place
leaves what binding it gives, and leaves the registry alone when it is refused; so does taking a core
from a slot that does not have it. -/
theorem Reachable.references (hr : Reachable maxSlots maxResources r) :
    (∀ id s c, r.slot? id = some s → s.core = some c → (r.core c).slot = some id) ∧
    (∀ id id' s s' c, r.slot? id = some s → s.core = some c → r.slot? id' = some s' →
      s'.core = some c → id = id') ∧
    (∀ c id, (r.core c).slot = some id → ∃ s, r.slot? id = some s) ∧
    (∀ c id, r.route c = some id ↔
      (r.core c).slot = some id ∧ ∃ s, r.slot? id = some s ∧ s.hasDriver) ∧
    (∀ c id r', r.bindCore c id = .ok r' → (bindInPlace c id).run r = .ok () r') ∧
    (∀ c id e, r.bindCore c id = .error e → (bindInPlace c id).run r = .error e r) ∧
    ∀ c id, (r.releaseCore c id).1 = false → (r.releaseCore c id).2 = r := by
  -- each slot is the only one that can name its core, from which the uniqueness below follows
  have hnamed (id : SlotId) (s : Slot D) (c : CoreId) (hs : r.slot? id = some s)
      (hc : s.core = some c) : (r.core c).slot = some id := by
    apply hr.backed
    rw [coreOf, hs, Option.bind_some, hc]
  refine ⟨hnamed, ?_, ?_, ?_, ?_, ?_, ?_⟩
  · intro id id' s s' c hs hc hs' hc'
    exact Option.some.inj ((hnamed id s c hs hc).symm.trans (hnamed id' s' c hs' hc'))
  · intro c id hbound
    exact Option.isSome_iff_exists.mp (hr.housed c id hbound)
  · intro c id
    exact route_eq_some_iff
  · intro c id r' h
    rw [run_bindInPlace, h]
  · intro c id e h
    rw [run_bindInPlace, h]
  · intro c id
    exact releaseCore_of_false

/-- Two cores of one slot and its driver: the slot names the second core only, but packets of both go
there. -/
theorem references_boundInTurn :
    ∃ r : Registry Unit, Reachable 1 0 r ∧ r.coreOf ⟨0⟩ = some (6 : Fin 16) ∧
      r.route (5 : Fin 16) = some ⟨0⟩ ∧ r.route (6 : Fin 16) = some ⟨0⟩ ∧
      r.route (7 : Fin 16) ≠ some ⟨0⟩ ∧
      (bindInPlace (5 : Fin 16) ⟨1⟩).run r = .error (.coreAlreadyBound 5) r := by
  obtain ⟨r, hdriver⟩ : ∃ r, (boundInTurn [5, 6]).setDriver ⟨0⟩ () = .ok r := ⟨_, rfl⟩
  have hr : Reachable 1 0 r := reachable_boundInTurn.tail (.setDriver hdriver)
  cases hdriver
  obtain ⟨_, _, _, hroute, _, hrefused, _⟩ := Reachable.references hr
  refine ⟨_, hr, rfl, ?_, ?_, ?_, hrefused _ _ _ rfl⟩
  · exact (hroute _ _).mpr ⟨rfl, _, rfl, rfl⟩
  · exact (hroute _ _).mpr ⟨rfl, _, rfl, rfl⟩
  · exact mt (hroute _ _).mp fun h => nomatch h.1

end BoardLink.Registry
