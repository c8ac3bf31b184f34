import Mathlib.Logic.Relation
import BoardLink.Proofs.Registry.Slots

/-!
# Cores and the slots that they are bound to

A binding is noted twice: a core names the slot that it is bound to, and a slot in use names the core
that it was bound to last. The second note is never wrong, but there may be more cores than that one,
and a fresh instance in the slot sets free no other core.
-/

namespace BoardLink.Registry

variable {D : Type} {r r' r'' : Registry D} {id : SlotId} {s s' : Slot D} {c : CoreId}

/-! ### Cores after writing -/

@[simp] lemma core_setCore (r : Registry D) (c c' : CoreId) (core : Core) :
    (r.setCore c core).core c' = if c' = c then core else r.core c' := by
  simp only [Registry.core, setCore, Fin.getElem_fin, Vector.getElem_set, Fin.val_inj]
  by_cases h : c = c'
  · simp [h]
  · simp [h, Ne.symm h]

/-- A core was bound or set free, and all others are bound as before. -/
def Rebound (r : Registry D) (c : CoreId) (slot : Option SlotId) (r' : Registry D) : Prop :=
  ∀ c', (r'.core c').slot = if c' = c then slot else (r.core c').slot

lemma rebound_setCoreSlot (r : Registry D) (c : CoreId) (slot : Option SlotId) :
    Rebound r c slot (r.setCoreSlot c slot) := by
  intro c'
  simp only [setCoreSlot, core_setCore]
  split_ifs
  · rfl
  · rfl

/-- The core that a slot names as its own, if it is in use and names one. -/
def coreOf (r : Registry D) (id : SlotId) : Option CoreId := (r.slot? id).bind Slot.core

lemma Unchanged.coreOf (h : Unchanged r r') (id : SlotId) : r'.coreOf id = r.coreOf id := by
  rw [Registry.coreOf, h.slot?, Registry.coreOf]

lemma Updated.coreOf (h : Updated r id s' r') (id' : SlotId) :
    r'.coreOf id' = if id' = id then s'.core else r.coreOf id' := by
  rw [Registry.coreOf, h.slot?]
  split_ifs
  · rfl
  · rfl

/-! ### What each operation does to bindings -/

lemma bindCore_bindings (h : r.bindCore c id = .ok r') :
    r' = r ∨ (r.core c).slot = none ∧ Rebound r c (some id) r' ∧
      ∃ s, r.slot? id = some s ∧ Updated r id { s with core := some c } r' := by
  simp only [bindCore] at h
  split at h
  · split_ifs at h
    cases h
    exact .inl rfl
  · rename_i hfree
    split at h
    · cases h
    · rename_i s hs
      cases h
      refine .inr ⟨hfree, ?_, s, hs, (updated_setSlot hs _).unchanged (unchanged_setCore _ _ _)⟩
      exact rebound_setCoreSlot (r.setSlot id { s with core := some c }) c (some id)

lemma releaseCore_bindings (r : Registry D) (c : CoreId) (id : SlotId) :
    (r.releaseCore c id).2 = r ∨ (r.core c).slot = some id ∧ Rebound r c none (r.releaseCore c id).2 ∧
      ∀ id', (r.releaseCore c id).2.coreOf id' = if id' = id then none else r.coreOf id' := by
  simp only [releaseCore]
  split_ifs with hbound
  · have hcore := unchanged_setCore r c { r.core c with slot := none }
    have hfree := rebound_setCoreSlot r c none
    refine .inr ⟨hbound, ?_⟩
    split
    · rename_i s hs
      have hupdated := hcore.updated (updated_setSlot hs { s with core := none })
      exact ⟨hfree, hupdated.coreOf⟩
    · rename_i hs
      refine ⟨hfree, fun id' => (hcore.coreOf id').trans ?_⟩
      split_ifs with hid
      · have hs : r.slot? id = none := (hcore.slot? id).symm.trans hs
        rw [hid, coreOf, hs, Option.bind_none]
      · rfl
  · exact .inl rfl

/-- A fresh instance sets free the core that the one before it was bound to last, and no other. -/
lemma install_bindings {name : String} (h : r.install id name = .ok r') (c : CoreId) :
    (r'.core c).slot = if r.coreOf id = some c then none else (r.core c).slot := by
  simp only [install] at h
  split at h
  · cases h
  · rename_i place hplace
    cases h
    have hcore : r.coreOf id = place.slot.bind Slot.core := by
      simp only [coreOf, slot?, hplace]
    rw [hcore]
    cases place.slot.bind Slot.core with
    | none => simp [Registry.core]
    | some c' =>
      have hfree := rebound_setCoreSlot r c' none c
      simp only [Option.some.injEq, eq_comm (a := c')]
      exact hfree

/-! ### Cores that slots name -/

/-- Every core that a slot names is bound to that slot. -/
def Backed (r : Registry D) : Prop := ∀ id c, r.coreOf id = some c → (r.core c).slot = some id

namespace Backed

lemma of_same (hr : r.Backed) (hcores : ∀ id, r'.coreOf id = r.coreOf id)
    (hbindings : ∀ c, (r'.core c).slot = (r.core c).slot) : r'.Backed := by
  intro id c hcore
  rw [hcores] at hcore
  rw [hbindings]
  exact hr id c hcore

lemma empty (maxSlots maxResources : Nat) :
    (Registry.empty maxSlots maxResources : Registry D).Backed := by
  intro id c hcore
  rw [coreOf, slot?_empty] at hcore
  cases hcore

/-- The core that is set free was named by the slot that is overwritten, and so by no other. -/
lemma install (hr : r.Backed) {name : String} (h : r.install id name = .ok r') : r'.Backed := by
  intro id' c hcore
  rw [(updated_install h).coreOf] at hcore
  split_ifs at hcore with hid
  · cases hcore
  · rw [install_bindings h, if_neg, hr id' c hcore]
    intro hold
    have hbound := (hr id c hold).symm.trans (hr id' c hcore)
    exact hid (Option.some.inj hbound).symm

/-- A core that becomes bound was free, and so no slot named it. -/
lemma bindCore (hr : r.Backed) (h : r.bindCore c id = .ok r') : r'.Backed := by
  rcases bindCore_bindings h with rfl | ⟨hfree, hbound, s, hs, hupdated⟩
  · exact hr
  · intro id' c' hcore
    rw [hupdated.coreOf] at hcore
    rw [hbound]
    split_ifs at hcore with hid
    · cases hcore
      rw [if_pos rfl, hid]
    · rw [if_neg, hr id' c' hcore]
      rintro rfl
      rw [hr id' c' hcore] at hfree
      cases hfree

/-- A core that is set free was bound to a slot that names no core any more. -/
lemma releaseCore (hr : r.Backed) (c : CoreId) (id : SlotId) : (r.releaseCore c id).2.Backed := by
  rcases releaseCore_bindings r c id with heq | ⟨hbound, hfree, hcores⟩
  · rw [heq]
    exact hr
  · intro id' c' hcore
    rw [hcores] at hcore
    split_ifs at hcore with hid
    rw [hfree, if_neg, hr id' c' hcore]
    rintro rfl
    have hboth := hbound.symm.trans (hr id' c' hcore)
    exact hid (Option.some.inj hboth).symm

/-- What happens to the driver of a slot is nothing to cores. -/
lemma updated (hr : r.Backed) (hs : r.slot? id = some s) (h : Updated r id s' r')
    (hcore : s'.core = s.core) (hbindings : ∀ c, (r'.core c).slot = (r.core c).slot) :
    r'.Backed := by
  refine hr.of_same (fun id' => ?_) hbindings
  rw [h.coreOf]
  split_ifs with hid
  · rw [hid, coreOf, hs, Option.bind_some, hcore]
  · rfl

end Backed

/-! ### Sequences of operations -/

/-- One operation on cores, places or drivers. A core is bound to a slot only where `binds` says so. -/
inductive Step (binds : CoreId → SlotId → Prop) : Registry D → Registry D → Prop
  | allocate {r r' : Registry D} {name : String} {id : SlotId} (h : r.allocate name = .ok (id, r')) :
    Step binds r r'
  | install {r r' : Registry D} {id : SlotId} {name : String} (h : r.install id name = .ok r') :
    Step binds r r'
  | bindCore {r r' : Registry D} {c : CoreId} {id : SlotId} (hbinds : binds c id)
    (h : r.bindCore c id = .ok r') : Step binds r r'
  | releaseCore (r : Registry D) (c : CoreId) (id : SlotId) : Step binds r (r.releaseCore c id).2
  | setDriver {r r' : Registry D} {id : SlotId} {driver : D} (h : r.setDriver id driver = .ok r') :
    Step binds r r'
  | takeDriver {r r' : Registry D} {id : SlotId} {driver : D} {generation : UInt32}
    (h : r.takeDriver id = some (driver, generation, r')) : Step binds r r'
  | restoreDriver (r : Registry D) (id : SlotId) (driver : D) (generation : UInt32) :
    Step binds r (r.restoreDriver id driver generation)

/-- Any number of operations, one after the other. -/
def Leads (binds : CoreId → SlotId → Prop) : Registry D → Registry D → Prop :=
  Relation.ReflTransGen (Step binds)

/-- The registries that any sequence of operations leads to. -/
def Reachable (maxSlots maxResources : Nat) (r : Registry D) : Prop :=
  Leads (fun _ _ => True) (.empty maxSlots maxResources) r

variable {binds : CoreId → SlotId → Prop} {maxSlots maxResources : Nat}

lemma core_setDriver {driver : D} (h : r.setDriver id driver = .ok r') (c : CoreId) :
    r'.core c = r.core c := by
  obtain ⟨_, _, rfl⟩ := except_map_eq_ok.mp h
  rfl

lemma core_takeDriver {driver : D} {generation : UInt32}
    (h : r.takeDriver id = some (driver, generation, r')) (c : CoreId) :
    r'.core c = r.core c := by
  simp only [Registry.takeDriver] at h
  split at h
  · split at h
    · cases h
      rfl
    · cases h
  · cases h

lemma core_restoreDriver (r : Registry D) (id : SlotId) (driver : D) (generation : UInt32)
    (c : CoreId) : (r.restoreDriver id driver generation).core c = r.core c := by
  simp only [Registry.restoreDriver]
  split
  · split_ifs
    · rfl
    · rfl
  · rfl

lemma Step.backed (h : Step binds r r') (hr : r.Backed) : r'.Backed := by
  cases h with
  | allocate h => exact hr.install (install_of_allocate h)
  | install h => exact hr.install h
  | bindCore _ h => exact hr.bindCore h
  | releaseCore c id => exact hr.releaseCore c id
  | setDriver h =>
    obtain ⟨s, hs, hupdated⟩ := setDriver_cases h
    exact hr.updated hs hupdated rfl fun c => congrArg Core.slot (core_setDriver h c)
  | takeDriver h =>
    obtain ⟨s, hs, _, hupdated⟩ := takeDriver_cases h
    exact hr.updated hs hupdated rfl fun c => congrArg Core.slot (core_takeDriver h c)
  | restoreDriver id driver generation =>
    rcases restoreDriver_cases r id driver generation with heq | ⟨s, hs, _, hupdated⟩
    · rw [heq]
      exact hr
    · refine hr.updated hs hupdated rfl fun c => ?_
      exact congrArg Core.slot (core_restoreDriver r id driver generation c)

lemma Reachable.backed (h : Reachable maxSlots maxResources r) : r.Backed := by
  induction h with
  | refl => exact .empty maxSlots maxResources
  | tail _ hstep ih => exact hstep.backed ih

/-- A core comes to a slot only by being bound to it. -/
lemma Step.unbound (h : Step binds r r') (hbinds : ¬ binds c id) (hc : (r.core c).slot ≠ some id) :
    (r'.core c).slot ≠ some id := by
  -- an installation can only take the core away from the slot, never give it one
  have install {r' : Registry D} {id' : SlotId} {name : String} (h : r.install id' name = .ok r') :
      (r'.core c).slot ≠ some id := by
    rw [install_bindings h]
    split_ifs
    · simp
    · exact hc
  cases h with
  | allocate h => exact install (install_of_allocate h)
  | install h => exact install h
  | @bindCore _ c' id' hallowed h =>
    rcases bindCore_bindings h with rfl | ⟨_, hbound, _⟩
    · exact hc
    -- the pair bound is an allowed one, so it is not the pair `hbinds` excludes
    · rw [hbound]
      split_ifs with hcore
      · rintro ⟨⟩
        exact hbinds (hcore ▸ hallowed)
      · exact hc
  | releaseCore c' id' =>
    rcases releaseCore_bindings r c' id' with heq | ⟨_, hfree, _⟩
    · rw [heq]
      exact hc
    · rw [hfree]
      split_ifs
      · simp
      · exact hc
  | setDriver h =>
    rw [core_setDriver h]
    exact hc
  | takeDriver h =>
    rw [core_takeDriver h]
    exact hc
  | restoreDriver =>
    rw [core_restoreDriver]
    exact hc

lemma Leads.unbound (h : Leads binds r r') (hbinds : ¬ binds c id)
    (hc : (r.core c).slot ≠ some id) : (r'.core c).slot ≠ some id := by
  induction h with
  | refl => exact hc
  | tail _ hstep ih => exact hstep.unbound hbinds ih

/-! ### Overwriting a slot -/

/-- Packets of a core go only to the slot that it is bound to, and there is a driver in it. -/
lemma bound_of_route (h : r.route c = some id) :
    (r.core c).slot = some id ∧ ∃ s driver, r.slot? id = some s ∧ s.driver = some driver := by
  simp only [route] at h
  split at h
  · cases h
  · rename_i id' hbound
    split at h
    · rename_i s hs
      split_ifs at h with hdriver
      cases h
      obtain ⟨driver, hdriver⟩ := Option.isSome_iff_exists.mp hdriver
      exact ⟨hbound, s, driver, hs, hdriver⟩
    · cases h

lemma exists_install (hid : id.toNat < r.maxSlots) (name : String) :
    ∃ r', r.install id name = .ok r' := by
  have hplace : r.places[id.toNat]? = some r.places[id.toNat] := Array.getElem?_eq_getElem hid
  simp only [install, hplace]
  exact ⟨_, rfl⟩

/-- A fresh instance can be put into every place of the pool, and it names no core. Cores of other
slots stay bound. A core of the slot stays bound to it just when the instance before it did not name
that core; any other core stays away from the slot, and none of its packets come to it, until it is
bound to the slot again. -/
theorem Reachable.core_install (hr : Reachable maxSlots maxResources r) (hid : id.toNat < r.maxSlots)
    (name : String) :
    ∃ r', r.install id name = .ok r' ∧
      (∃ s, r'.slot? id = some s ∧ s.driverName = name ∧ s.core = none) ∧
      (∀ c, (r.core c).slot ≠ some id → (r'.core c).slot = (r.core c).slot) ∧
      (∀ c, (r'.core c).slot = some id ↔ (r.core c).slot = some id ∧ r.coreOf id ≠ some c) ∧
      ∀ c, ¬((r.core c).slot = some id ∧ r.coreOf id ≠ some c) →
        ∀ r'', Leads (fun c' id' => ¬(c' = c ∧ id' = id)) r' r'' →
          (r''.core c).slot ≠ some id ∧ r''.route c ≠ some id := by
  obtain ⟨r', h⟩ := exists_install hid name
  have hbacked := Reachable.backed hr
  have hbindings := install_bindings h
  have hstays (c : CoreId) :
      (r'.core c).slot = some id ↔ (r.core c).slot = some id ∧ r.coreOf id ≠ some c := by
    rw [hbindings]
    split_ifs with hcore
    · simp [hcore]
    · simp [hcore]
  refine ⟨r', h, ?_, ?_, hstays, ?_⟩
  · exact ⟨_, by rw [(updated_install h).slot?, if_pos rfl], rfl, rfl⟩
  · intro c hc
    -- a core the slot names does name the slot, so a core bound elsewhere keeps its binding
    rw [hbindings, if_neg fun hcore => hc (hbacked id c hcore)]
  · intro c hc r'' hleads
    have haway := hleads.unbound (by simp) (mt (hstays c).mp hc)
    exact ⟨haway, mt (fun hroute => (bound_of_route hroute).1) haway⟩

/-! ### A slot bound twice -/

/-- One slot in use, to which these cores were bound one after the other. -/
def boundInTurn (cores : List (Fin 16)) : Registry Unit where
  cores := Vector.ofFn fun c : Fin 16 => if c ∈ cores then { slot := some ⟨0⟩ } else {}
  places := #[{
    generation := 1
    slot := some { Slot.fresh ⟨0⟩ "a" 0 with core := cores.getLast? } }]
  maxResources := 0

lemma reachable_boundInTurn : Reachable 1 0 (boundInTurn [5, 6]) := by
  have hallocate : Registry.allocate (.empty 1 0) "a" = .ok (⟨0⟩, boundInTurn []) := by
    decide +kernel
  have hfirst : (boundInTurn []).bindCore (5 : Fin 16) ⟨0⟩ = .ok (boundInTurn [5]) := by decide
  have hsecond : (boundInTurn [5]).bindCore (6 : Fin 16) ⟨0⟩ = .ok (boundInTurn [5, 6]) := by decide
  have hstep : Step (fun _ _ => True) (.empty 1 0) (boundInTurn []) := .allocate hallocate
  have hleads := Relation.ReflTransGen.single hstep
  exact (hleads.tail (.bindCore trivial hfirst)).tail (.bindCore trivial hsecond)

/-- Of two cores of a slot that is overwritten, the one that came first stays with the slot. -/
theorem core_install_boundInTurn :
    Reachable 1 0 (boundInTurn [5, 6]) ∧ (0 : UInt16).toNat < (boundInTurn [5, 6]).maxSlots ∧
      ∃ r', (boundInTurn [5, 6]).install ⟨0⟩ "b" = .ok r' ∧
        (r'.core (5 : Fin 16)).slot = some ⟨0⟩ ∧ (r'.core (6 : Fin 16)).slot ≠ some ⟨0⟩ := by
  have hid : (⟨0⟩ : SlotId).toNat < (boundInTurn [5, 6]).maxSlots := by decide
  obtain ⟨r', hr', _, _, hcores, _⟩ := Reachable.core_install reachable_boundInTurn hid "b"
  refine ⟨reachable_boundInTurn, hid, r', hr', ?_, ?_⟩
  · exact (hcores (5 : Fin 16)).mpr (by decide)
  · exact mt (hcores (6 : Fin 16)).mp (by decide)

/-- The core that stays sends its packets to the driver of the new instance, to which nobody bound
it. -/
theorem route_of_install_boundInTurn :
    Reachable 1 0 (boundInTurn [5, 6]) ∧ ∃ r' r'',
      (boundInTurn [5, 6]).install ⟨0⟩ "b" = .ok r' ∧ (r'.core (5 : Fin 16)).slot = some ⟨0⟩ ∧
        r'.setDriver ⟨0⟩ () = .ok r'' ∧ r''.route (5 : Fin 16) = some ⟨0⟩ := by
  refine ⟨reachable_boundInTurn, _, _, rfl, ?_, rfl, ?_⟩
  · decide
  · decide

end BoardLink.Registry
