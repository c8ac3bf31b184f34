import Mathlib.Tactic.Common
import BoardLink.Config.Basic

/-!
# Static assignments as finite maps

Looking up after setting and erasing, and what a checked configuration says about the assignments in
it.
-/

namespace BoardLink

namespace Overloads

variable {n k : Nat} {name : String} {o : Overloads}

/-- The slot numbers grow and stay below `n`. -/
structure Fits (n : Nat) (o : Overloads) : Prop where
  sorted : o.Pairwise fun p q => p.1 < q.1
  lt : ∀ p ∈ o, p.1 < n

lemma fits_nil (n : Nat) : Fits n [] := ⟨.nil, nofun⟩

lemma get?_cons (k : Nat) (name : String) (o : Overloads) (j : Nat) :
    get? ((k, name) :: o) j = if j = k then some name else o.get? j := by
  by_cases hjk : j = k
  · rw [if_pos hjk, get?, hjk, List.lookup_cons_self]
  · rw [if_neg hjk, get?, List.lookup_cons, beq_false_of_ne hjk, get?]

lemma get?_insert (k : Nat) (name : String) (o : Overloads) (j : Nat) :
    (o.insert k name).get? j = if j = k then some name else o.get? j := by
  induction o with
  | nil => exact get?_cons k name [] j
  | cons p rest ih =>
    obtain ⟨k', name'⟩ := p
    simp only [insert]
    by_cases hlt : k < k'
    · rw [if_pos hlt]
      exact get?_cons k name _ j
    · rw [if_neg hlt]
      by_cases heq : k = k'
      · rw [if_pos heq, heq, get?_cons, get?_cons]
        split_ifs <;> rfl
      · rw [if_neg heq, get?_cons, ih, get?_cons]
        by_cases hj : j = k'
        · rw [if_pos hj, if_neg (fun hk => heq (hk.symm.trans hj)), if_pos hj]
        · rw [if_neg hj, if_neg hj]

lemma mem_insert {p : Nat × String} (hp : p ∈ o.insert k name) : p = (k, name) ∨ p ∈ o := by
  induction o with
  | nil => exact .inl (List.mem_singleton.mp hp)
  | cons q rest ih =>
    simp only [insert] at hp
    split_ifs at hp
    · exact (List.mem_cons.mp hp)
    · exact (List.mem_cons.mp hp).imp_right (List.mem_cons_of_mem q)
    · rcases List.mem_cons.mp hp with rfl | hp
      · exact .inr List.mem_cons_self
      · exact (ih hp).imp_right (List.mem_cons_of_mem q)

lemma Fits.insert (h : o.Fits n) (hk : k < n) (name : String) : (o.insert k name).Fits n := by
  constructor
  · have hsorted := h.sorted
    clear h
    induction o with
    | nil => exact List.pairwise_singleton _ _
    | cons q rest ih =>
      obtain ⟨hq, hrest⟩ := List.pairwise_cons.mp hsorted
      simp only [Overloads.insert]
      split_ifs with hlt heq
      · refine List.pairwise_cons.mpr ⟨fun p hp => ?_, hsorted⟩
        rcases List.mem_cons.mp hp with rfl | hp
        · exact hlt
        · exact Nat.lt_trans hlt (hq p hp)
      · exact List.pairwise_cons.mpr ⟨fun p hp => heq ▸ hq p hp, hrest⟩
      · refine List.pairwise_cons.mpr ⟨fun p hp => ?_, ih hrest⟩
        rcases mem_insert hp with rfl | hp
        · exact Nat.lt_of_le_of_ne (Nat.le_of_not_lt hlt) (Ne.symm heq)
        · exact hq p hp
  · intro p hp
    rcases mem_insert hp with rfl | hp
    · exact hk
    · exact h.lt p hp

private lemma get?_foldl_insert {pairs : List (Nat × String)} (h : k ∉ pairs.map Prod.fst)
    (o : Overloads) :
    (pairs.foldl (fun o (slot, name) => o.insert slot name) o).get? k = o.get? k := by
  induction pairs generalizing o with
  | nil => rfl
  | cons p pairs ih =>
    obtain ⟨hp, hpairs⟩ := List.ne_and_not_mem_of_not_mem_cons h
    rw [List.foldl_cons, ih hpairs, get?_insert, if_neg hp]

/-- Assignments for different slots are all there. -/
lemma get?_ofList {pairs : List (Nat × String)} (hnodup : (pairs.map Prod.fst).Nodup)
    (hmem : (k, name) ∈ pairs) : (ofList pairs).get? k = some name := by
  rw [ofList]
  generalize ([] : Overloads) = o
  induction pairs generalizing o with
  | nil => cases hmem
  | cons p pairs ih =>
    obtain ⟨hp, hnodup⟩ := List.nodup_cons.mp hnodup
    rcases List.mem_cons.mp hmem with rfl | hmem
    · rw [List.foldl_cons, get?_foldl_insert hp, get?_insert, if_pos rfl]
    · exact ih hnodup hmem _

lemma fits_ofList {pairs : List (Nat × String)} (hlt : ∀ p ∈ pairs, p.1 < n) :
    (ofList pairs).Fits n := by
  have hfits : ∀ o : Overloads, o.Fits n →
      (pairs.foldl (fun o (slot, name) => o.insert slot name) o).Fits n := by
    induction pairs with
    | nil => exact fun o ho => ho
    | cons p pairs ih =>
      obtain ⟨hp, hlt⟩ := List.forall_mem_cons.mp hlt
      exact fun o ho => ih hlt _ (ho.insert hp _)
  exact hfits [] (fits_nil n)

lemma get?_erase (k : Nat) (o : Overloads) (j : Nat) :
    (o.erase k).get? j = if j = k then none else o.get? j := by
  induction o with
  | nil => exact (ite_self _).symm
  | cons p rest ih =>
    obtain ⟨k', name'⟩ := p
    by_cases hk : k' = k
    · have hskip : erase ((k', name') :: rest) k = erase rest k := by
        simp [erase, hk]
      rw [hskip, ih, get?_cons, hk]
      split_ifs <;> rfl
    · have hkeep : erase ((k', name') :: rest) k = (k', name') :: erase rest k := by
        simp [erase, hk]
      rw [hkeep, get?_cons, ih, get?_cons]
      by_cases hj : j = k'
      · rw [if_pos hj, if_neg (fun h => hk (hj.symm.trans h)), if_pos hj]
      · rw [if_neg hj, if_neg hj]

lemma Fits.erase (h : o.Fits n) (k : Nat) : (o.erase k).Fits n where
  sorted := h.sorted.filter _
  lt p hp := h.lt p (List.mem_filter.mp hp).1

lemma Fits.get?_eq_some_iff (h : o.Fits n) : o.get? k = some name ↔ (k, name) ∈ o := by
  constructor
  · intro hget
    obtain ⟨before, after, ho, _⟩ := List.lookup_eq_some_iff.mp hget
    rw [ho]
    exact List.mem_append_right _ List.mem_cons_self
  · intro hmem
    obtain ⟨before, after, rfl⟩ := List.append_of_mem hmem
    refine List.lookup_eq_some_iff.mpr ⟨before, after, rfl, fun p hp => ?_⟩
    have hlt := (List.pairwise_append.mp h.sorted).2.2 p hp (k, name) List.mem_cons_self
    exact bne_iff_ne.mpr (Nat.ne_of_gt hlt)

/-- Only slots of the pool are assigned. -/
lemma Fits.lt_of_get? (h : o.Fits n) (hget : o.get? k = some name) : k < n :=
  h.lt _ (h.get?_eq_some_iff.mp hget)

/-- The first slot is assigned once. -/
lemma Fits.get?_eq_none (h : Fits n ((k, name) :: o)) : o.get? k = none := by
  rw [get?, List.lookup_eq_none_iff]
  intro p hp
  have hlt := (List.pairwise_cons.mp h.sorted).1 p hp
  exact bne_iff_ne.mpr (Nat.ne_of_lt hlt)

lemma Fits.tail (h : Fits n ((k, name) :: o)) : o.Fits n where
  sorted := (List.pairwise_cons.mp h.sorted).2
  lt p hp := h.lt p (List.mem_cons_of_mem _ hp)

end Overloads

namespace Config

/-- Assignments that pass the check are for different slots of the pool, and for none that was seen
before. -/
lemma checkOverloads_eq_ok {maxSlots : Nat} {seen : List Nat} {overloads : List Overload}
    (h : checkOverloads maxSlots seen overloads = .ok ()) :
    (overloads.map Overload.slot).Nodup ∧
      ∀ o ∈ overloads, 0 < o.slot ∧ o.slot < maxSlots ∧ o.slot ∉ seen := by
  induction overloads generalizing seen with
  | nil => exact ⟨.nil, nofun⟩
  | cons o rest ih =>
    simp only [checkOverloads] at h
    split_ifs at h with hzero hlarge hempty hseen
    obtain ⟨hnodup, hrest⟩ := ih h
    constructor
    · refine List.nodup_cons.mpr ⟨fun hmem => ?_, hnodup⟩
      obtain ⟨o', ho', hslot⟩ := List.mem_map.mp hmem
      exact (hrest o' ho').2.2 (hslot ▸ List.mem_cons_self)
    · intro o' ho'
      rcases List.mem_cons.mp ho' with rfl | ho'
      · exact ⟨Nat.pos_of_ne_zero hzero, Nat.lt_of_not_le hlarge, hseen⟩
      · obtain ⟨hpos, hlt, hmem⟩ := hrest o' ho'
        exact ⟨hpos, hlt, fun h => hmem (List.mem_cons_of_mem _ h)⟩

lemma check_of_validate {c : Config} (h : c.validate = .ok ()) : c.check = .ok () := by
  simp only [validate] at h
  cases hc : c.check with
  | ok u => rfl
  | error e =>
    rw [hc] at h
    cases h

/-- A valid configuration has room for slots, resources and timers. -/
lemma checks_of_validate {c : Config} (h : c.validate = .ok ()) :
    0 < c.maxSlots ∧ 0 < c.maxResources ∧ checkOverloads c.maxSlots [] c.overloads = .ok () ∧
      0 < c.maxTimers := by
  have hcheck := check_of_validate h
  simp only [check] at hcheck
  split_ifs at hcheck with _ _ hslots hresources htimers
  exact ⟨Nat.pos_of_ne_zero hslots, Nat.pos_of_ne_zero hresources, hcheck,
    Nat.pos_of_ne_zero htimers⟩

/-- In a valid configuration every assignment is for a slot of the pool other than the first, and the
engine gets all of them. -/
lemma get?_overloads_of_validate {c : Config} (h : c.validate = .ok ()) :
    c.options.overloads.Fits c.maxSlots ∧
      ∀ o ∈ c.overloads, 1 ≤ o.slot ∧ o.slot < c.maxSlots ∧
        c.options.overloads.get? o.slot = some o.driver := by
  obtain ⟨hnodup, hslots⟩ := checkOverloads_eq_ok (checks_of_validate h).2.2.1
  constructor
  · apply Overloads.fits_ofList
    intro p hp
    obtain ⟨o, ho, rfl⟩ := List.mem_map.mp hp
    exact (hslots o ho).2.1
  · intro o ho
    refine ⟨(hslots o ho).1, (hslots o ho).2.1, Overloads.get?_ofList ?_ ?_⟩
    · rw [List.map_map]
      exact hnodup
    · exact List.mem_map.mpr ⟨o, ho, rfl⟩

/-- In a valid configuration the engine gets for every slot the driver assigned to it. -/
lemma get?_overloads_eq {c : Config} (h : c.validate = .ok ()) (slot : Nat) :
    c.options.overloads.get? slot = c.overloadFor slot := by
  simp only [overloadFor]
  cases hfind : c.overloads.find? fun o => o.slot = slot with
  | some o =>
    have hslot : o.slot = slot := by simpa using List.find?_some hfind
    rw [← hslot]
    exact ((get?_overloads_of_validate h).2 o (List.mem_of_find?_eq_some hfind)).2.2
  | none =>
    refine Overloads.get?_foldl_insert (fun hmem => ?_) []
    obtain ⟨p, hp, rfl⟩ := List.mem_map.mp hmem
    obtain ⟨o, ho, rfl⟩ := List.mem_map.mp hp
    exact List.find?_eq_none.mp hfind o ho (decide_eq_true rfl)

lemma exists_of_overloadFor {c : Config} {slot : Nat} {name : String}
    (h : c.overloadFor slot = some name) : ∃ o ∈ c.overloads, o.slot = slot ∧ o.driver = name := by
  obtain ⟨o, hfind, rfl⟩ := Option.map_eq_some_iff.mp h
  exact ⟨o, List.mem_of_find?_eq_some hfind, by simpa using List.find?_some hfind, rfl⟩

/-- The first slot of the pool is never assigned. -/
lemma pos_of_mem_overloads {c : Config} (h : c.validate = .ok ()) {p : Nat × String}
    (hp : p ∈ c.options.overloads) : 0 < p.1 := by
  obtain ⟨hfits, hslots⟩ := get?_overloads_of_validate h
  have hget : c.options.overloads.get? p.1 = some p.2 := hfits.get?_eq_some_iff.mpr hp
  obtain ⟨o, ho, hslot, _⟩ := exists_of_overloadFor ((get?_overloads_eq h p.1).symm.trans hget)
  exact hslot ▸ (hslots o ho).1

end Config

end BoardLink
