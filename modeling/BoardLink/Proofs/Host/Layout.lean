import BoardLink.Proofs.Driver.Loads
import BoardLink.Proofs.Engine.Refusal
import BoardLink.Proofs.Host.Run

/-!
# What a list of loads comes to

Drivers are loaded one after the other, each into a slot that is free and for a core that no other of
them is for. Each slot has its driver and its core in the end, and every other slot has what it had,
but for a core that was taken from it.
-/

namespace BoardLink

/-- The slot that a driver is loaded into. -/
def Enumerator.Load.target (l : Enumerator.Load) : SlotId := .ofNat l.slot

/-- A slot from which its core was taken. -/
def Slot.withoutCore {D : Type} (s : Slot D) : Slot D := { s with core := none }

namespace Registry

variable {D : Type} {r r' r'' : Registry D} {id : SlotId} {c : CoreId} {core : Option CoreId}

/-! ### Driver numbers -/

/-- Every core has the driver number that it had. -/
def SameNumbers (r r' : Registry D) : Prop := ∀ c, (r'.core c).driverId = (r.core c).driverId

lemma SameNumbers.trans (h : SameNumbers r r') (h' : SameNumbers r' r'') : SameNumbers r r'' :=
  fun c => (h' c).trans (h c)

lemma sameNumbers_setCoreSlot (r : Registry D) (c : CoreId) (slot : Option SlotId) :
    SameNumbers r (r.setCoreSlot c slot) := by
  intro c'
  rw [setCoreSlot, core_setCore]
  split_ifs with hc
  · rw [hc]
  · rfl

lemma sameNumbers_releaseCore (r : Registry D) (c : CoreId) (id : SlotId) :
    SameNumbers r (r.releaseCore c id).2 := by
  have hfree := sameNumbers_setCoreSlot r c none
  simp only [releaseCore]
  split_ifs
  · split
    · exact hfree
    · exact hfree
  · exact fun _ => rfl

lemma sameNumbers_install {name : String} (h : r.install id name = .ok r') : SameNumbers r r' := by
  simp only [install] at h
  split at h
  · cases h
  · cases h
    split
    · exact sameNumbers_setCoreSlot r _ none
    · exact fun _ => rfl

lemma sameNumbers_bindCore (h : r.bindCore c id = .ok r') : SameNumbers r r' := by
  simp only [bindCore] at h
  split at h
  · split_ifs at h
    cases h
    exact fun _ => rfl
  · split at h
    · cases h
    · rename_i s _
      cases h
      exact sameNumbers_setCoreSlot (r.setSlot id { s with core := some c }) c (some id)

/-! ### Taking a core away -/

/-- A core, if there is one, was taken from the slot that it was bound to. -/
structure Freed (core : Option CoreId) (r r' : Registry D) : Prop where
  maxSlots : r'.maxSlots = r.maxSlots
  numbers : SameNumbers r r'
  generation? : ∀ id, r'.generation? id = r.generation? id
  bindings : ∀ c, (r'.core c).slot = if core = some c then none else (r.core c).slot
  withoutCore : ∀ id, (r'.slot? id).map Slot.withoutCore = (r.slot? id).map Slot.withoutCore
  slot? : ∀ id, (∀ c, core = some c → (r.core c).slot ≠ some id) → r'.slot? id = r.slot? id

lemma freed_refl (h : ∀ c, core = some c → (r.core c).slot = none) : Freed core r r := by
  refine ⟨rfl, fun _ => rfl, fun _ => rfl, fun c => ?_, fun _ => rfl, fun _ _ => rfl⟩
  split_ifs with hc
  · exact h c hc
  · rfl

lemma freed_releaseCore (h : (r.core c).slot = some id) :
    Freed (some c) r (r.releaseCore c id).2 := by
  have hbindings (c' : CoreId) :
      ((r.releaseCore c id).2.core c').slot = if some c = some c' then none else (r.core c').slot := by
    -- the core does name this slot, so the release that changes nothing is impossible
    rcases releaseCore_bindings r c id with heq | ⟨_, hfree, _⟩
    · have hreleased := core_releaseCore h
      rw [heq, h] at hreleased
      cases hreleased
    · rw [hfree]
      simp only [Option.some.injEq, eq_comm]
  refine ⟨(samePlaces_releaseCore r c id).maxSlots, sameNumbers_releaseCore r c id,
    generation?_releaseCore r c id, hbindings, fun id' => ?_, fun id' hid => ?_⟩
  · rcases releaseCore_cases r c id with hunchanged | ⟨s, hs, hupdated⟩
    · rw [hunchanged.slot?]
    · rw [hupdated.slot?]
      split_ifs with hid
      · rw [hid, hs]
        rfl
      · rfl
  · rcases releaseCore_cases r c id with hunchanged | ⟨s, hs, hupdated⟩
    · exact hunchanged.slot? id'
    · rw [hupdated.slot?, if_neg]
      rintro rfl
      exact hid c rfl h

end Registry

namespace Host

open Enumerator

variable {L P : Type} {h h' : Host L P} {factory : Factory P} {l : Load} {ls ls' : List Load}

lemma vacate_freed (h : Host L P) {slot : SlotId} (core : Option CoreId)
    (hslot : ∀ c, (h.registry.core c).slot ≠ some slot) :
    Registry.Freed core h.registry (h.vacate slot core).registry := by
  rw [← registry_dropTimers h slot] at hslot ⊢
  cases core with
  | none => exact Registry.freed_refl nofun
  | some c =>
    simp only [vacate, freeCore]
    split
    · rename_i hfree
      refine Registry.freed_refl fun c' hc' => ?_
      cases hc'
      exact hfree
    · rename_i owner howner
      have hother : owner ≠ slot := by
        rintro rfl
        exact hslot c howner
      rw [if_neg hother]
      exact Registry.freed_releaseCore howner

/-! ### Loads -/

/-- These drivers were loaded. -/
structure Laid (factory : Factory P) (ls : List Load) (r r' : Registry (Instance P)) : Prop where
  maxSlots : r'.maxSlots = r.maxSlots
  numbers : Registry.SameNumbers r r'
  generation? : ∀ id, (∀ l ∈ ls, l.target ≠ id) → r'.generation? id = r.generation? id
  filled : ∀ l ∈ ls, ∃ s, r'.slot? l.target = some s ∧ s.driverName = l.name ∧ s.core = l.core ∧
    s.driver.map Instance.driver = factory.create l.name
  bound : ∀ l ∈ ls, ∀ c, l.core = some c → (r'.core c).slot = some l.target
  unbound : ∀ c, (∀ l ∈ ls, l.core ≠ some c) → (r'.core c).slot = (r.core c).slot
  /-- Other slots lose at most their cores. -/
  withoutCore : ∀ id, (∀ l ∈ ls, l.target ≠ id) →
    (r'.slot? id).map Slot.withoutCore = (r.slot? id).map Slot.withoutCore
  /-- They lose them only to one of the drivers. -/
  slot? : ∀ id, (∀ l ∈ ls, l.target ≠ id) →
    (∀ l ∈ ls, ∀ c, l.core = some c → (r.core c).slot ≠ some id) → r'.slot? id = r.slot? id

/-- A slot of the pool that is free and that no core is bound to. -/
structure Free (r : Registry (Instance P)) (slot : SlotId) : Prop where
  inPool : slot.toNat < r.maxSlots
  slot? : r.slot? slot = none
  unbound : ∀ c, (r.core c).slot ≠ some slot

/-- A slot that names no core is bound to a free one, if there is one to bind. -/
private lemma bindTo_updated {slot : SlotId} {core : Option CoreId} {s : Slot (Instance P)}
    (hs : h.registry.slot? slot = some s) (hcore : s.core = none)
    (hfree : ∀ c, core = some c → (h.registry.core c).slot = none)
    (hbind : h.bindTo slot core = .ok h') :
    Registry.Updated h.registry slot { s with core } h'.registry ∧
      Registry.SameNumbers h.registry h'.registry ∧
      (∀ id, h'.registry.generation? id = h.registry.generation? id) ∧
      ∀ c, (h'.registry.core c).slot = if core = some c then some slot else (h.registry.core c).slot := by
  cases core with
  | none =>
    cases hbind
    -- with no core to bind the slot is left as it is, which `hcore` makes an update to `none`
    have hsame : ({ s with core := none } : Slot (Instance P)) = s := by rw [← hcore]
    refine ⟨⟨rfl, fun id => ?_⟩, fun _ => rfl, fun _ => rfl, fun _ => rfl⟩
    split_ifs with hid
    · rw [hid, hs, hsame]
    · rfl
  | some c =>
    -- the core is free, so `bindCore` takes its plain path
    obtain ⟨r', hr', rfl⟩ := except_map_eq_ok.mp hbind
    have hunbound := hfree c rfl
    have heq : r' = (h.registry.setSlot slot { s with core := some c }).setCoreSlot c (some slot) := by
      simp only [Registry.bindCore, hunbound, hs] at hr'
      exact (Except.ok.inj hr').symm
    refine ⟨?_, Registry.sameNumbers_bindCore hr', Registry.generation?_bindCore hr', fun c' => ?_⟩
    · rw [heq]
      exact (Registry.updated_setSlot hs _).unchanged (Registry.unchanged_setCore _ _ _)
    · rw [heq, Registry.rebound_setCoreSlot]
      simp only [Option.some.injEq, eq_comm]
      rfl

/-- A slot without driver gets the driver of a name, if there is one. -/
private lemma loadDriver_updated {slot : SlotId} {name : String} {s : Slot (Instance P)}
    (hs : h.registry.slot? slot = some s) (hdriver : s.driver = none)
    (hload : h.loadDriver factory slot name = .ok h') :
    (∃ driver, Registry.Updated h.registry slot { s with driver } h'.registry ∧
        driver.map Instance.driver = factory.create name) ∧
      (∀ id, h'.registry.generation? id = h.registry.generation? id) ∧
      ∀ c, h'.registry.core c = h.registry.core c := by
  simp only [loadDriver] at hload
  -- a name the factory does not know leaves the slot without a driver, and that is no error
  split at hload
  · rename_i driver hcreate
    obtain ⟨r', hr', rfl⟩ := except_map_eq_ok.mp hload
    obtain ⟨s', hs', hupdated⟩ := Registry.setDriver_cases hr'
    cases hs.symm.trans hs'
    refine ⟨⟨_, hupdated, hcreate.symm⟩, Registry.generation?_setDriver hr', ?_⟩
    exact Registry.core_setDriver hr'
  · rename_i hunknown
    cases hload
    have hsame : ({ s with driver := none } : Slot (Instance P)) = s := by rw [← hdriver]
    refine ⟨⟨none, ⟨rfl, fun id => ?_⟩, hunknown.symm⟩, fun _ => rfl, fun _ => rfl⟩
    split_ifs with hid
    · rw [hid, hs, hsame]
    · rfl

/-- A driver can be loaded into a free slot. -/
lemma laid_installDriver (factory : Factory P) (hfree : Free h.registry l.target) :
    ∃ h', h.installDriver factory l.target l.name l.core = (.ok (), h') ∧
      Laid factory [l] h.registry h'.registry := by
  have hfreed := vacate_freed h l.core hfree.unbound
  rcases installDriver_cases h factory l.target l.name l.core with
      ⟨houtside, _⟩ | ⟨h₁, h₂, h', hfresh, hbind, hload, heq⟩
  · exact absurd hfree.inPool (Nat.not_lt_of_le houtside)
  refine ⟨h', heq, ?_⟩
  obtain ⟨r₁, hinstall, rfl⟩ := except_map_eq_ok.mp hfresh
  have hempty : (h.vacate l.target l.core).registry.coreOf l.target = none := by
    rw [Registry.coreOf, hfreed.slot? _ fun c _ => hfree.unbound c, hfree.slot?, Option.bind_none]
  -- the slot is filled, bound to the core that is free by now, and given its driver
  have hfilled := Registry.updated_install hinstall
  have hbindings (c : CoreId) :
      (r₁.core c).slot = if l.core = some c then none else (h.registry.core c).slot := by
    rw [Registry.install_bindings hinstall, hempty, if_neg (Option.some_ne_none c).symm, hfreed.bindings]
  obtain ⟨hbound, hnumbers, hgeneration, hbindings'⟩ := bindTo_updated
    ((hfilled.slot? l.target).trans (if_pos rfl)) rfl
    (fun c hc => (hbindings c).trans (if_pos hc)) hbind
  obtain ⟨⟨driver, hloaded, hdriver⟩, hgeneration', hcores⟩ :=
    loadDriver_updated ((hbound.slot? l.target).trans (if_pos rfl)) rfl hload
  have hother (id : SlotId) (hid : ∀ l' ∈ [l], l'.target ≠ id) :
      h'.registry.slot? id = (h.vacate l.target l.core).registry.slot? id := by
    have hne := (hid l List.mem_cons_self).symm
    rw [hloaded.slot?, if_neg hne, hbound.slot?, if_neg hne]
    exact (hfilled.slot? id).trans (if_neg hne)
  have hslots (c : CoreId) : (h'.registry.core c).slot =
      if l.core = some c then some l.target else (h.registry.core c).slot := by
    rw [hcores, hbindings']
    split_ifs with hc
    · rfl
    · exact (hbindings c).trans (if_neg hc)
  constructor
  · rw [hloaded.maxSlots, hbound.maxSlots]
    exact hfilled.maxSlots.trans hfreed.maxSlots
  · intro c
    rw [hcores, hnumbers]
    exact (hfreed.numbers.trans (Registry.sameNumbers_install hinstall)) c
  · intro id hid
    rw [hgeneration', hgeneration]
    refine (Registry.generation?_install hinstall id).trans ?_
    rw [if_neg (hid l List.mem_cons_self).symm, hfreed.generation?]
  · intro l' hl'
    cases List.mem_singleton.mp hl'
    exact ⟨_, (hloaded.slot? l.target).trans (if_pos rfl), rfl, rfl, hdriver⟩
  · intro l' hl' c hc
    cases List.mem_singleton.mp hl'
    rw [hslots, if_pos hc]
  · intro c hc
    rw [hslots, if_neg (hc l List.mem_cons_self)]
  · intro id hid
    rw [hother id hid, hfreed.withoutCore]
  · intro id hid hcore
    rw [hother id hid, hfreed.slot? id (hcore l List.mem_cons_self)]

/-! ### One load after the other -/

/-- The loads are for different free slots, and no two of them for one core. -/
structure Loadable (ls : List Load) (r : Registry (Instance P)) : Prop where
  targets : ls.Pairwise fun l l' => l.target ≠ l'.target
  cores : ls.Pairwise fun l l' => ∀ c, l.core = some c → l'.core ≠ some c
  free : ∀ l ∈ ls, Free r l.target

section Sequence

variable {r r' r'' : Registry (Instance P)}

/-- A slot that is free stays so while another one is filled. -/
lemma Free.of_laid {slot : SlotId} (hfree : Free r slot) (hlaid : Laid factory ls r r')
    (hslot : ∀ l ∈ ls, l.target ≠ slot) : Free r' slot where
  inPool := hlaid.maxSlots ▸ hfree.inPool
  slot? := by
    rw [hlaid.slot? slot hslot fun _ _ c _ => hfree.unbound c]
    exact hfree.slot?
  unbound c := by
    by_cases hc : ∀ l ∈ ls, l.core ≠ some c
    · rw [hlaid.unbound c hc]
      exact hfree.unbound c
    · push Not at hc
      obtain ⟨l, hl, hcore⟩ := hc
      rw [hlaid.bound l hl c hcore]
      exact fun heq => hslot l hl (Option.some.inj heq)

lemma Loadable.tail (h : Loadable (l :: ls) r) (hlaid : Laid factory [l] r r') : Loadable ls r' := by
  obtain ⟨htargets, hrest⟩ := List.pairwise_cons.mp h.targets
  refine ⟨hrest, (List.pairwise_cons.mp h.cores).2, fun l' hl' => ?_⟩
  refine (h.free l' (List.mem_cons_of_mem l hl')).of_laid hlaid fun l'' hl'' => ?_
  rw [List.mem_singleton.mp hl'']
  exact htargets l' hl'

lemma Laid.refl (r : Registry (Instance P)) : Laid factory [] r r where
  maxSlots := rfl
  numbers _ := rfl
  generation? _ _ := rfl
  filled := nofun
  bound := nofun
  unbound _ _ := rfl
  withoutCore _ _ := rfl
  slot? _ _ _ := rfl

/-- What was loaded first stays as it is while others are loaded. -/
lemma Laid.cons (h : Loadable (l :: ls) r) (hfirst : Laid factory [l] r r')
    (hrest : Laid factory ls r' r'') : Laid factory (l :: ls) r r'' := by
  obtain ⟨htargets, _⟩ := List.pairwise_cons.mp h.targets
  obtain ⟨hcores, _⟩ := List.pairwise_cons.mp h.cores
  have hl : l ∈ [l] := List.mem_cons_self
  have hsingle {p : Load → Prop} (hp : ∀ l' ∈ l :: ls, p l') : ∀ l' ∈ [l], p l' :=
    fun l' hl' => List.mem_singleton.mp hl' ▸ hp l List.mem_cons_self
  have htail {p : Load → Prop} (hp : ∀ l' ∈ l :: ls, p l') : ∀ l' ∈ ls, p l' :=
    fun l' hl' => hp l' (List.mem_cons_of_mem l hl')
  -- only the core of the first load is bound to another slot by now
  have hbefore {l' : Load} (hl' : l' ∈ ls) {c : CoreId} (hc : l'.core = some c) :
      (r'.core c).slot = (r.core c).slot := by
    refine hfirst.unbound c fun l'' hl'' hc'' => ?_
    rw [List.mem_singleton.mp hl''] at hc''
    exact hcores l' hl' c hc'' hc
  have hkept {id : SlotId} (hid : ∀ l' ∈ ls, l'.target ≠ id)
      (hunbound : ∀ l' ∈ ls, ∀ c, l'.core = some c → (r.core c).slot ≠ some id) :
      r''.slot? id = r'.slot? id := by
    refine hrest.slot? id hid fun l' hl' c hc => ?_
    rw [hbefore hl' hc]
    exact hunbound l' hl' c hc
  constructor
  · exact hrest.maxSlots.trans hfirst.maxSlots
  · exact hfirst.numbers.trans hrest.numbers
  · intro id hid
    rw [hrest.generation? id (htail hid), hfirst.generation? id (hsingle hid)]
  · intro l' hl'
    rcases List.mem_cons.mp hl' with rfl | hl'
    · obtain ⟨s, hs, hfilled⟩ := hfirst.filled l' hl
      refine ⟨s, ?_, hfilled⟩
      rw [hkept (fun l'' hl'' => (htargets l'' hl'').symm) fun _ _ c _ =>
        (h.free l' List.mem_cons_self).unbound c, hs]
    · exact hrest.filled l' hl'
  · intro l' hl' c hc
    rcases List.mem_cons.mp hl' with rfl | hl'
    · rw [hrest.unbound c fun l'' hl'' => hcores l'' hl'' c hc, hfirst.bound l' hl c hc]
    · exact hrest.bound l' hl' c hc
  · intro c hc
    rw [hrest.unbound c (htail hc), hfirst.unbound c (hsingle hc)]
  · intro id hid
    rw [hrest.withoutCore id (htail hid), hfirst.withoutCore id (hsingle hid)]
  · intro id hid hunbound
    rw [hkept (htail hid) (htail hunbound), hfirst.slot? id (hsingle hid) (hsingle hunbound)]

end Sequence

/-- A program that loads drivers into free slots loads all of them, and leaves their slots to be
initialised. -/
lemma run_loads [Link L] (setting : Setting P) (slot : SlotId) (h : Host L P)
    (hloadable : Loadable ls h.registry) :
    ∃ h', run setting slot (loads ls) h = ((), h', ls.map Load.target) ∧
      Laid setting.factory ls h.registry h'.registry := by
  induction ls generalizing h with
  | nil => exact ⟨h, rfl, .refl _⟩
  | cons l ls ih =>
    obtain ⟨h₁, hload, hfirst⟩ := laid_installDriver setting.factory
      (hloadable.free l List.mem_cons_self)
    obtain ⟨h', hrun, hrest⟩ := ih h₁ (hloadable.tail hfirst)
    refine ⟨h', ?_, .cons hloadable hfirst hrest⟩
    have hperform : h.perform setting slot (.installDriver (.ofNat l.slot) l.name l.core) =
        (.ok (), h₁) := hload
    exact run_bind (run_perform hperform) hrun

end Host

end BoardLink
