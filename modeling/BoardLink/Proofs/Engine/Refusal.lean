import BoardLink.Engine
import BoardLink.Link.Memory
import BoardLink.Proofs.Host.Calm
import BoardLink.Proofs.Registry.Bindings
import BoardLink.Proofs.Registry.Names
import BoardLink.Proofs.Registry.Places

/-!
# Loading that fails

A driver can be loaded into every slot of the pool and into no other. Where there is no such slot,
the core that was asked for is taken from the slot that had it all the same, and nothing else is
changed.
-/

namespace BoardLink

namespace Registry

variable {D : Type} {r : Registry D} {id : SlotId} {s : Slot D} {c : CoreId}

lemma slot?_of_outside (h : r.maxSlots ≤ id.toNat) : r.slot? id = none := by
  have hplace : r.places[id.toNat]? = none := Array.getElem?_eq_none h
  simp only [slot?, hplace]

lemma install_of_outside (h : r.maxSlots ≤ id.toNat) (name : String) :
    r.install id name = .error (.unknownSlot id.toNat) := by
  have hplace : r.places[id.toNat]? = none := Array.getElem?_eq_none h
  simp only [install, hplace]

/-- A core that no other slot has can be bound to a slot in use. -/
lemma exists_bindCore (hs : r.slot? id = some s)
    (hcore : ∀ owner, (r.core c).slot = some owner → owner = id) :
    ∃ r' s', r.bindCore c id = .ok r' ∧ r'.slot? id = some s' := by
  cases hbound : (r.core c).slot with
  | some owner =>
    refine ⟨r, s, ?_, hs⟩
    simp only [bindCore, hbound, if_pos (hcore owner hbound)]
  | none =>
    refine ⟨(r.setSlot id { s with core := some c }).setCoreSlot c (some id),
      { s with core := some c }, ?_, ?_⟩
    · simp only [bindCore, hbound, hs]
    · exact (((updated_setSlot hs _).unchanged (unchanged_setCore _ _ _)).slot? id).trans (if_pos rfl)

/-- A core that is taken from its slot is free. -/
lemma core_releaseCore (h : (r.core c).slot = some id) :
    ((r.releaseCore c id).2.core c).slot = none := by
  have hfree := (rebound_setCoreSlot r c none c).trans (if_pos rfl)
  simp only [releaseCore, if_pos h]
  split
  · exact hfree
  · exact hfree

end Registry

namespace Host

variable {L P : Type} {h h' : Host L P} {slot : SlotId} {core : Option CoreId}

/-! ### Slots of the pool -/

/-- No other slot than this has the core. -/
def Ours (h : Host L P) (slot : SlotId) (core : Option CoreId) : Prop :=
  ∀ c owner, core = some c → (h.registry.core c).slot = some owner → owner = slot

/-- A core is taken from a slot just when another slot has it. -/
private lemma freeCore_cases (h : Host L P) (slot : SlotId) (c : CoreId) :
    h.freeCore slot c = h ∧ h.Ours slot (some c) ∨
      ∃ owner, (h.registry.core c).slot = some owner ∧ owner ≠ slot ∧
        h.freeCore slot c = { h with registry := (h.registry.releaseCore c owner).2 } := by
  simp only [freeCore]
  split
  · rename_i hfree
    refine .inl ⟨rfl, fun c' owner hc howner => ?_⟩
    cases hc
    cases hfree.symm.trans howner
  · rename_i owner howner
    split_ifs with hslot
    · refine .inl ⟨rfl, fun c' owner' hc howner' => ?_⟩
      cases hc
      cases howner.symm.trans howner'
      exact hslot
    · exact .inr ⟨owner, howner, hslot, rfl⟩

private lemma ours_vacate (h : Host L P) (slot : SlotId) (core : Option CoreId) :
    (h.vacate slot core).Ours slot core := by
  cases core with
  | none => exact nofun
  | some c =>
    rw [vacate]
    rcases freeCore_cases (h.dropTimers slot) slot c with ⟨heq, hours⟩ | ⟨owner, howner, _, heq⟩
    · exact heq.symm ▸ hours
    · rintro c' owner' hc howner'
      cases hc
      rw [heq] at howner'
      cases (Registry.core_releaseCore howner).symm.trans howner'

/-- In a slot of the pool each step of loading a driver succeeds. -/
private lemma exists_fill (factory : Factory P) (name : String)
    (hroom : slot.toNat < h.registry.maxSlots) (hours : h.Ours slot core) :
    ∃ h', h.fill factory slot name core = (.ok (), h') := by
  obtain ⟨r₁, hinstall⟩ := Registry.exists_install hroom name
  let h₁ : Host L P := { h with registry := r₁ }.record (.installed slot (h.holders slot))
  have hfresh : h.installFresh slot name = .ok h₁ := by
    simp only [installFresh, hinstall, Except.map]
    rfl
  have hs₁ : ∃ s, h₁.registry.slot? slot = some s :=
    ⟨_, ((Registry.updated_install hinstall).slot? slot).trans (if_pos rfl)⟩
  obtain ⟨s₁, hs₁⟩ := hs₁
  obtain ⟨h₂, s₂, hbind, hs₂⟩ : ∃ h₂ s₂, h₁.bindTo slot core = .ok h₂ ∧
      h₂.registry.slot? slot = some s₂ := by
    -- a core that is ours or free can be bound
    cases core with
    | none => exact ⟨h₁, s₁, rfl, hs₁⟩
    | some c =>
      have hours₁ : ∀ owner, (h₁.registry.core c).slot = some owner → owner = slot := by
        intro owner howner
        rw [show h₁.registry = r₁ from rfl, Registry.install_bindings hinstall] at howner
        split_ifs at howner
        exact hours c owner rfl howner
      obtain ⟨r₂, s₂, hbind, hs₂⟩ := Registry.exists_bindCore hs₁ hours₁
      refine ⟨{ h₁ with registry := r₂ }, s₂, ?_, hs₂⟩
      simp only [bindTo, hbind]
      rfl
  simp only [fill, hfresh, hbind, loadDriver]
  cases factory.create name with
  | none => exact ⟨h₂, rfl⟩
  | some driver =>
    simp only [setDriver, Registry.setDriver, Registry.getSlot, hs₂]
    exact ⟨_, rfl⟩

/-! ### Other slots -/

/-- What loading a driver that fails leaves behind: there is no such slot, and if another slot had
the core, the core is free now. -/
structure Refused (slot : SlotId) (core : Option CoreId) (error : RegistryError)
    (h h' : Host L P) : Prop where
  error : error = .unknownSlot slot.toNat
  outside : h.registry.maxSlots ≤ slot.toNat
  /-- Timers, the journal and all else but the registry are as before. -/
  others : h' = { h with registry := h'.registry }
  generation? : ∀ id, h'.registry.generation? id = h.registry.generation? id
  registry_iff : h'.registry = h.registry ↔ h.Ours slot core
  released : ∀ c owner, core = some c → (h.registry.core c).slot = some owner → owner ≠ slot →
    h'.registry = (h.registry.releaseCore c owner).2

/-- Where there is no slot, making room in it takes the core away and does nothing else. -/
private lemma refused_vacate (houtside : h.registry.maxSlots ≤ slot.toNat) (core : Option CoreId) :
    Refused slot core (.unknownSlot slot.toNat) h (h.vacate slot core) := by
  have hdrop : h.dropTimers slot = h := by
    rw [dropTimers, Registry.slot?_of_outside houtside]
    rfl
  cases core with
  | none =>
    rw [vacate, hdrop]
    exact ⟨rfl, houtside, rfl, fun _ => rfl, iff_of_true rfl (by simp [Ours]), by simp⟩
  | some c =>
    simp only [vacate, hdrop]
    -- the core is ours or free, or another slot loses it
    rcases freeCore_cases h slot c with ⟨heq, hours⟩ | ⟨owner, howner, hslot, heq⟩
    · rw [heq]
      refine ⟨rfl, houtside, rfl, fun _ => rfl, iff_of_true rfl hours, ?_⟩
      intro c' owner hc howner hslot
      exact absurd (hours c' owner hc howner) hslot
    · rw [heq]
      refine ⟨rfl, houtside, rfl, Registry.generation?_releaseCore _ c owner, iff_of_false ?_ ?_, ?_⟩
      -- releasing a core that is bound changes the registry
      · intro hsame
        have hsame : (h.registry.releaseCore c owner).2 = h.registry := hsame
        have hfree := Registry.core_releaseCore howner
        rw [hsame, howner] at hfree
        cases hfree
      · intro hours
        exact hslot (hours c owner rfl howner)
      · rintro c' owner' hc howner' _
        cases hc
        cases howner.symm.trans howner'
        rfl

private lemma fill_eq_ok {factory : Factory P} {name : String}
    (hfill : h.fill factory slot name core = (.ok (), h')) :
    ∃ h₁ h₂, h.installFresh slot name = .ok h₁ ∧ h₁.bindTo slot core = .ok h₂ ∧
      h₂.loadDriver factory slot name = .ok h' := by
  simp only [fill] at hfill
  split at hfill
  · cases hfill
  · rename_i h₁ hfresh
    split at hfill
    · cases hfill
    · rename_i h₂ hbind
      split at hfill
      · cases hfill
      · rename_i hload
        cases hfill
        exact ⟨h₁, h₂, hfresh, hbind, hload⟩

/-- Loading a driver goes through all its steps if there is such a slot, and ends with making room for
it if not. -/
lemma installDriver_cases (h : Host L P) (factory : Factory P) (slot : SlotId) (name : String)
    (core : Option CoreId) :
    h.registry.maxSlots ≤ slot.toNat ∧
        h.installDriver factory slot name core =
          (.error (.unknownSlot slot.toNat), h.vacate slot core) ∨
      ∃ h₁ h₂ h', (h.vacate slot core).installFresh slot name = .ok h₁ ∧
        h₁.bindTo slot core = .ok h₂ ∧ h₂.loadDriver factory slot name = .ok h' ∧
        h.installDriver factory slot name core = (.ok (), h') := by
  have hmaxSlots : (h.vacate slot core).registry.maxSlots = h.registry.maxSlots := by
    have hcalm : Calm (fun _ => True) (h.dropTimers slot) (h.vacate slot core) :=
      (vacate_calm h slot core).1
    rw [hcalm.maxSlots, registry_dropTimers]
  rw [← hmaxSlots]
  rcases Nat.lt_or_ge slot.toNat (h.vacate slot core).registry.maxSlots with hroom | houtside
  · obtain ⟨h', hfill⟩ := exists_fill factory name hroom (ours_vacate h slot core)
    obtain ⟨h₁, h₂, hfresh, hbind, hload⟩ := fill_eq_ok hfill
    exact .inr ⟨h₁, h₂, h', hfresh, hbind, hload, hfill⟩
  · have hfail : (h.vacate slot core).installFresh slot name = .error (.unknownSlot slot.toNat) := by
      rw [installFresh, Registry.install_of_outside houtside]
      rfl
    refine .inl ⟨houtside, ?_⟩
    simp only [installDriver, fill, hfail]

/-- Loading a driver fails only where there is no slot. -/
lemma refused_of_installDriver {factory : Factory P} {name : String} {error : RegistryError}
    (hload : h.installDriver factory slot name core = (.error error, h')) :
    Refused slot core error h h' := by
  rcases installDriver_cases h factory slot name core with
      ⟨houtside, heq⟩ | ⟨_, _, _, _, _, _, heq⟩
  · cases hload.symm.trans heq
    exact refused_vacate houtside core
  · cases hload.symm.trans heq

end Host

namespace Engine

variable {L P : Type} [Link L] [Driver P]

/-- Loading a driver fails only where there is no slot. The host is as before then, and no driver is
called, but the core that was asked for is free if another slot had it. An engine that cannot load a
driver keeps all else that it has. -/
theorem refused_of_error (slot : SlotId) (name : String) (core : Option CoreId)
    (error : RegistryError) :
    (∀ (h h' : Host L P) (factory : Factory P),
      h.installDriver factory slot name core = (.error error, h') →
        Host.Refused slot core error h h') ∧
      ∀ (e e' : Engine L P) (now : Nat), e.install now slot name core = some (.error error, e') →
        ∃ host, e' = { e with host } ∧ Host.Refused slot core error e.host host := by
  refine ⟨fun h h' factory => Host.refused_of_installDriver, fun e e' now hinstall => ?_⟩
  simp only [install] at hinstall
  split at hinstall
  · rename_i err host hload
    cases hinstall
    exact ⟨host, rfl, Host.refused_of_installDriver hload⟩
  · obtain ⟨_, _, heq⟩ := Option.map_eq_some_iff.mp hinstall
    cases heq

/-- An engine for two slots. -/
def twoSlots : Engine MemoryLink Empty :=
  create
    { bufferSize := 64, maxSlots := 2, maxResources := 4, maxTimers := 4, ackTimeout := 100,
      tracePackets := false, overloads := [] }
    {} {}

/-- A driver for a slot that there is not, on no core. -/
theorem refused_of_error_withoutCore :
    ∃ e : Engine MemoryLink Empty,
      twoSlots.install 0 ⟨7⟩ "out4" none = some (.error (.unknownSlot 7), e) ∧
        e.host.registry = twoSlots.host.registry ∧ e.host.journal = twoSlots.host.journal := by
  have hrun : (twoSlots.install 0 ⟨7⟩ "out4" none).map Prod.fst = some (.error (.unknownSlot 7)) := by
    decide
  obtain ⟨⟨result, e⟩, hinstall, hresult⟩ := Option.map_eq_some_iff.mp hrun
  cases hresult
  obtain ⟨host, rfl, hrefused⟩ := (refused_of_error _ _ _ _).2 _ _ _ hinstall
  have hjournal := congrArg (fun host : Host _ _ => host.journal) hrefused.others
  exact ⟨_, hinstall, hrefused.registry_iff.mpr nofun, hjournal⟩

/-- A core that a slot has is asked for by a driver for a slot that there is not. The driver is not
loaded, and the core is taken from its slot. -/
theorem core_of_refused :
    ∃ e e' : Engine MemoryLink Empty,
      twoSlots.install 0 ⟨1⟩ "out4" (some (3 : Fin 16)) = some (.ok (), e) ∧
        (e.host.registry.core (3 : Fin 16)).slot = some ⟨1⟩ ∧
        e.install 0 ⟨7⟩ "out4" (some (3 : Fin 16)) = some (.error (.unknownSlot 7), e') ∧
        (e'.host.registry.core (3 : Fin 16)).slot = none := by
  have hrun : ((twoSlots.install 0 ⟨1⟩ "out4" (some (3 : Fin 16))).bind fun loaded =>
      (loaded.2.install 0 ⟨7⟩ "out4" (some (3 : Fin 16))).map fun failed =>
        (loaded.1, (loaded.2.host.registry.core (3 : Fin 16)).slot, failed.1,
          (failed.2.host.registry.core (3 : Fin 16)).slot)) =
      some (.ok (), some ⟨1⟩, .error (.unknownSlot 7), none) := by
    decide
  obtain ⟨⟨_, e⟩, hload, hrun⟩ := Option.bind_eq_some_iff.mp hrun
  obtain ⟨⟨_, e'⟩, hfail, hrun⟩ := Option.map_eq_some_iff.mp hrun
  simp only [Prod.mk.injEq] at hrun
  obtain ⟨rfl, hbefore, rfl, hafter⟩ := hrun
  exact ⟨e, e', hload, hbefore, hfail, hafter⟩

end Engine

end BoardLink
