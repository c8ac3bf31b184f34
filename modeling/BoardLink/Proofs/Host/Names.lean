import BoardLink.Proofs.Driver.Discipline
import BoardLink.Proofs.Host.Waits
import BoardLink.Proofs.Registry.Names

/-!
# Which operations rename slots

Loading a driver gives its slot the name of the driver. Nothing else that a driver does to a slot in
use changes the name, unless the driver commands the registry to fill a place.
-/

namespace BoardLink.Host

open Registry

variable {L P : Type} {h h' h'' : Host L P} {slot : SlotId} {name : String} {core : Option CoreId}

/-! ### Loading a driver -/

lemma freeCore_sameNames (h : Host L P) (slot : SlotId) (core : CoreId) :
    h.registry.SameNames (h.freeCore slot core).registry := by
  simp only [freeCore]
  split
  · exact .refl _
  · split_ifs
    · exact .refl _
    · exact sameNames_releaseCore h.registry core _

private lemma vacate_sameNames (h : Host L P) (slot : SlotId) (core : Option CoreId) :
    h.registry.SameNames (h.vacate slot core).registry := by
  rw [← registry_dropTimers h slot]
  cases core with
  | none => exact .refl _
  | some c => exact freeCore_sameNames _ slot c

private lemma bindTo_sameNames (hbind : h.bindTo slot core = .ok h') :
    h.registry.SameNames h'.registry := by
  cases core with
  | none =>
    cases hbind
    exact .refl _
  | some c =>
    obtain ⟨registry, hregistry, rfl⟩ := except_map_eq_ok.mp hbind
    exact sameNames_bindCore hregistry

lemma setDriver_sameNames {driver : Occupant P} (hset : h.setDriver slot driver = .ok h') :
    h.registry.SameNames h'.registry := by
  obtain ⟨registry, hregistry, rfl⟩ := except_map_eq_ok.mp hset
  exact sameNames_setDriver hregistry

private lemma loadDriver_sameNames {factory : Factory P}
    (hload : h.loadDriver factory slot name = .ok h') : h.registry.SameNames h'.registry := by
  simp only [loadDriver] at hload
  split at hload
  · exact setDriver_sameNames hload
  · cases hload
    exact .refl _

/-- Where there is a place for it, a slot that is filled has the name of its driver, found or not. -/
private lemma driverName?_fill (factory : Factory P) (hslot : slot.toNat < h.registry.maxSlots)
    (id : SlotId) :
    (h.fill factory slot name core).2.registry.driverName? id =
      if id = slot then some name else h.registry.driverName? id := by
  simp only [fill]
  split
  · rename_i e hinstall
    have hle := maxSlots_le_of_install_error (except_map_eq_error.mp hinstall)
    exact absurd hle (Nat.not_le_of_lt hslot)
  · rename_i h₁ hinstall
    obtain ⟨registry, hregistry, rfl⟩ := except_map_eq_ok.mp hinstall
    have hname := driverName?_install hregistry id
    split
    · exact hname
    · rename_i h₂ hbind
      have hbound := (bindTo_sameNames hbind id).trans hname
      split
      · exact hbound
      · exact (loadDriver_sameNames ‹_› id).trans hbound

lemma driverName?_installDriver (factory : Factory P) (name : String) (core : Option CoreId)
    (hslot : slot.toNat < h.registry.maxSlots) (id : SlotId) :
    (h.installDriver factory slot name core).2.registry.driverName? id =
      if id = slot then some name else h.registry.driverName? id := by
  have hcalm : Calm (fun _ => True) (h.dropTimers slot) (h.vacate slot core) :=
    (vacate_calm h slot core).1
  have hroom : slot.toNat < (h.vacate slot core).registry.maxSlots := by
    rw [hcalm.maxSlots, registry_dropTimers]
    exact hslot
  rw [installDriver, driverName?_fill factory hroom, vacate_sameNames]

/-! ### Operations -/

private lemma onSlot_sameNames {α : Type}
    {f : Slot (Instance P) → Except RegistryError (α × Slot (Instance P))}
    (hf : ∀ s a s', f s = .ok (a, s') → s'.driverName = s.driverName) :
    h.registry.SameNames (h.onSlot slot f).2.registry := by
  simp only [onSlot]
  split
  · exact .refl _
  · rename_i s hs
    have hs := slot?_of_getSlot hs
    split
    · exact .refl _
    · exact (updated_setSlot hs _).sameNames hs (hf s _ _ ‹_›)

lemma armReply_sameNames (h : Host L P) (slot : SlotId) (i : Nat) (session : SessionId)
    (timeout token now : Nat) :
    h.registry.SameNames (h.armReply slot i session timeout token now).2.registry := by
  rcases armReply_cases h slot i session timeout token now with
      ⟨_, heq⟩ | ⟨r, timer, timers, _, _, _, heq⟩
  · rw [heq]
    exact .refl _
  · rw [heq]
    exact sameNames_setResource h.registry slot i _

lemma Settled.sameNames {i : Nat} {r : Resource} (hsettled : Settled h slot i r h') :
    h.registry.SameNames h'.registry := by
  rw [hsettled.registry]
  exact sameNames_setResource h.registry slot i _

private lemma broadcast_sameNames (h : Host L P) (slot : SlotId) (i : Nat) (text : String) :
    h.registry.SameNames (h.broadcast slot i text).2.registry := by
  simp only [broadcast]
  split
  · exact .refl _
  · split
    · exact .refl _
    · split_ifs
      · exact sameNames_setResource h.registry slot i _
      · exact .refl _

private lemma command_sameNames {c : Command (Occupant P)} (hc : c.fills = false) :
    h.registry.SameNames (h.command c).2.registry := by
  simp only [command]
  split
  · exact .refl _
  · rename_i answer registry hperform
    apply sameNames_perform hperform
    cases c <;> first | rfl | cases hc

lemma expireReplies_sameNames (h : Host L P) (owner : SlotId) (timer : TimerId) :
    h.registry.SameNames (h.expireReplies owner timer).registry := by
  simp only [expireReplies]
  split
  · exact .refl _
  · rename_i s hs
    exact (updated_setSlot hs (expired s timer)).sameNames hs rfl

/-- An operation that fills no slot leaves all names as they are. -/
lemma perform_sameNames [Link L] {setting : Setting P} {op : Op P} (hop : op.fills = false) :
    h.registry.SameNames (h.perform setting slot op).2.registry := by
  cases op with
  | installDriver => cases hop
  | setIdentity name description =>
    apply onSlot_sameNames
    intro s a s' hok
    cases hok
    rfl
  | addResource resource =>
    apply onSlot_sameNames
    intro s a s' hok
    obtain rfl := Slot.eq_of_addResource hok
    rfl
  | bindCore core =>
    simp only [perform]
    split
    · exact .refl _
    · exact sameNames_bindCore ‹_›
  | send packet =>
    simp only [perform, send]
    split <;> exact .refl _
  | addTimer kind period token =>
    simp only [perform]
    split <;> exact .refl _
  | awaitReply resource session token => exact armReply_sameNames h slot resource session _ token _
  | completeReply resource text =>
    rcases completeReply_cases h slot resource text with ⟨_, heq⟩ | ⟨r, hsettled, _⟩
    · simp only [perform, heq]
      exact .refl _
    · exact hsettled.sameNames
  | broadcast resource text => exact broadcast_sameNames h slot resource text
  | registry command => exact command_sameNames hop
  | view | sendTo | cancelTimer | say | prompt | note => exact .refl _

end BoardLink.Host
