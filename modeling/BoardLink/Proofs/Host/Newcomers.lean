import BoardLink.Proofs.Host.Run
import BoardLink.Proofs.Host.Step
import BoardLink.Proofs.Registry.Bindings

/-!
# Newcomers that leave slots alone

Drivers that do nothing to cores and to the slots of others when they are initialised can be
initialised one after the other: each of them is still as it came when its turn comes, and all slots
keep the cores that they had.
-/

namespace BoardLink

/-- What a slot was filled for: the name of its driver and its core. -/
def Slot.label {D : Type} (s : Slot D) : String × Option CoreId := (s.driverName, s.core)

namespace Registry

variable {D : Type} {r r' r'' : Registry D} {id : SlotId} {s s' : Slot D}
  {slots slots' : List SlotId}

/-- Nothing is done to cores, and to these slots alone, and they are for what they were for. -/
structure Spares (slots : List SlotId) (r r' : Registry D) : Prop where
  maxSlots : r'.maxSlots = r.maxSlots
  core : ∀ c, r'.core c = r.core c
  slot? : ∀ id ∉ slots, r'.slot? id = r.slot? id
  label : ∀ id, (r'.slot? id).map Slot.label = (r.slot? id).map Slot.label

namespace Spares

lemma refl (slots : List SlotId) (r : Registry D) : Spares slots r r :=
  ⟨rfl, fun _ => rfl, fun _ _ => rfl, fun _ => rfl⟩

lemma trans (h : Spares slots r r') (h' : Spares slots r' r'') : Spares slots r r'' where
  maxSlots := h'.maxSlots.trans h.maxSlots
  core c := (h'.core c).trans (h.core c)
  slot? id hid := (h'.slot? id hid).trans (h.slot? id hid)
  label id := (h'.label id).trans (h.label id)

lemma mono (h : Spares slots r r') (hsub : slots ⊆ slots') : Spares slots' r r' :=
  ⟨h.maxSlots, h.core, fun id hid => h.slot? id fun hmem => hid (hsub hmem), h.label⟩

end Spares

/-- Something else in a slot in use. -/
lemma Updated.spares (h : Updated r id s' r') (hs : r.slot? id = some s)
    (hlabel : s'.label = s.label) (hcore : ∀ c, r'.core c = r.core c) : Spares [id] r r' := by
  refine ⟨h.maxSlots, hcore, fun id' hid' => ?_, fun id' => ?_⟩
  · rw [h.slot?, if_neg (List.ne_of_not_mem_cons hid')]
  · rw [h.slot?]
    split_ifs with hid
    · rw [hid, hs, Option.map_some, Option.map_some, hlabel]
    · rfl

end Registry

/-! ### Operations on a slot of one's own -/

/-- Does the operation leave cores and the slots of other drivers alone? -/
def Op.staysHome {P : Type} : Op P → Bool
  | .bindCore _ | .installDriver .. | .registry _ => false
  | _ => true

namespace Host

open Registry

variable {L P : Type} {h h' : Host L P} {slot : SlotId}

private lemma spares_setResource (r : Registry (Instance P)) (slot : SlotId) (i : Nat)
    (resource : Resource) : Spares [slot] r (r.setResource slot i resource) := by
  cases hs : r.slot? slot with
  | none =>
    simp only [Registry.setResource, hs]
    exact .refl _ _
  | some s =>
    refine (updated_setResource hs i resource).spares hs rfl fun _ => ?_
    simp only [Registry.setResource, hs]
    rfl

private lemma onSlot_spares {α : Type}
    {f : Slot (Instance P) → Except RegistryError (α × Slot (Instance P))}
    (hf : ∀ s a s', f s = .ok (a, s') → s'.label = s.label) :
    Spares [slot] h.registry (h.onSlot slot f).2.registry := by
  simp only [onSlot]
  split
  · exact .refl _ _
  · rename_i s hs
    have hs := slot?_of_getSlot hs
    split
    · exact .refl _ _
    · exact (updated_setSlot hs _).spares hs (hf s _ _ ‹_›) fun _ => rfl

private lemma broadcast_spares (h : Host L P) (slot : SlotId) (i : Nat) (text : String) :
    Spares [slot] h.registry (h.broadcast slot i text).2.registry := by
  simp only [broadcast]
  split
  · exact .refl _ _
  · split
    · exact .refl _ _
    · split_ifs
      · exact spares_setResource h.registry slot i _
      · exact .refl _ _

lemma perform_spares [Link L] {setting : Setting P} {op : Op P} (hop : op.staysHome) (h : Host L P) :
    Spares [slot] h.registry (h.perform setting slot op).2.registry := by
  cases op with
  | bindCore | installDriver | registry => cases hop
  | setIdentity name description =>
    apply onSlot_spares
    intro s a s' hok
    cases hok
    rfl
  | addResource resource =>
    apply onSlot_spares
    intro s a s' hok
    obtain rfl := Slot.eq_of_addResource hok
    rfl
  | send packet =>
    simp only [perform, send]
    split <;> exact .refl _ _
  | addTimer kind period token =>
    simp only [perform]
    split <;> exact .refl _ _
  | awaitReply resource session token =>
    rcases armReply_cases h slot resource session setting.ackTimeout token setting.now with
        ⟨_, heq⟩ | ⟨r, timer, timers, _, _, _, heq⟩
    · simp only [perform, heq]
      exact .refl _ _
    · simp only [perform, heq]
      exact spares_setResource h.registry slot resource _
  | completeReply resource text =>
    rcases completeReply_cases h slot resource text with ⟨_, heq⟩ | ⟨r, hsettled, _⟩
    · simp only [perform, heq]
      exact .refl _ _
    · simp only [perform, hsettled.registry]
      exact spares_setResource h.registry slot resource _
  | broadcast resource text => exact broadcast_spares h slot resource text
  | view | sendTo | cancelTimer | say | prompt | note => exact .refl _ _

end Host

section Drivers

variable {P : Type} [Driver P]

/-- To initialise the driver does nothing to cores and to other slots than its own. -/
def Occupant.Unobtrusive (driver : Occupant P) : Prop :=
  ∀ (L : Type) [Link L] (setting : Host.Setting P) (slot : SlotId) (h : Host L P),
    (Host.run setting slot (driver.respond .init) h).2.2 = [] ∧
      h.registry.Spares [slot] (Host.run setting slot (driver.respond .init) h).2.1.registry

/-- It is enough that the driver works on its own slot alone. -/
lemma Occupant.unobtrusive_of_follows {driver : Occupant P} {known : Set TimerId}
    {post : Set TimerId → Except Error Unit × Occupant P → Prop}
    (hinit : (driver.respond .init).Follows (fun _ op => op.staysHome) post known) :
    driver.Unobtrusive := by
  intro L _ setting slot h
  refine (Host.run_follows
    (R := fun h h' slots => slots = [] ∧ h.registry.Spares [slot] h'.registry)
    (fun h => ⟨rfl, .refl _ _⟩) ?_ (fun {h known op} hop => ⟨?_, Host.perform_spares hop h⟩) hinit h).1
  · rintro h h' h'' _ _ ⟨rfl, hspares⟩ ⟨rfl, hspares'⟩
    exact ⟨rfl, hspares.trans hspares'⟩
  · exact Host.spawned_eq_nil (by rintro _ _ _ rfl; cases hop) _

namespace Host

variable {L : Type} [Link L] {setting : Setting P} {slot : SlotId} {h h' : Host L P}

/-- An unobtrusive driver is away for its initialisation and comes back. -/
lemma call_spares {inst : Instance P} {s : Slot (Instance P)} {result : Callback.init.Result}
    {slots : List SlotId} (hs : h.registry.slot? slot = some s) (hinst : s.driver = some inst)
    (hquiet : inst.driver.Unobtrusive)
    (hcall : h.call setting slot .init = some (result, h', slots)) :
    slots = [] ∧ h.registry.Spares [slot] h'.registry := by
  obtain ⟨inst', generation, taken, driver, h₁, htake, hrun, rfl⟩ := call_eq_some hcall
  obtain ⟨s', hs', hinst', hupdated⟩ := Registry.takeDriver_cases htake
  cases hs.symm.trans hs'
  cases hinst.symm.trans hinst'
  obtain ⟨hslots, hspares⟩ := hquiet L setting slot
    ({ h with registry := taken }.record (.called slot inst.serial .init))
  rw [hrun] at hslots hspares
  refine ⟨hslots, ((hupdated.spares hs rfl ?_).trans hspares).trans ?_⟩
  · exact Registry.core_takeDriver htake
  · rcases Registry.restoreDriver_cases h₁.registry slot { inst with driver } generation with
        heq | ⟨s₁, hs₁, _, hback⟩
    · exact heq.symm ▸ .refl _ _
    · exact hback.spares hs₁ rfl (Registry.core_restoreDriver _ _ _ _)

/-- Unobtrusive drivers are initialised one after the other, each of them once. -/
lemma initialise_spares (setting : Setting P) {limit : Nat} {slots : List SlotId}
    (hlimit : slots.length ≤ limit)
    (hnodup : slots.Nodup)
    (hquiet : ∀ slot ∈ slots, ∀ s inst, h.registry.slot? slot = some s → s.driver = some inst →
      inst.driver.Unobtrusive) :
    ∃ h', initialise setting limit slots h = some h' ∧ h.registry.Spares slots h'.registry := by
  induction slots generalizing limit h with
  | nil => exact ⟨h, initialise_nil setting limit h, .refl _ _⟩
  | cons slot slots ih =>
    obtain ⟨hslot, hnodup⟩ := List.nodup_cons.mp hnodup
    obtain ⟨limit, rfl⟩ := Nat.exists_eq_succ_of_ne_zero (Nat.ne_zero_of_lt hlimit)
    have hlimit : slots.length ≤ limit := Nat.le_of_succ_le_succ hlimit
    simp only [initialise]
    -- a slot without a driver at home is passed over, so the queue shrinks and nothing happens
    cases hcall : h.call setting slot .init with
    | none =>
      obtain ⟨h', hinit, hspares⟩ := ih hlimit hnodup fun slot' hslot' =>
        hquiet slot' (List.mem_cons_of_mem slot hslot')
      exact ⟨h', hinit, hspares.mono (List.subset_cons_self slot slots)⟩
    | some called =>
      obtain ⟨result, h₁, spawned⟩ := called
      obtain ⟨inst, generation, taken, _, _, htake, _⟩ := call_eq_some hcall
      obtain ⟨s, hs, hinst, _⟩ := Registry.takeDriver_cases htake
      obtain ⟨rfl, hfirst⟩ := call_spares hs hinst (hquiet slot List.mem_cons_self s inst hs hinst)
        hcall
      -- the first call left the later slots untouched, and they differ from the first by `hnodup`
      obtain ⟨h', hinit, hrest⟩ := ih (h := h₁) hlimit hnodup fun slot' hslot' s' inst' hs' => by
        rw [hfirst.slot? slot' fun hmem => hslot (List.mem_singleton.mp hmem ▸ hslot')] at hs'
        exact hquiet slot' (List.mem_cons_of_mem slot hslot') s' inst' hs'
      refine ⟨h', hinit, (hfirst.mono ?_).trans (hrest.mono (List.subset_cons_self slot slots))⟩
      exact List.cons_subset_cons slot (List.nil_subset slots)

end Host

end Drivers

end BoardLink
