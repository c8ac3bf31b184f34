import BoardLink.Proofs.Host.Waits
import BoardLink.Proofs.Registry.Slots

/-!
# Places that identifiers name

An identifier has sixteen bits, and a pool may have more places than that. Whatever a host does, it
does to places that an identifier names, so those beyond stay free.
-/

namespace BoardLink

namespace Registry

variable {D : Type} {r r' : Registry D} {id : SlotId} {k : Nat}

/-- What is in a place of the pool, whether or not an identifier names it. -/
def slotAt? (r : Registry D) (k : Nat) : Option (Slot D) := r.places[k]?.bind Place.slot

/-- No place is in use that is beyond all identifiers. -/
def Confined (r : Registry D) : Prop := ∀ k, 65536 ≤ k → r.slotAt? k = none

lemma slotAt?_toNat (r : Registry D) (id : SlotId) : r.slotAt? id.toNat = r.slot? id := by
  simp only [slotAt?, slot?]
  cases r.places[id.toNat]? <;> rfl

lemma slotAt?_empty (maxSlots maxResources k : Nat) :
    (empty maxSlots maxResources : Registry D).slotAt? k = none := by
  simp only [slotAt?, empty, Array.getElem?_replicate]
  split_ifs <;> rfl

/-- To change what an identifier names changes nothing beyond. -/
private lemma slotAt?_modify (r : Registry D) (id : SlotId) (f : Place D → Place D)
    (hk : 65536 ≤ k) :
    { r with places := r.places.modify id.toNat f }.slotAt? k = r.slotAt? k := by
  have hlt : id.toNat < 65536 := id.index.toNat_lt
  simp only [slotAt?, Array.getElem?_modify]
  rw [if_neg (Nat.ne_of_lt (Nat.lt_of_lt_of_le hlt hk))]

namespace Confined

lemma setCore (h : r.Confined) (c : CoreId) (core : Core) : (r.setCore c core).Confined := h

lemma setSlot (h : r.Confined) (id : SlotId) (s : Slot D) : (r.setSlot id s).Confined :=
  fun k hk => (slotAt?_modify r id _ hk).trans (h k hk)

lemma setResource (h : r.Confined) (id : SlotId) (i : Nat) (res : Resource) :
    (r.setResource id i res).Confined := by
  simp only [Registry.setResource]
  split
  · exact h.setSlot id _
  · exact h

lemma bindCore {c : CoreId} (h : r.Confined) (hbind : r.bindCore c id = .ok r') : r'.Confined := by
  simp only [Registry.bindCore] at hbind
  split at hbind
  · split_ifs at hbind
    cases hbind
    exact h
  · split at hbind
    · cases hbind
    · cases hbind
      exact (h.setSlot id _).setCore c _

lemma releaseCore (h : r.Confined) (c : CoreId) (id : SlotId) : (r.releaseCore c id).2.Confined := by
  simp only [Registry.releaseCore]
  split_ifs
  · have hfree := h.setCore c { r.core c with slot := none }
    split
    · exact hfree.setSlot id _
    · exact hfree
  · exact h

lemma install {name : String} (h : r.Confined) (hinstall : r.install id name = .ok r') :
    r'.Confined := by
  simp only [Registry.install] at hinstall
  split at hinstall
  · cases hinstall
  · cases hinstall
    intro k hk
    rw [slotAt?_modify _ id _ hk]
    split
    · exact h.setCore _ _ k hk
    · exact h k hk

lemma setDriver {driver : D} (h : r.Confined) (hset : r.setDriver id driver = .ok r') :
    r'.Confined := by
  obtain ⟨s, _, rfl⟩ := except_map_eq_ok.mp hset
  exact h.setSlot id _

lemma takeDriver {driver : D} {generation : UInt32} (h : r.Confined)
    (htake : r.takeDriver id = some (driver, generation, r')) : r'.Confined := by
  simp only [Registry.takeDriver] at htake
  split at htake
  · split at htake
    · cases htake
      exact h.setSlot id _
    · cases htake
  · cases htake

lemma restoreDriver (h : r.Confined) (id : SlotId) (driver : D) (generation : UInt32) :
    (r.restoreDriver id driver generation).Confined := by
  simp only [Registry.restoreDriver]
  split
  · split_ifs
    · exact h.setSlot id _
    · exact h
  · exact h

private lemma onResource {i : Nat} {f : Resource → Except RegistryError (Answer × Resource)}
    {a : Answer} (h : r.Confined) (hperform : r.onResource id i f = .ok (a, r')) :
    r'.Confined := by
  obtain ⟨s, _, hperform⟩ := except_bind_eq_ok.mp hperform
  split at hperform
  · cases hperform
    exact h
  · obtain ⟨_, _, hperform⟩ := except_bind_eq_ok.mp hperform
    cases hperform
    exact h.setSlot id _

lemma perform {c : Command D} {a : Answer} (h : r.Confined) (hperform : r.perform c = .ok (a, r')) :
    r'.Confined := by
  cases c with
  | allocate name =>
    obtain ⟨⟨id, r₁⟩, hallocate, heq⟩ := except_map_eq_ok.mp hperform
    cases heq
    exact h.install (install_of_allocate hallocate)
  | install id name =>
    obtain ⟨r₁, hinstall, heq⟩ := except_map_eq_ok.mp hperform
    cases heq
    exact h.install hinstall
  | bind c id =>
    obtain ⟨r₁, hbind, heq⟩ := except_map_eq_ok.mp hperform
    cases heq
    exact h.bindCore hbind
  | release c id =>
    cases hperform
    exact h.releaseCore c id
  | setDriver id driver =>
    obtain ⟨r₁, hset, heq⟩ := except_map_eq_ok.mp hperform
    cases heq
    exact h.setDriver hset
  -- the two lookups that can fail come before the registry is touched
  | addResource id resource =>
    obtain ⟨_, _, hperform⟩ := except_bind_eq_ok.mp hperform
    obtain ⟨_, _, hperform⟩ := except_bind_eq_ok.mp hperform
    cases hperform
    exact h.setSlot id _
  | identity id name description =>
    obtain ⟨_, _, hperform⟩ := except_bind_eq_ok.mp hperform
    cases hperform
    exact h.setSlot id _
  | lock | unlock | subscribe | unsubscribe => exact h.onResource hperform
  | _ =>
    cases hperform
    exact h

end Confined

end Registry

namespace Host

variable {L P : Type} {h h' : Host L P} {slot : SlotId} {i : Nat}

/-! ### Operations -/

private lemma onSlot_confined {α : Type}
    {f : Slot (Instance P) → Except RegistryError (α × Slot (Instance P))}
    (hc : h.registry.Confined) : (h.onSlot slot f).2.registry.Confined := by
  simp only [onSlot]
  split
  · exact hc
  · split
    · exact hc
    · exact hc.setSlot slot _

private lemma armReply_confined (hc : h.registry.Confined) (session : SessionId)
    (timeout token now : Nat) :
    (h.armReply slot i session timeout token now).2.registry.Confined := by
  rcases armReply_cases h slot i session timeout token now with
      ⟨_, heq⟩ | ⟨r, timer, timers, _, _, _, heq⟩
  · rw [heq]
    exact hc
  · rw [heq]
    exact hc.setResource slot i _

private lemma broadcast_confined (hc : h.registry.Confined) (text : String) :
    (h.broadcast slot i text).2.registry.Confined := by
  simp only [broadcast]
  split
  · exact hc
  · split
    · exact hc
    · split_ifs
      · exact hc.setResource slot i _
      · exact hc

lemma installFresh_confined {name : String} (hc : h.registry.Confined)
    (hfresh : h.installFresh slot name = .ok h') : h'.registry.Confined := by
  obtain ⟨registry, hinstall, rfl⟩ := except_map_eq_ok.mp hfresh
  exact hc.install hinstall

lemma setDriver_confined {driver : Occupant P} (hc : h.registry.Confined)
    (hset : h.setDriver slot driver = .ok h') : h'.registry.Confined := by
  obtain ⟨registry, hregistry, rfl⟩ := except_map_eq_ok.mp hset
  exact hc.setDriver hregistry

private lemma vacate_confined (hc : h.registry.Confined) (core : Option CoreId) :
    (h.vacate slot core).registry.Confined := by
  rw [← registry_dropTimers h slot] at hc
  cases core with
  | none => exact hc
  | some c =>
    simp only [vacate, freeCore]
    split
    · exact hc
    · split_ifs
      · exact hc
      · exact hc.releaseCore c _

private lemma bindTo_confined {core : Option CoreId} (hc : h.registry.Confined)
    (hbind : h.bindTo slot core = .ok h') : h'.registry.Confined := by
  cases core with
  | none =>
    cases hbind
    exact hc
  | some c =>
    obtain ⟨registry, hregistry, rfl⟩ := except_map_eq_ok.mp hbind
    exact hc.bindCore hregistry

private lemma loadDriver_confined {factory : Factory P} {name : String} (hc : h.registry.Confined)
    (hload : h.loadDriver factory slot name = .ok h') : h'.registry.Confined := by
  simp only [loadDriver] at hload
  split at hload
  · exact setDriver_confined hc hload
  · cases hload
    exact hc

lemma installDriver_confined (hc : h.registry.Confined) (factory : Factory P) (slot : SlotId)
    (name : String) (core : Option CoreId) :
    (h.installDriver factory slot name core).2.registry.Confined := by
  refine installDriver_rel (R := fun h h' => h.registry.Confined → h'.registry.Confined)
    (fun hfirst hsecond hc => hsecond (hfirst hc)) ?_ ?_ ?_ ?_ hc
  · exact fun hc => vacate_confined hc core
  · exact fun hfresh hc => installFresh_confined hc hfresh
  · exact fun hbind hc => bindTo_confined hc hbind
  · exact fun hload hc => loadDriver_confined hc hload

private lemma command_confined (hc : h.registry.Confined)
    (c : Registry.Command (Occupant P)) : (h.command c).2.registry.Confined := by
  simp only [command]
  split
  · exact hc
  · exact hc.perform ‹_›

private lemma expireReplies_confined (hc : h.registry.Confined) (timer : TimerId) :
    (h.expireReplies slot timer).registry.Confined := by
  simp only [expireReplies]
  split
  · exact hc
  · exact hc.setSlot slot _

variable [Link L] {s : Setting P}

private lemma perform_confined (s : Setting P) (slot : SlotId) (hc : h.registry.Confined)
    (op : Op P) :
    (h.perform s slot op).2.registry.Confined := by
  cases op with
  | setIdentity | addResource => exact onSlot_confined hc
  | bindCore core =>
    simp only [perform]
    split
    · exact hc
    · exact hc.bindCore ‹_›
  | send packet =>
    simp only [perform, send]
    split <;> exact hc
  | addTimer kind period token =>
    simp only [perform]
    split <;> exact hc
  | awaitReply i session token => exact armReply_confined hc session _ token _
  | completeReply i text =>
    rcases completeReply_cases h slot i text with ⟨_, heq⟩ | ⟨r, hsettled, _⟩
    · simp only [perform, heq]
      exact hc
    · simp only [perform, hsettled.registry]
      exact hc.setResource slot i _
  | broadcast i text => exact broadcast_confined hc text
  | installDriver target name core => exact installDriver_confined hc _ target name core
  | registry c => exact command_confined hc c
  | view | sendTo | cancelTimer | say | prompt | note => exact hc

/-! ### Steps -/

variable [Driver P]

private lemma call_confined {c : Callback} {result : c.Result} {slots : List SlotId}
    (hc : h.registry.Confined) (hcall : h.call s slot c = some (result, h', slots)) :
    h'.registry.Confined := by
  obtain ⟨inst, generation, registry, driver, h₁, htake, hrun, rfl⟩ := call_eq_some hcall
  have hduring := run_rel (R := fun h h' => h.registry.Confined → h'.registry.Confined)
    (fun _ => id) (fun hfirst hsecond hc => hsecond (hfirst hc))
    (fun h op hc => perform_confined s slot hc op) (inst.driver.respond c)
    ({ h with registry }.record (.called slot inst.serial c)) (hc.takeDriver htake)
  rw [hrun] at hduring
  exact hduring.restoreDriver slot _ generation

lemma Step.confined (hstep : Step s h h') (hc : h.registry.Confined) : h'.registry.Confined := by
  cases hstep with
  | call hcall => exact call_confined hc hcall
  | transmit | tell => exact hc
  | @fire id expiry timers hfire =>
    have hfired : ({ h with timers }.record (.fired id expiry.owner)).registry.Confined := hc
    exact expireReplies_confined hfired id
  | arm slot i session timeout token => exact armReply_confined hc session timeout token _
  | abandon slot i session =>
    rcases abandonReply_cases h slot i session with ⟨_, heq⟩ | ⟨r, hsettled, _⟩
    · rw [heq]
      exact hc
    · rw [hsettled.registry]
      exact hc.setResource slot i _
  | @subscribe slot i r broadcast hr => exact hc.setResource slot i _

end Host

end BoardLink
