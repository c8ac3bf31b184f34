import BoardLink.Proofs.Host.Staff
import BoardLink.Proofs.Registry.Locks

/-!
# Changes that no wait notices

Most of what a host does touches neither locks nor timers: slots are filled and edited, packets are
sent, users are told things.
-/

namespace BoardLink

/-- Does the operation change a lock by itself, or bring in a resource that somebody waits for? -/
def Op.locks {P : Type} : Op P → Bool
  | .addResource resource => ¬resource.IsFree
  | .registry command => command.locks
  | _ => false

lemma Op.locks_addResource {P : Type} {res : Resource} :
    (addResource res : Op P).locks = false ↔ res.IsFree := by
  simp [locks]

/-- Does the operation arm or cancel timers or change locks? -/
def Op.touchesWaits {P : Type} : Op P → Bool
  | .addTimer .. | .cancelTimer _ | .awaitReply .. | .completeReply .. | .installDriver .. => true
  | op => op.locks

namespace Host

variable {L P : Type} {new : Instance P → Prop} {h h' h'' : Host L P}

/-- No timer changes, no lock is taken, and drivers come into slots only if they are `new`. -/
structure Calm (new : Instance P → Prop) (h h' : Host L P) : Prop extends Staffs new h h' where
  timers : h'.timers = h.timers
  quiet : Registry.Quiet h.registry h'.registry

namespace Calm

lemma refl (h : Host L P) : Calm new h h := ⟨.refl h, rfl, .refl _⟩

lemma trans (hcalm : Calm new h h') (hcalm' : Calm new h' h'') : Calm new h h'' where
  toStaffs := hcalm.toStaffs.trans hcalm'.toStaffs
  timers := hcalm'.timers.trans hcalm.timers
  quiet := hcalm.quiet.trans hcalm'.quiet

/-- A change of neither registry nor timers. -/
lemma of_registry_eq (hregistry : h'.registry = h.registry) (htimers : h'.timers = h.timers)
    (hserial : h'.nextSerial = h.nextSerial) (hjournal : h.journal.Continues h'.journal) :
    Calm new h h' := by
  refine ⟨.of_registry_eq hregistry hserial hjournal, htimers, ?_⟩
  rw [hregistry]
  exact .refl _

lemma of_unchanged {registry : Registry (Instance P)} (hunchanged : h.registry.Unchanged registry) :
    Calm new h { h with registry } :=
  ⟨⟨hunchanged.maxSlots, hunchanged.hires, Nat.le_refl _, .refl _⟩, rfl, hunchanged.quiet⟩

/-- An edit of a slot that leaves its driver alone, and that no wait notices. -/
lemma of_updated {registry : Registry (Instance P)} {slot : SlotId} {s s' : Slot (Instance P)}
    (hupdated : h.registry.Updated slot s' registry) (hs : h.registry.slot? slot = some s)
    (hquiet : s.Quiet s') (hdriver : s'.driver = s.driver) : Calm new h { h with registry } :=
  ⟨⟨hupdated.maxSlots, hupdated.hires_of_driver hs hdriver, Nat.le_refl _, .refl _⟩, rfl,
    hupdated.quiet hs hquiet⟩

end Calm

/-! ### Filling slots -/

lemma freeCore_calm (h : Host L P) (slot : SlotId) (core : CoreId) :
    Calm new h (h.freeCore slot core) := by
  simp only [freeCore]
  split
  · exact .refl h
  · rename_i owner howner
    split_ifs
    · exact .refl h
    · rcases Registry.releaseCore_cases h.registry core owner with hunchanged | ⟨s, hs, hupdated⟩
      · exact .of_unchanged hunchanged
      · exact .of_updated hupdated hs (.of_resources rfl) rfl

lemma bindCore_calm {core : CoreId} {slot : SlotId} {registry : Registry (Instance P)}
    (hbind : h.registry.bindCore core slot = .ok registry) : Calm new h { h with registry } := by
  rcases Registry.bindCore_cases hbind with rfl | ⟨s, hs, hupdated⟩
  · exact .refl h
  · exact .of_updated hupdated hs (.of_resources rfl) rfl

lemma installFresh_calm {slot : SlotId} {name : String}
    (hinstall : h.installFresh slot name = .ok h') : Calm new h h' := by
  obtain ⟨registry, hregistry, rfl⟩ := except_map_eq_ok.mp hinstall
  have hupdated := Registry.updated_install hregistry
  exact ⟨⟨hupdated.maxSlots, hupdated.hires_of_none rfl, Nat.le_refl _, _, rfl, fun _ => rfl⟩, rfl,
    hupdated.quiet_of_fresh⟩

lemma setDriver_calm {slot : SlotId} {driver : Occupant P}
    (hset : h.setDriver slot driver = .ok h') (hnew : new { serial := h.nextSerial, driver }) :
    Calm new h h' := by
  obtain ⟨registry, hregistry, rfl⟩ := except_map_eq_ok.mp hset
  obtain ⟨s, hs, hupdated⟩ := Registry.setDriver_cases hregistry
  have hhires : Registry.Hires new h.registry registry := by
    apply hupdated.hires
    intro d hd
    cases hd
    exact .inr hnew
  exact ⟨⟨hupdated.maxSlots, hhires, Nat.le_succ _, _, rfl, fun _ => rfl⟩, rfl,
    hupdated.quiet_of_resources hs rfl⟩

/-- No slot of that number holds resources. -/
def Bare (h : Host L P) (slot : SlotId) : Prop := ∀ i, h.registry.resource? slot i = none

private lemma installFresh_bare {slot : SlotId} {name : String}
    (hinstall : h.installFresh slot name = .ok h') : h'.Bare slot := by
  obtain ⟨registry, hregistry, rfl⟩ := except_map_eq_ok.mp hinstall
  intro i
  show registry.resource? slot i = none
  rw [Registry.resource?, (Registry.updated_install hregistry).slot?, if_pos rfl]
  rfl

private lemma bindTo_calm {slot : SlotId} {core : Option CoreId}
    (hbind : h.bindTo slot core = .ok h') : Calm new h h' ∧ (h.Bare slot → h'.Bare slot) := by
  cases core with
  | none =>
    cases hbind
    exact ⟨.refl h, id⟩
  | some c =>
    obtain ⟨registry, hregistry, rfl⟩ := except_map_eq_ok.mp hbind
    refine ⟨bindCore_calm hregistry, ?_⟩
    intro hbare i
    rcases Registry.bindCore_cases hregistry with rfl | ⟨s, hs, hupdated⟩
    · exact hbare i
    · exact (hupdated.resource?_eq hs rfl slot i).trans (hbare i)

private lemma loadDriver_calm {factory : Factory P} {slot : SlotId} {name : String}
    (hload : h.loadDriver factory slot name = .ok h')
    (hnew : ∀ driver n, h.nextSerial ≤ n → factory.create name = some driver →
      new { serial := n, driver }) :
    Calm new h h' ∧ (h.Bare slot → h'.Bare slot) := by
  simp only [loadDriver] at hload
  split at hload
  · rename_i driver hdriver
    refine ⟨setDriver_calm hload (hnew driver _ (Nat.le_refl _) hdriver), ?_⟩
    intro hbare i
    obtain ⟨registry, hregistry, rfl⟩ := except_map_eq_ok.mp hload
    obtain ⟨s, hs, hupdated⟩ := Registry.setDriver_cases hregistry
    exact (hupdated.resource?_eq hs rfl slot i).trans (hbare i)
  · cases hload
    exact ⟨.refl h, id⟩

/-- Filling a slot with room for it takes no lock, and in the end the slot has no resources, unless
there is no place for it. -/
private lemma fill_calm {factory : Factory P} {slot : SlotId} {name : String} {core : Option CoreId}
    (hnew : ∀ driver n, h.nextSerial ≤ n → factory.create name = some driver →
      new { serial := n, driver }) :
    Calm new h (h.fill factory slot name core).2 ∧
      (h.registry.slot? slot = none ∨ (h.fill factory slot name core).2.Bare slot) := by
  simp only [fill]
  split
  · rename_i e hinstall
    exact ⟨.refl h, .inl (Registry.slot?_of_install_error (except_map_eq_error.mp hinstall))⟩
  · rename_i h₁ hinstall
    have hcalm₁ : Calm new h h₁ := installFresh_calm hinstall
    have hbare₁ := installFresh_bare hinstall
    split
    · exact ⟨hcalm₁, .inr hbare₁⟩
    · rename_i h₂ hbind
      obtain ⟨hcalm₂, hbare₂⟩ := bindTo_calm hbind
      split
      · exact ⟨hcalm₁.trans hcalm₂, .inr (hbare₂ hbare₁)⟩
      · rename_i h₃ hload
        -- serials only grow on the way to the load, so the new instance is one the hypothesis covers
        have hserial := Nat.le_trans hcalm₁.nextSerial hcalm₂.nextSerial
        obtain ⟨hcalm₃, hbare₃⟩ :=
          loadDriver_calm hload fun driver n hle => hnew driver n (Nat.le_trans hserial hle)
        exact ⟨(hcalm₁.trans hcalm₂).trans hcalm₃, .inr (hbare₃ (hbare₂ hbare₁))⟩

private lemma slot?_of_freeCore {slot slot' : SlotId} {core : CoreId}
    (hnone : (h.freeCore slot core).registry.slot? slot' = none) :
    h.registry.slot? slot' = none := by
  simp only [freeCore] at hnone
  split at hnone
  · exact hnone
  · rename_i owner howner
    split_ifs at hnone
    · exact hnone
    · rcases Registry.releaseCore_cases h.registry core owner with hunchanged | ⟨s, hs, hupdated⟩
      · exact (hunchanged.slot? slot').symm.trans hnone
      · exact hupdated.slot?_eq_none hnone

lemma registry_dropTimers (h : Host L P) (slot : SlotId) :
    (h.dropTimers slot).registry = h.registry := by
  simp only [dropTimers]
  split_ifs <;> rfl

lemma nextSerial_dropTimers (h : Host L P) (slot : SlotId) :
    (h.dropTimers slot).nextSerial = h.nextSerial := by
  simp only [dropTimers]
  split_ifs <;> rfl

lemma vacate_calm (h : Host L P) (slot : SlotId) (core : Option CoreId) :
    Calm new (h.dropTimers slot) (h.vacate slot core) ∧
      ((h.vacate slot core).registry.slot? slot = none → h.registry.slot? slot = none) := by
  have hregistry := registry_dropTimers h slot
  cases core with
  | none => exact ⟨.refl _, fun hnone => hregistry ▸ hnone⟩
  | some c => exact ⟨freeCore_calm _ slot c, fun hnone => hregistry ▸ slot?_of_freeCore hnone⟩

/-- Loading a driver takes no lock once the timers of the occupant before are gone, and that
occupant's resources go with them. -/
lemma installDriver_calm {factory : Factory P} {slot : SlotId} {name : String}
    {core : Option CoreId}
    (hnew : ∀ driver n, h.nextSerial ≤ n → factory.create name = some driver →
      new { serial := n, driver }) :
    Calm new (h.dropTimers slot) (h.installDriver factory slot name core).2 ∧
      (h.registry.slot? slot = none ∨ (h.installDriver factory slot name core).2.Bare slot) := by
  obtain ⟨hvacate, hnone⟩ : Calm new (h.dropTimers slot) (h.vacate slot core) ∧ _ :=
    vacate_calm h slot core
  have hserial : h.nextSerial ≤ (h.vacate slot core).nextSerial :=
    nextSerial_dropTimers h slot ▸ hvacate.nextSerial
  obtain ⟨hfill, hbare⟩ := fill_calm (h := h.vacate slot core)
    fun driver n hle => hnew driver n (Nat.le_trans hserial hle)
  exact ⟨hvacate.trans hfill, hbare.imp_left hnone⟩

/-! ### Operations -/

private lemma onSlot_calm {α : Type} {slot : SlotId}
    {f : Slot (Instance P) → Except RegistryError (α × Slot (Instance P))}
    (hf : ∀ s a s', f s = .ok (a, s') → s.Quiet s' ∧ s'.driver = s.driver) :
    Calm new h (h.onSlot slot f).2 := by
  simp only [onSlot]
  split
  · exact .refl h
  · rename_i s hs
    have hs := Registry.slot?_of_getSlot hs
    split
    · exact .refl h
    · rename_i a s' hok
      obtain ⟨hquiet, hdriver⟩ := hf s a s' hok
      exact .of_updated (Registry.updated_setSlot hs s') hs hquiet hdriver

/-- Another value of a resource with the same lock and timer. -/
lemma setResource_calm {slot : SlotId} {i : Nat} {r r' : Resource}
    (hr : h.registry.resource? slot i = some r) (hlock : r'.lock = r.lock)
    (htimer : r'.pendingTimer = r.pendingTimer) : Calm new h (h.setResource slot i r') := by
  obtain ⟨s, hs, hr⟩ := Registry.resource?_eq_some.mp hr
  have hquiet := Registry.quiet_setResource hr hlock htimer
  exact ⟨.setResource h slot i r', rfl, (Registry.updated_setResource hs i r').quiet hs hquiet⟩

private lemma broadcast_calm (h : Host L P) (slot : SlotId) (i : Nat) (text : String) :
    Calm new h (h.broadcast slot i text).2 := by
  simp only [broadcast]
  split
  · exact .refl h
  · rename_i r hr
    split
    · exact .refl h
    · rename_i handle _
      have htold : Calm new h { h with outbox := (h.outbox.broadcast handle text).2 } :=
        .of_registry_eq rfl rfl rfl (.refl _)
      split_ifs
      · exact htold.trans (setResource_calm hr rfl rfl)
      · exact htold

private lemma command_calm {c : Registry.Command (Occupant P)} (hc : c.locks = false)
    (hnew : ∀ id driver n, h.nextSerial ≤ n → c = .setDriver id driver →
      new { serial := n, driver }) :
    Calm new h (h.command c).2 := by
  refine ⟨command_staffs hnew, ?_, ?_⟩
  all_goals
    simp only [command]
    split
  · rfl
  · rfl
  · exact .refl _
  · rename_i answer registry hperform
    exact Registry.perform_quiet hperform ((Registry.Command.locks_map _ c).trans hc)

variable [Link L]

/-- Operations that neither arm nor cancel timers nor change locks are calm. -/
lemma perform_calm {setting : Setting P} {slot : SlotId} {op : Op P} (hop : op.touchesWaits = false)
    (hnew : ∀ driver n, h.nextSerial ≤ n → op.Brings setting.factory driver →
      new { serial := n, driver }) :
    Calm new h (h.perform setting slot op).2 := by
  cases op with
  -- these touch timers or waits, which the hypothesis rules out
  | addTimer | cancelTimer | awaitReply | completeReply | installDriver => cases hop
  | view => exact .refl h
  | setIdentity name description =>
    apply onSlot_calm
    intro s a s' hok
    cases hok
    exact ⟨fun i res hres => .inr ⟨res, hres, rfl, rfl⟩, rfl⟩
  | addResource resource =>
    have hfree : resource.IsFree := (Op.locks_addResource (P := P)).mp hop
    apply onSlot_calm
    intro s a s' hok
    obtain rfl := Slot.eq_of_addResource hok
    exact ⟨Registry.quiet_addResource s hfree, rfl⟩
  | bindCore core =>
    simp only [perform]
    split
    · exact .refl h
    · exact bindCore_calm ‹_›
  | send packet =>
    simp only [perform, send]
    split
    · exact .refl h
    · exact .of_registry_eq rfl rfl rfl (.refl _)
  | sendTo core packet => exact .of_registry_eq rfl rfl rfl (.refl _)
  | say session text => exact .of_registry_eq rfl rfl rfl (.refl _)
  | prompt session => exact .of_registry_eq rfl rfl rfl (.refl _)
  | broadcast resource text => exact broadcast_calm h slot resource text
  | registry command =>
    refine command_calm hop fun id driver n hle hc => hnew driver n hle ?_
    rw [hc]
    rfl
  | note n => exact .of_registry_eq rfl rfl rfl ⟨_, rfl, fun _ => rfl⟩

end Host

end BoardLink
