import BoardLink.Proofs.Host.Balance
import BoardLink.Proofs.Host.Run

/-!
# Discreet drivers keep the books

A driver that touches locks only by waiting for answers and telling them leaves the books balanced
whenever it is called, and so does every step of a host with such drivers.
-/

namespace BoardLink.Host

variable {L P : Type} [Link L] [Driver P] {h h' : Host L P} {setting : Setting P} {slot : SlotId}

/-! ### Calls -/

/-- The books are balanced, and whoever is in a slot touches locks only by waiting for answers and
telling them. -/
structure Orderly (h : Host L P) : Prop where
  balanced : h.Balanced
  discreet : ∀ slot s inst, h.registry.slot? slot = some s → s.driver = some inst →
    inst.driver.Discreet

omit [Link L] in
lemma Orderly.of_hires (ho : h.Orderly) (hb : h'.Balanced)
    (hhires : Registry.Hires (fun inst => inst.driver.Discreet) h.registry h'.registry) :
    h'.Orderly := by
  refine ⟨hb, ?_⟩
  intro slot s inst hs hinst
  rcases hhires slot s inst hs hinst with ⟨s', hs', hinst'⟩ | hdiscreet
  · exact ho.discreet slot s' inst hs' hinst'
  · exact hdiscreet

private lemma perform_orderly {known : Set TimerId} {op : Op P}
    (hop : Op.Discreet (Occupant.KeepsTo Op.Discreet) known op)
    (hfactory : ∀ name driver, setting.factory.create name = some driver → driver.Discreet)
    (ho : h.Orderly) : (h.perform setting slot op).2.Orderly := by
  have hlocks : op.locks = false := by
    cases op with
    | addResource => exact Op.locks_addResource.mpr hop
    | registry command =>
      cases command with
      | setDriver => rfl
      | _ => exact hop
    | _ => rfl
  have hstaffs : Staffs (fun inst => inst.driver.Discreet) h (h.perform setting slot op).2 := by
    refine perform_staffs fun driver n _ hbrings => ?_
    cases op with
    | installDriver target name core => exact hfactory name driver hbrings
    | registry command =>
      cases command with
      | setDriver id driver' =>
        cases hbrings
        exact ⟨known, hop⟩
      | _ => cases hbrings
    | _ => cases hbrings
  exact ho.of_hires (perform_balanced ho.balanced hlocks) hstaffs.hires

/-- A call of a driver keeps the books, and all drivers stay discreet. -/
private lemma call_orderly {c : Callback} {result : c.Result} {slots : List SlotId}
    (hcall : h.call setting slot c = some (result, h', slots))
    (hfactory : ∀ name driver, setting.factory.create name = some driver → driver.Discreet)
    (ho : h.Orderly) : h'.Orderly := by
  obtain ⟨inst, generation, registry, driver, h₁, htake, hrun, rfl⟩ := call_eq_some hcall
  obtain ⟨s, hs, hinst, hupdated⟩ := Registry.takeDriver_cases htake
  obtain ⟨known, hkeeps⟩ := ho.discreet slot s inst hs hinst
  -- the driver is away from its slot while it runs
  have haway : ({ h with registry }.record (.called slot inst.serial c)).Orderly := by
    have hidle : Idle h { h with registry } :=
      .of_registry (hupdated.wait_eq hs (Slot.wait_of_resources rfl))
    exact ho.of_hires ((hidle.record rfl).balanced ho.balanced) (hupdated.hires_of_none rfl)
  obtain ⟨hrun', known', hkeeps'⟩ := ends_follows (R := fun h h' => h.Orderly → h'.Orderly)
    (fun _ => id) (fun hfirst hsecond ho => hsecond (hfirst ho))
    (fun hop => perform_orderly hop hfactory) (hkeeps.respond discreet_monotone c)
    ({ h with registry }.record (.called slot inst.serial c))
  rw [ends, hrun] at hrun' hkeeps'
  have ho₁ : h₁.Orderly := hrun' haway
  refine ho₁.of_hires (Idle.balanced (.of_registry ?_) ho₁.balanced) ?_
  · exact Registry.wait_restoreDriver h₁.registry slot _ generation
  · have hback : Staffs (fun inst => inst.driver.Discreet) h₁
        { h₁ with registry := h₁.registry.restoreDriver slot { inst with driver } generation } :=
      restoreDriver_staffs h₁ slot generation ⟨known', hkeeps'⟩
    exact hback.hires

/-- So does every step. -/
lemma Step.orderly (hstep : Step setting h h')
    (hfactory : ∀ name driver, setting.factory.create name = some driver → driver.Discreet)
    (ho : h.Orderly) : h'.Orderly := by
  cases hstep with
  | call hcall => exact call_orderly hcall hfactory ho
  | transmit transmitter hacks =>
    have hidle : Idle h { h with transmitter } := .of_journal_eq rfl rfl hacks
    exact ⟨hidle.balanced ho.balanced, ho.discreet⟩
  | tell outbox =>
    have hidle : Idle h { h with outbox } := .of_journal_eq rfl rfl rfl
    exact ⟨hidle.balanced ho.balanced, ho.discreet⟩
  | @fire timer expiry timers hfire =>
    have hfired : Idle h ({ h with timers }.record (.fired timer expiry.owner)) :=
      Idle.record (.of_journal_eq rfl rfl rfl) rfl
    exact ho.of_hires (expireReplies_balanced (hfired.balanced ho.balanced) expiry.owner timer)
      (expireReplies_staffs _ expiry.owner timer).hires
  | arm slot i session timeout token =>
    exact ho.of_hires (armReply_balanced ho.balanced slot i session timeout token _)
      (armReply_staffs h slot i session timeout token _).hires
  | abandon slot i session =>
    exact ho.of_hires (abandonReply_balanced ho.balanced slot i session)
      (abandonReply_staffs h slot i session).hires
  | @subscribe slot i r broadcast hr =>
    have hidle : Idle h (h.setResource slot i { r with broadcast }) := setResource_idle hr rfl rfl
    exact ho.of_hires (hidle.balanced ho.balanced) (Registry.hires_setResource _ _ _ _)

lemma Steps.orderly (hsteps : Steps setting h h')
    (hfactory : ∀ name driver, setting.factory.create name = some driver → driver.Discreet)
    (ho : h.Orderly) : h'.Orderly :=
  hsteps.preserve (fun hstep => hstep.orderly hfactory) ho

/-! ### Slots filled from outside -/

omit [Link L]

lemma installDriver_orderly {factory : Factory P}
    (hfactory : ∀ name driver, factory.create name = some driver → driver.Discreet)
    (ho : h.Orderly) (slot : SlotId) (name : String) (core : Option CoreId) :
    (h.installDriver factory slot name core).2.Orderly := by
  have hstaffs : Staffs (fun inst => inst.driver.Discreet) h
      (h.installDriver factory slot name core).2 :=
    installDriver_staffs fun driver _ _ hcreate => hfactory name driver hcreate
  exact ho.of_hires (installDriver_balanced ho.balanced factory slot name core) hstaffs.hires

lemma installFresh_orderly {name : String} (hinstall : h.installFresh slot name = .ok h')
    (ho : h.Orderly) : h'.Orderly :=
  ho.of_hires (installFresh_balanced hinstall ho.balanced) (installFresh_calm hinstall).hires

lemma setDriver_orderly {driver : Occupant P} (hset : h.setDriver slot driver = .ok h')
    (hdriver : driver.Discreet) (ho : h.Orderly) : h'.Orderly :=
  ho.of_hires ((setDriver_idle hset).balanced ho.balanced) (setDriver_calm hset hdriver).hires

end BoardLink.Host
