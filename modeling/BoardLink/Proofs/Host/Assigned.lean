import BoardLink.Proofs.Host.Assignments

/-!
# Assignments over the steps of a host

The enumerator stays in the first slot, and all others that are called fill no slots. So its calls
alone decide which names slots have that were assigned to.
-/

namespace BoardLink

/-- The calls of the first instance go on when that instance is called, and at no other call. -/
lemma Host.calls_record_called {L P : Type} (h : Host L P) (slot : SlotId) (serial : Nat)
    (c : Callback) :
    (h.record (.called slot serial c)).journal.calls 0 =
      h.journal.calls 0 ++ if serial = 0 then [c] else [] := by
  rw [Host.record, Journal.calls_append]
  by_cases hserial : serial = 0
  · simp [Journal.calls, hserial]
  · simp [Journal.calls, hserial]

/-- The enumerator as the first instance of its host. -/
def Instance.first {P : Type} (e : Enumerator) : Instance P :=
  { serial := 0, driver := .enumerator e }

namespace Host

open Enumerator

variable {L P : Type} [Driver P] {setting : Setting P} {o : Overloads} {calls : List Callback}
  {h h' : Host L P}

/-- The instance is modest, or it is the enumerator in the first slot with its assignments. -/
def Posted (o : Overloads) (calls : List Callback) (slot : SlotId) (inst : Instance P) : Prop :=
  inst.Modest ∨
    slot = .enumerator ∧ ∃ e, inst = .first e ∧ e.Stands o calls

/-- Every slot that was assigned to has the name that it should have after the calls of the
enumerator, and nobody else fills slots. -/
structure Assigned (o : Overloads) (h : Host L P) : Prop where
  maxSlots_le : h.registry.maxSlots ≤ 65536
  fits : o.Fits h.registry.maxSlots
  nextSerial_pos : 0 < h.nextSerial
  posted : ∀ slot s inst, h.registry.slot? slot = some s → s.driver = some inst →
    Posted o (h.journal.calls 0) slot inst
  named : Named o (h.journal.calls 0) h

omit [Driver P] in
/-- Slots of the same names are named as before. -/
lemma Named.of_sameNames (hnamed : Named o calls h)
    (hpool : h'.registry.maxSlots = h.registry.maxSlots)
    (hsame : h.registry.SameNames h'.registry) : Named o calls h' := by
  intro hsettled k hk name hname
  rw [hsame]
  exact hnamed hsettled k (hpool ▸ hk) name hname

namespace Assigned

/-- Modest instances may come, as long as no slot is renamed. -/
lemma of_staffs (ha : Assigned o h) (hstaffs : Staffs Instance.Modest h h')
    (hsame : h.registry.SameNames h'.registry) : Assigned o h' where
  maxSlots_le := hstaffs.maxSlots ▸ ha.maxSlots_le
  fits := hstaffs.maxSlots ▸ ha.fits
  nextSerial_pos := Nat.lt_of_lt_of_le ha.nextSerial_pos hstaffs.nextSerial
  posted slot s inst hs hinst := by
    rw [hstaffs.journal.calls_eq]
    rcases hstaffs.hires slot s inst hs hinst with ⟨s', hs', hinst'⟩ | hmodest
    · exact ha.posted slot s' inst hs' hinst'
    · exact .inl hmodest
  named := by
    rw [hstaffs.journal.calls_eq]
    exact ha.named.of_sameNames hstaffs.maxSlots hsame

/-- A call of another instance is nothing to the enumerator. -/
lemma record_called (ha : Assigned o h) {serial : Nat} (hserial : serial ≠ 0) (slot : SlotId)
    (c : Callback) : Assigned o (h.record (.called slot serial c)) := by
  have hcalls : (h.record (.called slot serial c)).journal.calls 0 = h.journal.calls 0 := by
    rw [calls_record_called, if_neg hserial, List.append_nil]
  refine ⟨ha.maxSlots_le, ha.fits, ha.nextSerial_pos, ?_, ?_⟩
  · rw [hcalls]
    exact ha.posted
  · rw [hcalls]
    exact ha.named

/-- An instance comes back to its slot, if it does. -/
lemma restoreDriver (ha : Assigned o h) {slot : SlotId} {inst : Instance P}
    (hinst : Posted o (h.journal.calls 0) slot inst) (generation : UInt32) :
    Assigned o { h with registry := h.registry.restoreDriver slot inst generation } := by
  rcases Registry.restoreDriver_cases h.registry slot inst generation with
      heq | ⟨s, hs, _, hupdated⟩
  · rw [heq]
    exact ha
  · refine ⟨?_, ?_, ha.nextSerial_pos, fun slot' s' inst' hs' hinst' => ?_, ?_⟩
    · rw [hupdated.maxSlots]
      exact ha.maxSlots_le
    · rw [hupdated.maxSlots]
      exact ha.fits
    · rw [hupdated.slot?] at hs'
      split_ifs at hs' with hslot
      · cases hs'
        cases hinst'
        exact hslot ▸ hinst
      · exact ha.posted slot' s' inst' hs' hinst'
    · exact ha.named.of_sameNames hupdated.maxSlots (hupdated.sameNames hs rfl)

end Assigned

/-! ### Calls -/

variable [Link L]

omit [Link L] [Driver P] in
/-- The enumerator brings only drivers of the factory into slots. -/
private lemma modest_of_enumerates [Driver P] {known : Set TimerId} {op : Op P}
    (hfactory : ∀ name driver, setting.factory.create name = some driver → driver.Modest)
    (driver : Occupant P) (hop : Op.Enumerates known op)
    (hbrings : op.Brings setting.factory driver) : driver.Modest := by
  cases op with
  | installDriver target name core => exact hfactory name driver hbrings
  | registry command =>
    cases command with
    | setDriver => cases hop
    | _ => cases hbrings
  | _ => cases hbrings

omit [Link L] in
/-- Modest drivers bring only their like into slots. -/
lemma modest_of_brings {known : Set TimerId} {op : Op P} (driver : Occupant P)
    (hop : Op.Modest (Occupant.KeepsTo Op.Modest) known op)
    (hbrings : op.Brings setting.factory driver) : driver.Modest := by
  cases op with
  | installDriver => cases hop
  | registry command =>
    cases command with
    | setDriver id driver' =>
      cases hbrings
      exact ⟨known, hop⟩
    | _ => cases hbrings
  | _ => cases hbrings

/-- A modest driver leaves all assignments as they are. -/
private lemma run_modest {known : Set TimerId} {d : Occupant P} (setting : Setting P)
    (slot : SlotId) (c : Callback) (hd : d.KeepsTo Op.Modest known) (ha : Assigned o h) :
    let r := ends setting slot (d.respond c) h
    r.1.2.Modest ∧ Assigned o r.2 := by
  have hfollows := hd.respond modest_monotone c
  have hstaffs := ends_staffs setting slot modest_of_brings hfollows ha.nextSerial_pos
  obtain ⟨⟨_, hsame⟩, known', hmodest⟩ := ends_sameNames setting slot Op.Modest.fills hfollows h
  exact ⟨⟨known', hmodest⟩, ha.of_staffs hstaffs hsame⟩

/-- The enumerator does what the call is for, and stays what it is. -/
private lemma run_enumerator {e : Enumerator} (slot : SlotId) (c : Callback)
    (hfactory : ∀ name driver, setting.factory.create name = some driver → driver.Modest)
    (hstands : e.Stands o calls) (hnamed : Named o calls h) (hmax : h.registry.maxSlots ≤ 65536)
    (ho : o.Fits h.registry.maxSlots) (hserial : 0 < h.nextSerial) :
    let r := ends setting slot (Occupant.respond (.enumerator e) c) h
    (∃ e', r.1.2 = .enumerator e' ∧ e'.Stands o (calls ++ [c])) ∧
      Named o (calls ++ [c]) r.2 ∧ Staffs Instance.Modest h r.2 := by
  have hknows : e.Knows {id | e.ackTimer = some id} := fun id hid => hid
  have hstaffs := ends_staffs setting slot (modest_of_enumerates hfactory)
    (e.respond_enumerates (P := P) hknows c) hserial
  obtain ⟨hstands', hnamed'⟩ := ends_respond setting slot hstands hnamed hmax ho c
  rw [Occupant.respond, ends_bind]
  exact ⟨⟨_, rfl, hstands'⟩, hnamed', hstaffs⟩

private lemma call_modest {slot : SlotId} {c : Callback} {inst : Instance P} {generation : UInt32}
    {registry : Registry (Instance P)} {driver : Occupant P} {result : c.Result} {h₁ : Host L P}
    (ha : Assigned o h) (hinst : inst.Modest)
    (htake : h.registry.takeDriver slot = some (inst, generation, registry))
    (hends : ends setting slot (inst.driver.respond c)
      ({ h with registry }.record (.called slot inst.serial c)) = ((result, driver), h₁)) :
    Assigned o
      { h₁ with registry := h₁.registry.restoreDriver slot { inst with driver } generation } := by
  obtain ⟨hserial, known, hmodest⟩ := hinst
  obtain ⟨s, hs, _, hupdated⟩ := Registry.takeDriver_cases htake
  -- the instance is away for the whole call, so nobody is assigned to its seat meanwhile
  have haway : Assigned o { h with registry } :=
    ha.of_staffs (.of_taken hupdated) (hupdated.sameNames hs rfl)
  have hrun := run_modest setting slot c hmodest (haway.record_called hserial slot c)
  rw [hends] at hrun
  obtain ⟨hmodest', ha₁⟩ := hrun
  -- whatever the driver did, what comes back is the same instance in a modest state
  have hback : Posted o (h₁.journal.calls 0) slot { inst with driver } := .inl ⟨hserial, hmodest'⟩
  exact ha₁.restoreDriver hback generation

private lemma call_enumerator {c : Callback} {e : Enumerator} {generation : UInt32}
    {registry : Registry (Instance P)} {driver : Occupant P} {result : c.Result} {h₁ : Host L P}
    (hfactory : ∀ name driver, setting.factory.create name = some driver → driver.Modest)
    (ha : Assigned o h) (hstands : e.Stands o (h.journal.calls 0))
    (htake : h.registry.takeDriver .enumerator = some (.first e, generation, registry))
    (hends : ends setting .enumerator (Occupant.respond (.enumerator e) c)
      ({ h with registry }.record (.called .enumerator 0 c)) = ((result, driver), h₁)) :
    Assigned o { h₁ with
      registry := h₁.registry.restoreDriver .enumerator { serial := 0, driver } generation } := by
  obtain ⟨s, hs, _, hupdated⟩ := Registry.takeDriver_cases htake
  have hpool : registry.maxSlots = h.registry.maxSlots := hupdated.maxSlots
  -- while the enumerator is away from its slot there are none but modest instances
  have hmodest : ∀ slot s inst, registry.slot? slot = some s → s.driver = some inst →
      inst.Modest := by
    intro slot s' inst hs' hinst
    rw [hupdated.slot?] at hs'
    split_ifs at hs' with hslot
    · cases hs'
      cases hinst
    · exact (ha.posted slot s' inst hs' hinst).resolve_right fun hpost => hslot hpost.1
  have hrun := run_enumerator (h := { h with registry }.record (.called .enumerator 0 c))
    .enumerator c hfactory hstands
    (ha.named.of_sameNames hpool (hupdated.sameNames hs rfl)) (hpool ▸ ha.maxSlots_le)
    (hpool ▸ ha.fits) ha.nextSerial_pos
  rw [hends] at hrun
  obtain ⟨⟨e', rfl, hstands'⟩, hnamed', hstaffs⟩ := hrun
  have hcalls : h₁.journal.calls 0 = h.journal.calls 0 ++ [c] := by
    rw [hstaffs.journal.calls_eq, calls_record_called, if_pos rfl]
  have hpool₁ : h₁.registry.maxSlots = h.registry.maxSlots := hstaffs.maxSlots.trans hpool
  rw [← hcalls] at hstands' hnamed'
  have ha₁ : Assigned o h₁ := by
    refine ⟨hpool₁ ▸ ha.maxSlots_le, hpool₁ ▸ ha.fits,
      Nat.lt_of_lt_of_le ha.nextSerial_pos hstaffs.nextSerial, ?_, hnamed'⟩
    intro slot s inst hs hinst
    rcases hstaffs.hires slot s inst hs hinst with ⟨s', hs', hinst'⟩ | hnew
    · exact .inl (hmodest slot s' inst hs' hinst')
    · exact .inl hnew
  exact ha₁.restoreDriver (.inr ⟨rfl, e', rfl, hstands'⟩) generation

/-- Whoever is called, the names stay what they should be. -/
private lemma call_assigned {slot : SlotId} {c : Callback} {result : c.Result} {slots : List SlotId}
    (hfactory : ∀ name driver, setting.factory.create name = some driver → driver.Modest)
    (ha : Assigned o h) (hcall : h.call setting slot c = some (result, h', slots)) :
    Assigned o h' := by
  obtain ⟨inst, generation, registry, driver, h₁, htake, hrun, rfl⟩ := call_eq_some hcall
  obtain ⟨s, hs, hinst, _⟩ := Registry.takeDriver_cases htake
  have hends : ends setting slot (inst.driver.respond c)
      ({ h with registry }.record (.called slot inst.serial c)) = ((result, driver), h₁) := by
    rw [ends, hrun]
  rcases ha.posted slot s inst hs hinst with hmodest | ⟨rfl, e, rfl, hstands⟩
  · exact call_modest ha hmodest htake hends
  · exact call_enumerator hfactory ha hstands htake hends

/-! ### Steps -/

lemma Step.assigned (hstep : Step setting h h')
    (hfactory : ∀ name driver, setting.factory.create name = some driver → driver.Modest)
    (ha : Assigned o h) : Assigned o h' := by
  cases hstep with
  | call hcall => exact call_assigned hfactory ha hcall
  | transmit | tell => exact ha.of_staffs (.of_registry_eq rfl rfl (.refl _)) (.refl _)
  | @fire timer expiry timers hfire =>
    have hfired : Staffs Instance.Modest h ({ h with timers }.record (.fired timer expiry.owner)) :=
      .of_registry_eq rfl rfl ⟨_, rfl, fun _ => rfl⟩
    exact ha.of_staffs (hfired.trans (expireReplies_staffs _ expiry.owner timer))
      (expireReplies_sameNames _ expiry.owner timer)
  | arm slot i session timeout token =>
    exact ha.of_staffs (armReply_staffs h slot i session timeout token _)
      (armReply_sameNames h slot i session timeout token _)
  | abandon slot i session =>
    rcases abandonReply_cases h slot i session with ⟨_, heq⟩ | ⟨r, hsettled, _⟩
    · rw [heq]
      exact ha
    · exact ha.of_staffs hsettled.staffs hsettled.sameNames
  | @subscribe slot i r broadcast hr =>
    exact ha.of_staffs (.setResource h slot i _)
      (Registry.sameNames_setResource h.registry slot i _)

/-- The names stay what they should be for as long as steps are taken. -/
lemma Steps.assigned (hsteps : Steps setting h h')
    (hfactory : ∀ name driver, setting.factory.create name = some driver → driver.Modest)
    (ha : Assigned o h) : Assigned o h' :=
  hsteps.preserve (fun hstep ha => hstep.assigned hfactory ha) ha

/-! ### Starting -/

omit [Link L] [Driver P] in
private lemma updated_installFresh {slot : SlotId} {name : String}
    (hinstall : h.installFresh slot name = .ok h') :
    h'.nextSerial = h.nextSerial ∧
      h.registry.Updated slot (.fresh slot name h.registry.maxResources) h'.registry := by
  obtain ⟨registry, hregistry, rfl⟩ := except_map_eq_ok.mp hinstall
  exact ⟨rfl, Registry.updated_install hregistry⟩

omit [Link L] [Driver P] in
private lemma updated_setDriver {slot : SlotId} {driver : Occupant P}
    (hset : h.setDriver slot driver = .ok h') :
    h'.nextSerial = h.nextSerial + 1 ∧ ∃ s, h.registry.slot? slot = some s ∧
      h.registry.Updated slot { s with driver := some { serial := h.nextSerial, driver } }
        h'.registry := by
  obtain ⟨registry, hregistry, rfl⟩ := except_map_eq_ok.mp hset
  exact ⟨rfl, Registry.setDriver_cases hregistry⟩

omit [Link L] in
/-- When the enumerator has come into its slot on a new host, nothing is settled. -/
lemma assigned_of_start {h₁ h₂ : Host L P} (hfree : ∀ id, h.registry.slot? id = none)
    (hjournal : h.journal = []) (hserial : h.nextSerial = 0) (hmax : h.registry.maxSlots ≤ 65536)
    (ho : o.Fits h.registry.maxSlots)
    (hinstall : h.installFresh .enumerator Enumerator.name = .ok h₁)
    (hset : h₁.setDriver .enumerator (.enumerator (.ofOverloads o)) = .ok h₂) : Assigned o h₂ := by
  have hcalm : Calm (fun _ => True) h h₂ :=
    (installFresh_calm hinstall).trans (setDriver_calm hset trivial)
  have hcalls : h₂.journal.calls 0 = [] := by
    rw [hcalm.journal.calls_eq, hjournal]
    rfl
  obtain ⟨hserial₁, hinstalled⟩ := updated_installFresh hinstall
  obtain ⟨hserial₂, s, hs, hfilled⟩ := updated_setDriver hset
  refine ⟨hcalm.maxSlots ▸ hmax, hcalm.maxSlots ▸ ho, hserial₂ ▸ Nat.succ_pos _, ?_, ?_⟩
  · intro slot s' inst hs' hinst
    rw [hfilled.slot?] at hs'
    split_ifs at hs' with hslot
    · cases hs'
      cases hinst
      rw [hserial₁, hserial, hcalls]
      exact .inr ⟨hslot, .ofOverloads o, rfl, rfl, rfl⟩
    · rw [hinstalled.slot?, if_neg hslot, hfree] at hs'
      cases hs'
  · rw [hcalls]
    exact fun hsettled => Bool.noConfusion hsettled

end Host

end BoardLink
