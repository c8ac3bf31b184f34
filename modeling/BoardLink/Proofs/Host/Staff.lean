import BoardLink.Host.Basic
import BoardLink.Proofs.Registry.Slots

/-!
# Who is in the slots of a host

Drivers come into slots as new instances and stay in the slot into which they came. Their serial
numbers tell the calls of each one apart in the journal.
-/

namespace BoardLink

/-! ### Calls in the journal -/

namespace Journal

/-- The calls of one instance, in order. -/
def calls (j : Journal) (serial : Nat) : List Callback :=
  j.filterMap fun
    | .called _ serial' c => if serial' = serial then some c else none
    | _ => none

lemma calls_append (j j' : Journal) (serial : Nat) :
    Journal.calls (j ++ j') serial = j.calls serial ++ j'.calls serial :=
  List.filterMap_append

/-- The journal goes on, and nobody is called. -/
def Continues (j j' : Journal) : Prop :=
  ∃ entries : Journal, j' = j ++ entries ∧ ∀ serial, entries.calls serial = []

variable {j j' j'' : Journal}

lemma Continues.refl (j : Journal) : j.Continues j := ⟨[], (List.append_nil j).symm, fun _ => rfl⟩

lemma Continues.trans (h : j.Continues j') (h' : j'.Continues j'') : j.Continues j'' := by
  obtain ⟨entries, rfl, hentries⟩ := h
  obtain ⟨entries', rfl, hentries'⟩ := h'
  refine ⟨entries ++ entries', List.append_assoc .., ?_⟩
  intro serial
  rw [calls_append, hentries, hentries', List.append_nil]

lemma Continues.isPrefix (h : j.Continues j') : j <+: j' := by
  obtain ⟨entries, rfl, _⟩ := h
  exact List.prefix_append _ _

lemma Continues.calls_eq (h : j.Continues j') (serial : Nat) : j'.calls serial = j.calls serial := by
  obtain ⟨entries, rfl, hentries⟩ := h
  rw [calls_append, hentries, List.append_nil]

end Journal

/-- The drivers that an operation brings into slots. -/
def Op.Brings {P : Type} (factory : Factory P) (driver : Occupant P) : Op P → Prop
  | .registry (.setDriver _ driver') => driver' = driver
  | .installDriver _ name _ => factory.create name = some driver
  | _ => False

namespace Host

variable {L P : Type} {new : Instance P → Prop} {h h' h'' : Host L P}

/-- Drivers come into slots only if they are `new`, with numbers that nobody has, and nobody is
called. -/
structure Staffs (new : Instance P → Prop) (h h' : Host L P) : Prop where
  maxSlots : h'.registry.maxSlots = h.registry.maxSlots
  hires : Registry.Hires new h.registry h'.registry
  nextSerial : h.nextSerial ≤ h'.nextSerial
  journal : h.journal.Continues h'.journal

namespace Staffs

lemma refl (h : Host L P) : Staffs new h h :=
  ⟨rfl, (Registry.Unchanged.refl _).hires, Nat.le_refl _, .refl _⟩

lemma trans (hs : Staffs new h h') (hs' : Staffs new h' h'') : Staffs new h h'' where
  maxSlots := hs'.maxSlots.trans hs.maxSlots
  hires := hs.hires.trans hs'.hires
  nextSerial := Nat.le_trans hs.nextSerial hs'.nextSerial
  journal := hs.journal.trans hs'.journal

/-- A change of anything but the registry. -/
lemma of_registry_eq (hregistry : h'.registry = h.registry) (hserial : h'.nextSerial = h.nextSerial)
    (hjournal : h.journal.Continues h'.journal) : Staffs new h h' := by
  refine ⟨by rw [hregistry], ?_, Nat.le_of_eq hserial.symm, hjournal⟩
  rw [hregistry]
  exact (Registry.Unchanged.refl _).hires

/-- Another value of a resource. -/
lemma setResource (h : Host L P) (slot : SlotId) (i : Nat) (r : Resource) :
    Staffs new h (h.setResource slot i r) := by
  refine ⟨?_, Registry.hires_setResource _ _ _ _, Nat.le_refl _, .refl _⟩
  cases hs : h.registry.slot? slot with
  | none =>
    show (h.registry.setResource slot i r).maxSlots = _
    rw [Registry.setResource, hs]
  | some s => exact (Registry.updated_setResource hs i r).maxSlots

/-- An edit of a slot that leaves its driver alone. -/
lemma of_onSlot {α : Type} {slot : SlotId}
    {f : Slot (Instance P) → Except RegistryError (α × Slot (Instance P))}
    (hf : ∀ s a s', f s = .ok (a, s') → s'.driver = s.driver) : Staffs new h (h.onSlot slot f).2 := by
  simp only [onSlot]
  split
  · exact refl h
  · rename_i s hs
    have hs := Registry.slot?_of_getSlot hs
    split
    · exact refl h
    · rename_i a s' hok
      have hupdated := Registry.updated_setSlot hs s'
      exact ⟨hupdated.maxSlots, hupdated.hires_of_driver hs (hf s a s' hok), Nat.le_refl _, .refl _⟩

/-- An edit that takes the driver out of a slot. -/
lemma of_taken {registry : Registry (Instance P)} {slot : SlotId} {s : Slot (Instance P)}
    (hupdated : h.registry.Updated slot { s with driver := none } registry) :
    Staffs new h { h with registry } :=
  ⟨hupdated.maxSlots, hupdated.hires_of_none rfl, Nat.le_refl _, .refl _⟩

end Staffs

/-- A driver that comes back, if it does, counts as new. -/
lemma restoreDriver_staffs (h : Host L P) (slot : SlotId) {inst : Instance P} (generation : UInt32)
    (hnew : new inst) :
    Staffs new h { h with registry := h.registry.restoreDriver slot inst generation } := by
  rcases Registry.restoreDriver_cases h.registry slot inst generation with
      heq | ⟨s, hs, _, hupdated⟩
  · rw [heq]
    exact .refl h
  · refine ⟨hupdated.maxSlots, hupdated.hires fun inst' hinst' => ?_, Nat.le_refl _, .refl _⟩
    cases hinst'
    exact .inr hnew

private lemma commandEntries_calls (h : Host L P) (c : Registry.Command (Occupant P))
    (answer : Registry.Answer) (serial : Nat) :
    Journal.calls (h.commandEntries c answer) serial = [] := by
  simp only [commandEntries]
  split <;> rfl

lemma command_staffs {c : Registry.Command (Occupant P)}
    (hnew : ∀ id driver n, h.nextSerial ≤ n → c = .setDriver id driver →
      new { serial := n, driver }) :
    Staffs new h (h.command c).2 := by
  simp only [command]
  split
  · exact .refl h
  · rename_i answer registry hperform
    refine ⟨Registry.perform_maxSlots hperform, Registry.perform_hires hperform fun id d hd => ?_,
      Nat.le_succ _, _, rfl, commandEntries_calls h c answer⟩
    cases c with
    | setDriver id' driver =>
      cases hd
      exact hnew id driver _ (Nat.le_refl _) rfl
    | _ => cases hd

end Host

end BoardLink
