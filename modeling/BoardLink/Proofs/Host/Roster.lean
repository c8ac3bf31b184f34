import BoardLink.Proofs.Host.Minor
import BoardLink.Proofs.Host.Run
import BoardLink.Proofs.Host.Turns

/-!
# Who comes into which slots

Drivers that are loaded come as new instances into slots that are then to be initialised. Whoever is
in such a slot after a call came during the call, and whoever is in another slot was there before.
-/

namespace BoardLink

/-! ### Counting in the journal -/

/-- Does the entry say that the slot was filled? -/
def Entry.fills (slot : SlotId) : Entry → Bool
  | .installed slot' _ => slot' = slot
  | _ => false

namespace Journal

/-- How often a slot was filled. -/
def fills (j : Journal) (slot : SlotId) : Nat := j.countP (Entry.fills slot)

/-- How often an instance was initialised. -/
def inits (j : Journal) (n : Nat) : Nat := (j.calls n).count .init

variable {j j' entries : Journal} {e : Entry} {slot : SlotId} {n : Nat}

lemma fills_append (j j' : Journal) (slot : SlotId) :
    fills (j ++ j') slot = j.fills slot + j'.fills slot := List.countP_append

lemma fills_concat (j : Journal) (he : e.fills slot = false) :
    fills (j ++ [e]) slot = j.fills slot := by
  simp [fills, he]

lemma fills_installed (j : Journal) (slot slot' : SlotId) (dropped : List SessionId) :
    fills (j ++ [.installed slot dropped]) slot' = j.fills slot' + if slot = slot' then 1 else 0 := by
  simp [fills, Entry.fills]

lemma fills_of_isMinor (h : ∀ e ∈ entries, e.isMinor) (slot : SlotId) : entries.fills slot = 0 := by
  refine List.countP_eq_zero.mpr fun e he => ?_
  have hminor := h e he
  cases e with
  | installed => cases hminor
  | _ => exact nofun

lemma calls_of_isMinor (h : ∀ e ∈ entries, e.isMinor) (n : Nat) : entries.calls n = [] := by
  refine List.filterMap_eq_nil_iff.mpr fun e he => ?_
  have hminor := h e he
  cases e with
  | called => cases hminor
  | _ => rfl

/-- Nobody is initialised where nobody is called. -/
lemma Continues.inits_eq (h : j.Continues j') (n : Nat) : j'.inits n = j.inits n := by
  rw [inits, inits, h.calls_eq]

lemma calls_called (j : Journal) (slot : SlotId) (m : Nat) (c : Callback) (n : Nat) :
    Journal.calls (j ++ [.called slot m c]) n = j.calls n ++ if m = n then [c] else [] := by
  rw [calls_append]
  by_cases hn : m = n
  · simp [calls, hn]
  · simp [calls, hn]

end Journal

namespace Host

variable {L P : Type} {h h' h'' : Host L P} {slot slot' : SlotId} {n n' : Nat}
  {slots slots' : List SlotId}

/-! ### Instances in slots -/

/-- The instance of that number is in the slot. -/
def Holds (h : Host L P) (slot : SlotId) (n : Nat) : Prop :=
  ∃ s inst, h.registry.slot? slot = some s ∧ s.driver = some inst ∧ inst.serial = n

/-- A slot holds one instance at most. -/
lemma Holds.eq (hn : h.Holds slot n) (hn' : h.Holds slot n') : n = n' := by
  obtain ⟨s, inst, hs, hinst, rfl⟩ := hn
  obtain ⟨s', inst', hs', hinst', rfl⟩ := hn'
  cases hs.symm.trans hs'
  cases hinst.symm.trans hinst'
  rfl

lemma Holds.of_hires (hhires : Registry.Hires (fun _ => False) h.registry h'.registry)
    (hholds : h'.Holds slot n) : h.Holds slot n := by
  obtain ⟨s, inst, hs, hinst, rfl⟩ := hholds
  rcases hhires slot s inst hs hinst with ⟨s', hs', hinst'⟩ | hfalse
  · exact ⟨s', inst, hs', hinst', rfl⟩
  · exact hfalse.elim

/-- Another slot changed. -/
lemma Holds.of_updated {s : Slot (Instance P)}
    (hupdated : h.registry.Updated slot' s h'.registry) (hne : slot ≠ slot')
    (hholds : h'.Holds slot n) : h.Holds slot n := by
  obtain ⟨s', inst, hs', hinst, rfl⟩ := hholds
  rw [hupdated.slot?, if_neg hne] at hs'
  exact ⟨s', inst, hs', hinst, rfl⟩

/-- What a slot holds that was just changed. -/
lemma Holds.of_updated_self {s : Slot (Instance P)} {inst : Instance P}
    (hupdated : h.registry.Updated slot s h'.registry) (hdriver : s.driver = some inst)
    (hholds : h'.Holds slot n) : n = inst.serial := by
  obtain ⟨s', inst', hs', hinst, rfl⟩ := hholds
  rw [hupdated.slot?, if_pos rfl] at hs'
  cases hs'
  cases hinst.symm.trans hdriver
  rfl

/-- A slot was emptied. -/
lemma Holds.of_updated_none {s : Slot (Instance P)}
    (hupdated : h.registry.Updated slot' s h'.registry) (hdriver : s.driver = none)
    (hholds : h'.Holds slot n) : slot ≠ slot' ∧ h.Holds slot n := by
  have hne : slot ≠ slot' := by
    rintro rfl
    obtain ⟨s', inst, hs', hinst, _⟩ := hholds
    rw [hupdated.slot?, if_pos rfl] at hs'
    cases hs'
    cases hinst.symm.trans hdriver
  exact ⟨hne, hholds.of_updated hupdated hne⟩

/-- While a driver is called, it is in no slot. -/
lemma Holds.of_takeDriver {inst : Instance P} {generation : UInt32}
    (htake : h.registry.takeDriver slot = some (inst, generation, h'.registry))
    (hholds : h'.Holds slot' n) : slot' ≠ slot ∧ h.Holds slot' n := by
  obtain ⟨s, _, _, hupdated⟩ := Registry.takeDriver_cases htake
  exact hholds.of_updated_none hupdated rfl

lemma holds_of_takeDriver {inst : Instance P} {generation : UInt32}
    {registry : Registry (Instance P)}
    (htake : h.registry.takeDriver slot = some (inst, generation, registry)) :
    h.Holds slot inst.serial := by
  obtain ⟨s, hs, hinst, _⟩ := Registry.takeDriver_cases htake
  exact ⟨s, inst, hs, hinst, rfl⟩

/-- After a call a driver comes back at most into its own slot, and only if the slot was not filled. -/
lemma Holds.of_restoreDriver {inst : Instance P} {generation : UInt32}
    (hrestore : h'.registry = h.registry.restoreDriver slot inst generation)
    (hholds : h'.Holds slot' n) : h.Holds slot' n ∨
      slot' = slot ∧ n = inst.serial ∧ h.registry.generation? slot = some generation := by
  rcases Registry.restoreDriver_cases h.registry slot inst generation with
      heq | ⟨s, hs, hnone, hupdated⟩
  · obtain ⟨s, inst', hs, hinst', rfl⟩ := hholds
    rw [hrestore, heq] at hs
    exact .inl ⟨s, inst', hs, hinst', rfl⟩
  -- the slot changes only when its generation is still the one given
  · have hgeneration : h.registry.generation? slot = some generation := by
      have hchanged : h.registry.restoreDriver slot inst generation ≠ h.registry := fun heq => by
        have hsame := hupdated.slot? slot
        rw [heq, hs, if_pos rfl] at hsame
        cases (congrArg Slot.driver (Option.some.inj hsame)).symm.trans hnone
      exact Registry.generation?_of_restoreDriver hchanged
    rw [← hrestore] at hupdated
    by_cases hslot : slot' = slot
    · subst hslot
      exact .inr ⟨rfl, hholds.of_updated_self hupdated rfl, hgeneration⟩
    · exact .inl (hholds.of_updated hupdated hslot)

/-- Each instance is in one slot at most, and the next instance will have a number of its own. -/
structure Seated (h : Host L P) : Prop where
  lt : ∀ slot n, h.Holds slot n → n < h.nextSerial
  unique : ∀ slot slot' n, h.Holds slot n → h.Holds slot' n → slot = slot'

/-- Instances only go. -/
lemma Seated.of_holds (hs : h.Seated) (hserial : h.nextSerial ≤ h'.nextSerial)
    (hholds : ∀ slot n, h'.Holds slot n → h.Holds slot n) : h'.Seated where
  lt slot n hn := Nat.lt_of_lt_of_le (hs.lt slot n (hholds slot n hn)) hserial
  unique slot slot' n hn hn' := hs.unique slot slot' n (hholds slot n hn) (hholds slot' n hn')

/-- Whoever is in a slot after a driver came into one is that driver, or was there before in another
slot. -/
lemma Holds.of_setDriver {driver : Occupant P} (hset : h.setDriver slot driver = .ok h')
    (hholds : h'.Holds slot' n) :
    slot' = slot ∧ n = h.nextSerial ∨ slot' ≠ slot ∧ h.Holds slot' n := by
  obtain ⟨registry, hregistry, rfl⟩ := except_map_eq_ok.mp hset
  obtain ⟨s, hs, hupdated⟩ := Registry.setDriver_cases hregistry
  by_cases heq : slot' = slot
  · subst heq
    exact .inl ⟨rfl, hholds.of_updated_self (h := h) hupdated rfl⟩
  · exact .inr ⟨heq, hholds.of_updated (h := h) hupdated heq⟩

lemma Seated.setDriver {driver : Occupant P} (hs : h.Seated)
    (hset : h.setDriver slot driver = .ok h') : h'.Seated := by
  have hserial : h'.nextSerial = h.nextSerial + 1 := by
    obtain ⟨registry, _, rfl⟩ := except_map_eq_ok.mp hset
    rfl
  refine ⟨fun slot' n hn => ?_, fun slot₁ slot₂ n hn₁ hn₂ => ?_⟩
  · rw [hserial]
    rcases hn.of_setDriver hset with ⟨_, rfl⟩ | ⟨_, hn⟩
    · exact Nat.lt_succ_self _
    · exact Nat.lt_succ_of_lt (hs.lt slot' n hn)
  · rcases hn₁.of_setDriver hset with ⟨rfl, hnew⟩ | ⟨_, hold⟩
    · rcases hn₂.of_setDriver hset with ⟨rfl, _⟩ | ⟨_, hold⟩
      · rfl
      · exact absurd hnew (Nat.ne_of_lt (hs.lt slot₂ n hold))
    · rcases hn₂.of_setDriver hset with ⟨rfl, hnew⟩ | ⟨_, hold'⟩
      · exact absurd hnew (Nat.ne_of_lt (hs.lt slot₁ n hold))
      · exact hs.unique slot₁ slot₂ n hold hold'

/-- The generation of a place tells how often its slot was filled. -/
def Dated (h : Host L P) : Prop :=
  ∀ slot g, h.registry.generation? slot = some g → g = .ofNat (h.journal.fills slot)

lemma Dated.of_eq (hd : h.Dated)
    (hgeneration : ∀ slot, h'.registry.generation? slot = h.registry.generation? slot)
    (hfills : ∀ slot, h'.journal.fills slot = h.journal.fills slot) : h'.Dated := by
  intro slot g hg
  rw [hgeneration] at hg
  rw [hfills]
  exact hd slot g hg

/-! ### Manning slots -/

variable [Driver P]

/-- New instances come into these slots and no others, after which those who were there before are
gone, and nobody is called. -/
structure Mans (h h' : Host L P) (slots : List SlotId) : Prop where
  nextSerial : h.nextSerial ≤ h'.nextSerial
  hires : Registry.Hires (fun inst => inst.driver.Loads) h.registry h'.registry
  holds : ∀ slot n, h'.Holds slot n → h.Holds slot n ∧ slot ∉ slots ∨
    h.nextSerial ≤ n ∧ n < h'.nextSerial ∧ slot ∈ slots
  journal : h.journal.Continues h'.journal
  fills : ∀ slot, h.journal.fills slot ≤ h'.journal.fills slot
  filled : ∀ slot ∈ slots, h.journal.fills slot < h'.journal.fills slot
  seated : h.Seated → h'.Seated
  dated : h.Dated → h'.Dated

namespace Mans

lemma trans (hm : Mans h h' slots) (hm' : Mans h' h'' slots') : Mans h h'' (slots ++ slots') where
  nextSerial := Nat.le_trans hm.nextSerial hm'.nextSerial
  hires := hm.hires.trans hm'.hires
  journal := hm.journal.trans hm'.journal
  fills slot := Nat.le_trans (hm.fills slot) (hm'.fills slot)
  seated hs := hm'.seated (hm.seated hs)
  dated hd := hm'.dated (hm.dated hd)
  holds slot n hn := by
    rw [List.mem_append]
    rcases hm'.holds slot n hn with ⟨hn, hnot'⟩ | ⟨hle, hlt, hmem⟩
    · rcases hm.holds slot n hn with ⟨hn, hnot⟩ | ⟨hle, hlt, hmem⟩
      · exact .inl ⟨hn, not_or.mpr ⟨hnot, hnot'⟩⟩
      · exact .inr ⟨hle, Nat.lt_of_lt_of_le hlt hm'.nextSerial, .inl hmem⟩
    · exact .inr ⟨Nat.le_trans hm.nextSerial hle, hlt, .inr hmem⟩
  filled slot hmem := by
    rcases List.mem_append.mp hmem with hmem | hmem
    · exact Nat.lt_of_lt_of_le (hm.filled slot hmem) (hm'.fills slot)
    · exact Nat.lt_of_le_of_lt (hm.fills slot) (hm'.filled slot hmem)

/-- Nobody comes. -/
lemma minor (hminor : Minor h h') : Mans h h' [] := by
  obtain ⟨entries, hjournal, hentries⟩ := hminor.journal
  have hfills (slot : SlotId) : h'.journal.fills slot = h.journal.fills slot := by
    rw [hjournal, Journal.fills_append, Journal.fills_of_isMinor hentries, Nat.add_zero]
  have hholds (slot : SlotId) (n : Nat) (hn : h'.Holds slot n) : h.Holds slot n :=
    hn.of_hires hminor.hires
  exact ⟨hminor.nextSerial,
    fun slot s inst hs hinst => (hminor.hires slot s inst hs hinst).imp_right False.elim,
    fun slot n hn => .inl ⟨hholds slot n hn, List.not_mem_nil⟩,
    ⟨entries, hjournal, Journal.calls_of_isMinor hentries⟩,
    fun slot => Nat.le_of_eq (hfills slot).symm, nofun,
    fun hs => hs.of_holds hminor.nextSerial hholds,
    fun hd => hd.of_eq hminor.places.generation? hfills⟩

lemma refl (h : Host L P) : Mans h h [] := .minor (.refl h)

/-- A fresh instance without driver comes into a slot. -/
lemma install {name : String} {dropped : List SessionId}
    (hinstall : h.registry.install slot name = .ok h'.registry)
    (hserial : h.nextSerial ≤ h'.nextSerial)
    (hjournal : h'.journal = h.journal ++ [.installed slot dropped])
    (hslots : ∀ slot' ∈ slots, slot' = slot) : Mans h h' slots := by
  have hupdated := Registry.updated_install hinstall
  have hholds (slot' : SlotId) (n : Nat) (hn : h'.Holds slot' n) : slot' ≠ slot ∧ h.Holds slot' n :=
    hn.of_updated_none hupdated rfl
  have hfills (slot' : SlotId) : h'.journal.fills slot' =
      h.journal.fills slot' + if slot = slot' then 1 else 0 := by
    rw [hjournal, Journal.fills_installed]
  -- the fresh slot is empty: whoever is seated afterwards sat elsewhere before
  refine ⟨hserial, hupdated.hires_of_none rfl, fun slot' n hn => ?_, ⟨_, hjournal, fun _ => rfl⟩,
    fun slot' => hfills slot' ▸ Nat.le_add_right _ _, fun slot' hmem => ?_,
    fun hs => hs.of_holds hserial fun slot' n hn => (hholds slot' n hn).2, fun hd slot' g hg => ?_⟩
  · obtain ⟨hne, hn⟩ := hholds slot' n hn
    exact .inl ⟨hn, fun hmem => hne (hslots slot' hmem)⟩
  · rw [hfills, if_pos (hslots slot' hmem).symm]
    exact Nat.lt_succ_self _
  · rw [Registry.generation?_install hinstall] at hg
    rw [hfills]
    split_ifs at hg with hslot
    · obtain ⟨g', hg', rfl⟩ := Option.map_eq_some_iff.mp hg
      rw [if_pos hslot.symm, hd slot' g' hg', UInt32.ofNat_add]
      rfl
    · rw [if_neg fun heq => hslot heq.symm]
      exact hd slot' g hg

/-- A driver comes into one of the slots. -/
lemma setDriver {driver : Occupant P} (hm : Mans h h' slots) (hslot : slot ∈ slots)
    -- the new instance takes the next serial, which nobody bears yet
    (hset : h'.setDriver slot driver = .ok h'') (hdriver : driver.Loads) : Mans h h'' slots := by
  have hholds (slot' : SlotId) (n : Nat) (hn : h''.Holds slot' n) := hn.of_setDriver hset
  have hseated (hs : h'.Seated) : h''.Seated := hs.setDriver hset
  obtain ⟨registry, hregistry, rfl⟩ := except_map_eq_ok.mp hset
  obtain ⟨s, hs, hupdated⟩ := Registry.setDriver_cases hregistry
  have hfills (slot' : SlotId) :
      Journal.fills (h'.journal ++ [.created h'.nextSerial slot]) slot' = h'.journal.fills slot' :=
    Journal.fills_concat _ rfl
  have hhires : Registry.Hires (fun inst => inst.driver.Loads) h'.registry registry := by
    refine hupdated.hires fun inst hinst => ?_
    cases hinst
    exact .inr hdriver
  refine ⟨Nat.le_succ_of_le hm.nextSerial, hm.hires.trans hhires, fun slot' n hn => ?_,
    hm.journal.trans ⟨_, rfl, fun _ => rfl⟩, fun slot' => (hfills slot').symm ▸ hm.fills slot',
    fun slot' hmem => (hfills slot').symm ▸ hm.filled slot' hmem, fun hs => hseated (hm.seated hs),
    fun hd => (hm.dated hd).of_eq (Registry.generation?_setDriver hregistry) hfills⟩
  rcases hholds slot' n hn with ⟨rfl, rfl⟩ | ⟨_, hn⟩
  · exact .inr ⟨hm.nextSerial, Nat.lt_succ_self _, hslot⟩
  · exact (hm.holds slot' n hn).imp_right fun ⟨hle, hlt, hmem⟩ =>
      ⟨hle, Nat.lt_succ_of_lt hlt, hmem⟩

/-- A timer is armed or fires. -/
lemma record {e : Entry} (h : Host L P) (timers : TimerTable) (hfills : ∀ slot, e.fills slot = false)
    (hcalls : ∀ n, Journal.calls [e] n = []) : Mans h ({ h with timers }.record e) [] := by
  have hfills' (slot : SlotId) : Journal.fills (h.journal ++ [e]) slot = h.journal.fills slot :=
    Journal.fills_concat _ (hfills slot)
  exact ⟨Nat.le_refl _, (Registry.Unchanged.refl _).hires,
    fun slot n hn => .inl ⟨hn, List.not_mem_nil⟩, ⟨_, rfl, hcalls⟩,
    fun slot => Nat.le_of_eq (hfills' slot).symm, nofun,
    fun hs => hs.of_holds (Nat.le_refl _) fun _ _ hn => hn, fun hd => hd.of_eq (fun _ => rfl) hfills'⟩

lemma arms {now : Nat} (harms : Arms now slot h h') : Mans h h' [] := by
  obtain ⟨_, _, _, id, timers, _, hminor⟩ := harms
  exact (record h timers (fun _ => rfl) fun _ => rfl).trans (.minor hminor)

end Mans

/-! ### Operations -/

/-- Loading a driver brings a new instance into its slot, or fails and brings in nobody. -/
lemma installDriver_mans {factory : Factory P}
    (hfactory : ∀ name driver, factory.create name = some driver → driver.Loads)
    (h : Host L P) (slot : SlotId) (name : String) (core : Option CoreId) :
    Mans h (h.installDriver factory slot name core).2
      (spawned (.installDriver slot name core : Op P) (h.installDriver factory slot name core).1) := by
  have hvacate : Mans h (h.vacate slot core) [] := .minor (vacate_minor h slot core)
  simp only [installDriver, fill]
  split
  · exact hvacate
  · rename_i h₁ hfresh
    obtain ⟨registry, hregistry, rfl⟩ := except_map_eq_ok.mp hfresh
    -- the slot was filled, whether or not what follows brings it a driver
    have hfilled {slots : List SlotId} (hslots : ∀ slot' ∈ slots, slot' = slot) :
        Mans h ({ h.vacate slot core with registry }.record
          (.installed slot ((h.vacate slot core).holders slot))) slots :=
      hvacate.trans (.install hregistry (Nat.le_refl _) rfl hslots)
    have hslot : ∀ slot' ∈ [slot], slot' = slot := fun _ => List.mem_singleton.mp
    have hnone : ∀ slot' ∈ [], slot' = slot := List.forall_mem_nil _
    split
    · exact hfilled hnone
    · rename_i h₂ hbind
      have hbound := Mans.minor (bindTo_minor hbind)
      split
      · exact (hfilled hnone).trans hbound
      · rename_i h₃ hload
        have hready : Mans h h₂ [slot] := (hfilled hslot).trans hbound
        simp only [loadDriver] at hload
        split at hload
        · rename_i driver hcreate
          exact hready.setDriver List.mem_cons_self hload (hfactory name driver hcreate)
        · cases hload
          exact hready

private lemma command_mans {known : Set TimerId} {c : Registry.Command (Occupant P)}
    (hop : Op.Loads (Occupant.KeepsTo Op.Loads) known (.registry c)) :
    Mans h (h.command c).2 [] := by
  rcases command_minor h c with
      hminor | ⟨id, name, registry, hfills, heq⟩ | ⟨id, driver, registry, rfl, _⟩
  · exact .minor hminor
  · have hinstall : h.registry.install id name = .ok registry := by
      rcases hfills with ⟨_, halloc⟩ | ⟨_, hinstall⟩
      · exact Registry.install_of_allocate halloc
      · exact hinstall
    rw [heq]
    exact .install hinstall (Nat.le_succ _) rfl nofun
  · cases hop

variable [Link L] {setting : Setting P}

lemma perform_mans {known : Set TimerId} {op : Op P}
    (hfactory : ∀ name driver, setting.factory.create name = some driver → driver.Loads)
    (hop : Op.Loads (Occupant.KeepsTo Op.Loads) known op) :
    Mans h (h.perform setting slot op).2 (spawned op (h.perform setting slot op).1) := by
  cases hkind : op.staffs with
  | false =>
    rw [spawned_eq_nil (by rintro _ _ _ rfl; cases hkind)]
    rcases perform_minor setting h slot hkind with hminor | harms
    · exact .minor hminor
    · exact .arms harms
  | true =>
    cases op with
    | installDriver target name core => exact installDriver_mans hfactory h target name core
    | registry c => exact command_mans hop
    | _ => cases hkind

/-! ### Calls -/

/-- Every instance in a slot has a number of its own and brings in others only by loading them. -/
structure Roster (h : Host L P) : Prop where
  loads : ∀ slot s inst, h.registry.slot? slot = some s → s.driver = some inst → inst.driver.Loads
  seated : h.Seated
  dated : h.Dated
  /-- An instance that is yet to come was never called. -/
  calls : ∀ n, h.nextSerial ≤ n → h.journal.calls n = []

omit [Link L] in
lemma Mans.roster (hm : Mans h h' slots) (hr : h.Roster) : h'.Roster := by
  refine ⟨fun slot s inst hs hinst => ?_, hm.seated hr.seated, hm.dated hr.dated, fun n hn => ?_⟩
  · rcases hm.hires slot s inst hs hinst with ⟨s', hs', hinst'⟩ | hloads
    · exact hr.loads slot s' inst hs' hinst'
    · exact hloads
  · rw [hm.journal.calls_eq]
    exact hr.calls n (Nat.le_trans hm.nextSerial hn)

omit [Link L] in
/-- A driver that is called is away from its slot. -/
lemma roster_of_takeDriver {inst : Instance P} {generation : UInt32}
    {registry : Registry (Instance P)} (hr : h.Roster)
    (htake : h.registry.takeDriver slot = some (inst, generation, registry)) (c : Callback) :
    Roster ({ h with registry }.record (.called slot inst.serial c)) := by
  obtain ⟨s, _, _, hupdated⟩ := Registry.takeDriver_cases htake
  have hhires : Registry.Hires (fun _ => False) h.registry registry := hupdated.hires_of_none rfl
  refine ⟨fun slot s inst hs hinst => ?_, ?_, ?_, fun n hn => ?_⟩
  -- taking out seats nobody, so the hypothesis on newcomers is `False`
  · rcases hhires slot s inst hs hinst with ⟨s', hs', hinst'⟩ | hfalse
    · exact hr.loads slot s' inst hs' hinst'
    · exact hfalse.elim
  · exact hr.seated.of_holds (Nat.le_refl _) fun slot' n hn =>
      (Holds.of_takeDriver (h := h) htake hn).2
  · exact hr.dated.of_eq (Registry.generation?_takeDriver htake).2 fun _ =>
      Journal.fills_concat _ rfl
  · have hlt := hr.seated.lt slot _ (holds_of_takeDriver htake)
    have hne : inst.serial ≠ n := Nat.ne_of_lt (Nat.lt_of_lt_of_le hlt hn)
    refine (Journal.calls_called h.journal slot inst.serial c n).trans ?_
    rw [hr.calls n hn, if_neg hne, List.append_nil]

/-- What a call leads to: a driver is called while it is away from its slot, slots are manned, and it
comes back if its slot was not filled. -/
private lemma call_cases {c : Callback} {result : c.Result}
    (hfactory : ∀ name driver, setting.factory.create name = some driver → driver.Loads)
    (hr : h.Roster) (hcall : h.call setting slot c = some (result, h', slots)) :
    ∃ inst generation registry driver h₁,
      h.registry.takeDriver slot = some (inst, generation, registry) ∧
      Mans ({ h with registry }.record (.called slot inst.serial c)) h₁ slots ∧ driver.Loads ∧
      h' = { h₁ with
        registry := h₁.registry.restoreDriver slot { inst with driver } generation } := by
  obtain ⟨inst, generation, registry, driver, h₁, htake, hrun, rfl⟩ := call_eq_some hcall
  obtain ⟨s, hs, hinst, _⟩ := Registry.takeDriver_cases htake
  obtain ⟨known, hkeeps⟩ := hr.loads slot s inst hs hinst
  obtain ⟨hmans, known', hkeeps'⟩ := run_follows (R := Mans) Mans.refl Mans.trans
    (perform_mans hfactory) (hkeeps.respond loads_monotone c)
    ({ h with registry }.record (.called slot inst.serial c))
  rw [hrun] at hmans hkeeps'
  exact ⟨inst, generation, registry, driver, h₁, htake, hmans, ⟨known', hkeeps'⟩, rfl⟩

omit [Driver P] [Link L] in
/-- From one host to the other no slot is filled so often that its generation comes back. -/
def Unwrapped (h h' : Host L P) : Prop :=
  ∀ slot, h'.journal.fills slot < h.journal.fills slot + UInt32.size

/-- The instances in slots keep numbers of their own, and slots are filled and never cleared. -/
structure Grows (h h' : Host L P) : Prop where
  roster : h'.Roster
  nextSerial : h.nextSerial ≤ h'.nextSerial
  fills : ∀ slot, h.journal.fills slot ≤ h'.journal.fills slot

/-- The instances in slots after a turn that left these slots to be initialised. -/
structure Shifts (h h' : Host L P) (slots : List SlotId) : Prop extends Grows h h' where
  /-- Those in the slots left are new, and those in other slots were there before. -/
  holds : h.Unwrapped h' → ∀ slot n, h'.Holds slot n → h.Holds slot n ∧ slot ∉ slots ∨
    h.nextSerial ≤ n ∧ n < h'.nextSerial ∧ slot ∈ slots

omit [Link L] in
lemma Mans.shifts (hm : Mans h h' slots) (hr : h.Roster) : Shifts h h' slots :=
  ⟨⟨hm.roster hr, hm.nextSerial, hm.fills⟩, fun _ => hm.holds⟩

omit [Link L] in
/-- A driver that comes back is in no other slot. -/
private lemma roster_of_restoreDriver (slot : SlotId) (inst : Instance P) (generation : UInt32)
    (hr : h.Roster) (hloads : inst.driver.Loads) (hlt : inst.serial < h.nextSerial)
    (haway : ∀ slot, ¬ h.Holds slot inst.serial) :
    Roster { h with registry := h.registry.restoreDriver slot inst generation } := by
  have hholds (slot' : SlotId) (n : Nat) (hn : Holds { h with
      registry := h.registry.restoreDriver slot inst generation } slot' n) :
      h.Holds slot' n ∨ slot' = slot ∧ n = inst.serial :=
    (hn.of_restoreDriver rfl).imp_right fun ⟨hslot, hserial, _⟩ => ⟨hslot, hserial⟩
  have hback : Staffs (fun inst => inst.driver.Loads) h
      { h with registry := h.registry.restoreDriver slot inst generation } :=
    restoreDriver_staffs h slot generation hloads
  refine ⟨fun slot' s inst' hs hinst' => ?_, ⟨fun slot' n hn => ?_, fun slot₁ slot₂ n hn₁ hn₂ => ?_⟩,
    hr.dated.of_eq (Registry.generation?_restoreDriver _ slot inst generation) fun _ => rfl, hr.calls⟩
  · rcases hback.hires slot' s inst' hs hinst' with ⟨s', hs', hinst'⟩ | hloads
    · exact hr.loads slot' s' inst' hs' hinst'
    · exact hloads
  · rcases hholds slot' n hn with hn | ⟨_, rfl⟩
    · exact hr.seated.lt slot' n hn
    · exact hlt
  -- two seats with one serial: both old, or one is the instance coming back, which sat nowhere
  · rcases hholds slot₁ n hn₁ with hold | ⟨rfl, rfl⟩
    · rcases hholds slot₂ n hn₂ with hold' | ⟨rfl, rfl⟩
      · exact hr.seated.unique slot₁ slot₂ n hold hold'
      · exact absurd hold (haway slot₁)
    · rcases hholds slot₂ _ hn₂ with hold | ⟨rfl, _⟩
      · exact absurd hold (haway slot₂)
      · rfl

private lemma ofNat_ne {a b : Nat} (hlt : a < b) (hsize : b < a + UInt32.size) :
    UInt32.ofNat a ≠ UInt32.ofNat b := by
  intro heq
  have hmod : a % UInt32.size = b % UInt32.size := by
    simpa using congrArg UInt32.toNat heq
  have hsize' : UInt32.size = 4294967296 := rfl
  rw [hsize'] at hmod hsize
  omega

omit [Driver P] [Link L] in
/-- A slot that was filled is in another generation. -/
lemma Dated.generation?_ne {generation : UInt32} (hd : h.Dated) (hd' : h'.Dated)
    (hunwrapped : h.Unwrapped h') (hfilled : h.journal.fills slot < h'.journal.fills slot)
    (hgeneration : h.registry.generation? slot = some generation) :
    h'.registry.generation? slot ≠ some generation := by
  intro hsame
  have hbefore := hd slot generation hgeneration
  have hafter := hd' slot generation hsame
  exact ofNat_ne hfilled (hunwrapped slot) (hbefore.symm.trans hafter)

/-- A call of the instance in a slot. -/
lemma call_shifts {c : Callback} {result : c.Result}
    (hfactory : ∀ name driver, setting.factory.create name = some driver → driver.Loads)
    (hr : h.Roster) (hcall : h.call setting slot c = some (result, h', slots)) :
    Shifts h h' slots ∧ ∃ m, h.Holds slot m ∧
      ∀ n, h'.journal.calls n = h.journal.calls n ++ if m = n then [c] else [] := by
  obtain ⟨inst, generation, registry, driver, h₁, htake, hmans, hloads, rfl⟩ :=
    call_cases hfactory hr hcall
  have hheld := holds_of_takeDriver htake
  have hlt := hr.seated.lt slot _ hheld
  have hr₁ := hmans.roster (roster_of_takeDriver hr htake c)
  have hfills₀ (slot' : SlotId) : Journal.fills (h.journal ++ [.called slot inst.serial c]) slot' =
      h.journal.fills slot' := Journal.fills_concat _ rfl
  -- whoever is in a slot when the program is through was there before in another slot, or is new
  have hholds₁ (slot' : SlotId) (n : Nat) (hn : h₁.Holds slot' n) :
      slot' ≠ slot ∧ h.Holds slot' n ∧ slot' ∉ slots ∨
        h.nextSerial ≤ n ∧ n < h₁.nextSerial ∧ slot' ∈ slots := by
    refine (hmans.holds slot' n hn).imp_left fun ⟨hn, hnot⟩ => ?_
    obtain ⟨hne, hn⟩ := hn.of_takeDriver (h := h) htake
    exact ⟨hne, hn, hnot⟩
  have haway (slot' : SlotId) : ¬ h₁.Holds slot' inst.serial := by
    intro hn
    rcases hholds₁ slot' _ hn with ⟨hne, hn, _⟩ | ⟨hle, _⟩
    · exact hne (hr.seated.unique _ _ _ hn hheld)
    · exact absurd hlt (Nat.not_lt_of_le hle)
  have hback := roster_of_restoreDriver slot { inst with driver } generation hr₁ hloads
    (Nat.lt_of_lt_of_le hlt hmans.nextSerial) haway
  refine ⟨⟨⟨hback, hmans.nextSerial, fun slot' => ?_⟩, fun hunwrapped slot' n hn => ?_⟩, inst.serial,
    hheld, fun n => ?_⟩
  · exact hfills₀ slot' ▸ hmans.fills slot'
  · rcases hn.of_restoreDriver (h := h₁) rfl with hn | ⟨rfl, rfl, hgeneration⟩
    · exact (hholds₁ slot' n hn).imp_left And.right
    · refine .inl ⟨hheld, fun hmem => ?_⟩
      have hfilled := hfills₀ slot' ▸ hmans.filled slot' hmem
      exact hr.dated.generation?_ne hr₁.dated hunwrapped hfilled
        (Registry.generation?_takeDriver htake).1 hgeneration
  · show h₁.journal.calls n = _
    rw [hmans.journal.calls_eq]
    exact Journal.calls_called h.journal slot inst.serial c n

end Host

end BoardLink
