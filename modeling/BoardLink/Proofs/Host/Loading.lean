import BoardLink.Proofs.Bytes
import BoardLink.Proofs.Host.Run
import BoardLink.Proofs.Overloads

/-!
# What the enumerator loads

After its lists of assignments and the board's table have been gone through, each slot has the name
that was assigned to it, else the one that the catalog has for its number in the table, else the name
it had before.
-/

namespace BoardLink

lemma SlotId.toNat_ofNat {n : Nat} (h : n < 65536) : (SlotId.ofNat n).toNat = n :=
  UInt16.toNat_ofNat_of_lt' h

/-- Slot numbers of sixteen bits are told apart. -/
lemma SlotId.ofNat_inj {m n : Nat} (hm : m < 65536) (hn : n < 65536) :
    SlotId.ofNat m = SlotId.ofNat n ↔ m = n := by
  constructor
  · intro h
    rw [← SlotId.toNat_ofNat hm, h, SlotId.toNat_ofNat hn]
  · exact congrArg _

namespace Host

open Enumerator

variable {L P : Type} [Link L] {setting : Setting P} {slot : SlotId} {h : Host L P} {n : Nat}

/-- Loading a driver into a slot of the pool renames that slot alone. -/
private lemma perform_installDriver {j : Nat} (setting : Setting P) (slot : SlotId) (name : String)
    (core : Option CoreId)
    (hpool : h.registry.maxSlots = n) (hn : n ≤ 65536) (hj : j < n) :
    let h' := (h.perform setting slot (.installDriver (.ofNat j) name core)).2
    h'.registry.maxSlots = n ∧ ∀ k < n, h'.registry.driverName? (.ofNat k) =
      if k = j then some name else h.registry.driverName? (.ofNat k) := by
  have hstaffs : Staffs (fun _ => True) h
      (h.installDriver setting.factory (.ofNat j) name core).2 :=
    installDriver_staffs fun _ _ _ _ => trivial
  refine ⟨hstaffs.maxSlots.trans hpool, ?_⟩
  intro k hk
  have hj' : j < 65536 := Nat.lt_of_lt_of_le hj hn
  have hslot : (SlotId.ofNat j).toNat < h.registry.maxSlots := by
    rw [SlotId.toNat_ofNat hj', hpool]
    exact hj
  refine (driverName?_installDriver setting.factory name core hslot (.ofNat k)).trans ?_
  simp only [SlotId.ofNat_inj (Nat.lt_of_lt_of_le hk hn) hj']

/-- All assignments take their slots. -/
private lemma driverName?_loadAll {o : Overloads} (hpool : h.registry.maxSlots = n) (hn : n ≤ 65536)
    (ho : o.Fits n) :
    let h' := (ends setting slot (loadAll o) h).2
    h'.registry.maxSlots = n ∧ ∀ k < n, h'.registry.driverName? (.ofNat k) =
      (o.get? k).or (h.registry.driverName? (.ofNat k)) := by
  induction o generalizing h with
  | nil => exact ⟨hpool, fun _ _ => rfl⟩
  | cons p rest ih =>
    obtain ⟨j, name⟩ := p
    obtain ⟨hpool', hstep⟩ := perform_installDriver setting slot name none
      hpool hn (ho.lt _ List.mem_cons_self)
    obtain ⟨hpool'', hrest⟩ := ih hpool' ho.tail
    refine ⟨hpool'', fun k hk => (hrest k hk).trans ?_⟩
    rw [hstep k hk, Overloads.get?_cons]
    by_cases hkj : k = j
    · rw [if_pos hkj, if_pos hkj, hkj, ho.get?_eq_none]
      rfl
    · rw [if_neg hkj, if_neg hkj]

/-- For each slot, whichever is left of the assignments or the name that was given comes to the same:
the assignment, else the name in the catalog, else the name before. -/
private lemma driverName?_loadCores (setting : Setting P) (slot : SlotId) {o : Overloads} (j : Nat)
    (ids : List (CoreId × UInt16))
    (hpool : h.registry.maxSlots = n) (hn : n ≤ 65536) (ho : o.Fits n) :
    let r := ends setting slot (loadCores n o j ids) h
    r.1.Fits n ∧ r.2.registry.maxSlots = n ∧ ∀ k < n,
      (r.1.get? k).or (r.2.registry.driverName? (.ofNat k)) =
        (o.get? k).or ((catalogName j (ids.map Prod.snd) k).or
          (h.registry.driverName? (.ofNat k))) := by
  -- the induction is on the table entries still to load; `j` is the slot the next one goes to
  induction ids generalizing h o j with
  | nil =>
    refine ⟨ho, hpool, ?_⟩
    intro k _
    rw [List.map_nil, catalogName_nil]
    rfl
  | cons p rest ih =>
    obtain ⟨core, id⟩ := p
    rw [List.map_cons]
    -- a zero id takes no slot, so `j` stays where it is
    by_cases hid : id = 0
    · simp only [hid, catalogName_zero]
      exact ih _ hpool ho
    · simp only [catalogName_cons hid, loadCores, if_neg hid]
      -- past the pool nothing is loaded, and no slot below `n` is named any more
      by_cases hj : n ≤ j
      · rw [if_pos hj]
        refine ⟨ho, hpool, ?_⟩
        intro k hk
        have hkj : k < j := Nat.lt_of_lt_of_le hk hj
        rw [if_neg (Nat.ne_of_lt hkj), catalogName_of_lt (Nat.lt_succ_of_lt hkj)]
        rfl
      · rw [if_neg hj]
        have hfor : driverFor o j id = (o.get? j).or ((Catalog.byId id).map Peripheral.name) :=
          Option.orElse_eq_or
        split
        · rename_i hnone
          obtain ⟨hfits, hpool', hrest⟩ := ih _ hpool ho
          refine ⟨hfits, hpool', fun k hk => (hrest k hk).trans ?_⟩
          obtain ⟨_, hcatalog⟩ := Option.or_eq_none_iff.mp (hfor.symm.trans hnone)
          by_cases hkj : k = j
          · rw [if_pos hkj, hcatalog, hkj, catalogName_of_lt (Nat.lt_succ_self j)]
          · rw [if_neg hkj]
        · rename_i driver hsome
          obtain ⟨hpool', hstep⟩ := perform_installDriver setting slot driver
            (some core) hpool hn (Nat.lt_of_not_le hj)
          obtain ⟨hfits, hpool'', hrest⟩ := ih _ hpool' (ho.erase j)
          refine ⟨hfits, hpool'', fun k hk => (hrest k hk).trans ?_⟩
          rw [hstep k hk, Overloads.get?_erase]
          -- only slot `j` is new, and later entries name higher slots
          by_cases hkj : k = j
          · rw [if_pos hkj, if_pos hkj, if_pos hkj, hkj, catalogName_of_lt (Nat.lt_succ_self j),
              Option.none_or, Option.none_or, ← Option.or_assoc, ← hfor, hsome, Option.some_or]
          · rw [if_neg hkj, if_neg hkj, if_neg hkj]

/-- After the wait is over, nothing is left to be loaded. -/
lemma driverName?_loadRemaining (setting : Setting P) (slot : SlotId) {e : Enumerator}
    (hpool : h.registry.maxSlots = n) (hn : n ≤ 65536) (he : e.overloads.Fits n) :
    let r := ends setting slot e.loadRemaining h
    r.1 = { e with overloads := [] } ∧ r.2.registry.maxSlots = n ∧
      ∀ k < n, r.2.registry.driverName? (.ofNat k) =
        (e.overloads.get? k).or (h.registry.driverName? (.ofNat k)) := by
  rw [loadRemaining, ends_bind]
  exact ⟨rfl, driverName?_loadAll hpool hn he⟩

/-- A complete table has a number for each core and no more. -/
private lemma map_snd_zip_words {table : Bytes} (htable : table.length = tableLength) :
    (CoreId.all.zip table.words).map Prod.snd = table.words := by
  apply List.map_snd_zip
  rw [Bytes.length_words, htable, CoreId.all, List.length_finRange]
  exact Nat.le_refl _

/-- After the table was put to use, nothing is left to be loaded. -/
lemma driverName?_enumerate (setting : Setting P) (slot : SlotId) {e : Enumerator} {table : Bytes}
    (hpool : h.registry.maxSlots = n) (hn : n ≤ 65536) (he : e.overloads.Fits n)
    (htable : table.length = tableLength) :
    let r := ends setting slot (e.enumerate table) h
    r.1.overloads = [] ∧ r.1.enumerated = true ∧ r.2.registry.maxSlots = n ∧
      ∀ k < n, r.2.registry.driverName? (.ofNat k) =
        (e.overloads.get? k).or ((catalogName 1 table.words k).or
          (h.registry.driverName? (.ofNat k))) := by
  have hrecord : (recordIds (CoreId.all.zip table.words) : Program P _).Follows Op.Asks
      (fun _ _ => True) ∅ := recordIds_asks _ trivial
  obtain ⟨⟨hpool', hsame⟩, _⟩ := ends_sameNames setting slot
    (fun hop => hop.2) hrecord h
  rw [hpool] at hpool'
  -- the view taken after the ids are recorded still shows the whole pool
  simp only [enumerate, ends_bind]
  generalize (ends setting slot (recordIds (CoreId.all.zip table.words)) h).2 = h₁ at hpool' hsame ⊢
  have hview : (ends setting slot (.perform .view) h₁).1.registry.maxSlots = n := by
    rw [← hpool']
    exact Array.size_map
  have hsame₁ : (ends setting slot (.perform .view) h₁).2 = h₁ := rfl
  rw [hview, hsame₁]
  obtain ⟨hfits, hpool₂, hname⟩ :=
    driverName?_loadCores setting slot 1 (CoreId.all.zip table.words) hpool' hn he
  obtain ⟨hrest, hpool₃, hname'⟩ := driverName?_loadRemaining setting slot
    (e := { e with
      enumerated := true
      overloads := (ends setting slot
        (loadCores n e.overloads 1 (CoreId.all.zip table.words)) h₁).1 }) hpool₂ hn hfits
  refine ⟨?_, ?_, hpool₃, fun k hk => ?_⟩
  · rw [hrest]
  · rw [hrest]
  · rw [hname' k hk, hname k hk, map_snd_zip_words htable, hsame]

end Host

end BoardLink
