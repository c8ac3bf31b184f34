import Mathlib.Data.List.Nodup
import Mathlib.Data.List.Perm.Subperm
import BoardLink.Driver.Enumerator
import BoardLink.Proofs.Overloads

/-!
# Which drivers the enumerator loads

The cores that have a number are counted from one in their order, and the driver for a core goes into
the slot of that count. The assignments for slots beyond the last of them are loaded in the end, each
into its own slot.
-/

namespace BoardLink

/-- Of three programs in a row it does not matter which two are put together first. -/
lemma Program.bind_assoc {P α β γ : Type} (p : Program P α) (f : α → Program P β)
    (g : β → Program P γ) : p >>= f >>= g = p >>= fun a => f a >>= g := by
  induction p with
  | done a => rfl
  | step op next ih => exact congrArg (Program.step op) (funext ih)

namespace Enumerator

variable {P : Type}

/-- A driver to be loaded into a slot, for a core or for none. -/
structure Load where
  slot : Nat
  name : String
  core : Option CoreId
  deriving DecidableEq

/-- Loads drivers one after the other. -/
def loads : List Load → Program P Unit
  | [] => return ()
  | l :: ls => do
    let _ ← Program.perform (.installDriver (.ofNat l.slot) l.name l.core)
    loads ls

/-! ### Cores that have a number -/

/-- The cores that have a number, in order. -/
def numbered (ids : CoreId → UInt16) : List CoreId := CoreId.all.filter fun c => ids c ≠ 0

/-- The place of a core among those that have a number, counted from one. -/
def rank (ids : CoreId → UInt16) (c : CoreId) : Nat := (numbered ids).idxOf c + 1

variable {ids : CoreId → UInt16} {c : CoreId}

lemma mem_numbered : c ∈ numbered ids ↔ ids c ≠ 0 := by
  simp [numbered, CoreId.all]

lemma nodup_numbered (ids : CoreId → UInt16) : (numbered ids).Nodup :=
  (List.nodup_finRange coreCount).filter _

/-- A core stands at its place. -/
lemma getElem?_numbered {i : Nat} : (numbered ids)[i]? = some c ↔ ids c ≠ 0 ∧ rank ids c = i + 1 := by
  rw [rank, Nat.add_right_cancel_iff, ← mem_numbered]
  constructor
  · intro h
    obtain ⟨hi, rfl⟩ := List.getElem?_eq_some_iff.mp h
    exact ⟨List.getElem_mem hi, (nodup_numbered ids).idxOf_getElem i hi⟩
  · rintro ⟨hc, rfl⟩
    exact List.getElem?_idxOf hc

/-- Cores that have a number have different places. -/
lemma eq_of_rank_eq {c' : CoreId} (hid : ids c ≠ 0) (hid' : ids c' ≠ 0)
    (hrank : rank ids c = rank ids c') : c = c' := by
  have hplace : (numbered ids)[(numbered ids).idxOf c]? = some c :=
    getElem?_numbered.mpr ⟨hid, rfl⟩
  exact Option.some.inj (hplace.symm.trans (getElem?_numbered.mpr ⟨hid', hrank.symm⟩))

/-! ### The list of loads -/

/-- The loads for the cores that have a number, from slot `slot` on. -/
def coreLoads (maxSlots : Nat) (overloads : Overloads) (ids : CoreId → UInt16) (slot : Nat)
    (cores : List CoreId) : List Load :=
  ((cores.filter fun c => ids c ≠ 0).zipIdx slot).filterMap fun (c, k) =>
    if k < maxSlots then (driverFor overloads k (ids c)).map fun name => ⟨k, name, some c⟩ else none

/-- The assignments for slots before or after those of the cores that have a number. -/
def spared (overloads : Overloads) (ids : CoreId → UInt16) (slot : Nat) (cores : List CoreId) :
    Overloads :=
  overloads.filter fun (k, _) => k < slot ∨ slot + (cores.filter fun c => ids c ≠ 0).length ≤ k

/-- The loads for assignments, without a core. -/
def overloadLoads (overloads : Overloads) : List Load :=
  overloads.map fun (k, name) => ⟨k, name, none⟩

/-- Everything that a table leads to be loaded. -/
def tableLoads (maxSlots : Nat) (overloads : Overloads) (ids : CoreId → UInt16) : List Load :=
  coreLoads maxSlots overloads ids 1 CoreId.all ++
    overloadLoads (spared overloads ids 1 CoreId.all)

section Lists

variable {n slot : Nat} {o o' : Overloads} {cores : List CoreId} {l : Load}

private lemma coreLoads_zero (hid : ids c = 0) :
    coreLoads n o ids slot (c :: cores) = coreLoads n o ids slot cores := by
  simp [coreLoads, hid]

private lemma coreLoads_cons (hid : ids c ≠ 0) :
    coreLoads n o ids slot (c :: cores) =
      (if slot < n then (driverFor o slot (ids c)).map fun name => ⟨slot, name, some c⟩
        else none).toList ++ coreLoads n o ids (slot + 1) cores := by
  rw [coreLoads, List.filter_cons_of_pos (by simpa using hid), List.zipIdx_cons, List.filterMap_cons]
  dsimp only
  split <;> rename_i heq <;> rw [heq] <;> rfl

/-- Only assignments for the slots from the first one on matter. -/
private lemma coreLoads_congr (h : ∀ k, slot ≤ k → o.get? k = o'.get? k) :
    coreLoads n o ids slot cores = coreLoads n o' ids slot cores := by
  refine List.filterMap_congr ?_
  rintro ⟨c, k⟩ hmem
  obtain ⟨hle, _⟩ := List.mk_mem_zipIdx_iff_le_and_getElem?_sub.mp hmem
  simp only [driverFor, h k hle]

/-- Beyond the pool nothing is loaded. -/
private lemma coreLoads_of_le (h : n ≤ slot) : coreLoads n o ids slot cores = [] := by
  refine List.filterMap_eq_nil_iff.mpr ?_
  rintro ⟨c, k⟩ hmem
  obtain ⟨hle, _⟩ := List.mk_mem_zipIdx_iff_le_and_getElem?_sub.mp hmem
  exact if_neg (Nat.not_lt_of_le (Nat.le_trans h hle))

private lemma spared_zero (hid : ids c = 0) :
    spared o ids slot (c :: cores) = spared o ids slot cores := by
  simp [spared, hid]

private lemma spared_cons (hid : ids c ≠ 0) :
    spared o ids slot (c :: cores) = spared (o.erase slot) ids (slot + 1) cores := by
  rw [spared, spared, Overloads.erase, List.filter_filter]
  refine List.filter_congr ?_
  rintro ⟨k, name⟩ _
  rw [List.filter_cons_of_pos (by simpa using hid), List.length_cons, ← Bool.decide_and]
  exact decide_eq_decide.mpr (by omega)

private lemma erase_eq_self {k : Nat} (h : o.get? k = none) : o.erase k = o := by
  refine List.filter_eq_self.mpr fun p hp => decide_eq_true ?_
  exact (bne_iff_ne.mp (List.lookup_eq_none_iff.mp h p hp)).symm

/-- The enumerator walks through the table and loads drivers as listed. -/
lemma loadCores_eq (ho : o.Fits n) (slot : Nat) (cores : List CoreId) :
    (loadCores n o slot (cores.map fun c => (c, ids c)) : Program P _) =
      loads (coreLoads n o ids slot cores) >>= fun _ => pure (spared o ids slot cores) := by
  induction cores generalizing o slot with
  | nil =>
    have hspared : spared o ids slot [] = o :=
      List.filter_eq_self.mpr fun p _ => decide_eq_true (Nat.lt_or_ge p.1 slot)
    rw [hspared]
    rfl
  | cons c cores ih =>
    simp only [List.map_cons, loadCores]
    by_cases hid : ids c = 0
    · rw [if_pos hid, coreLoads_zero hid, spared_zero hid]
      exact ih ho slot
    · rw [if_neg hid]
      by_cases hslot : n ≤ slot
      · have hspared : spared o ids slot (c :: cores) = o :=
          List.filter_eq_self.mpr fun p hp =>
            decide_eq_true (.inl (Nat.lt_of_lt_of_le (ho.lt p hp) hslot))
        rw [if_pos hslot, coreLoads_of_le hslot, hspared]
        rfl
      · rw [if_neg hslot, coreLoads_cons hid, if_pos (Nat.lt_of_not_le hslot), spared_cons hid]
        -- what is erased is nothing to the slots after it
        have hlater : coreLoads n (o.erase slot) ids (slot + 1) cores =
            coreLoads n o ids (slot + 1) cores := by
          refine coreLoads_congr fun k hk => ?_
          rw [Overloads.get?_erase, if_neg (Nat.ne_of_gt hk)]
        have hrest := ih (ho.erase slot) (slot + 1)
        rw [hlater] at hrest
        cases hfor : driverFor o slot (ids c) with
        | none =>
          have hget : o.get? slot = none := (Option.or_eq_none_iff.mp
            (Option.orElse_eq_or.symm.trans hfor)).1
          rw [erase_eq_self hget] at hrest ⊢
          exact hrest
        | some name =>
          exact congrArg (Program.step _) (funext fun _ => hrest)

lemma loadAll_eq (o : Overloads) : (loadAll o : Program P _) = loads (overloadLoads o) := by
  induction o with
  | nil => rfl
  | cons p rest ih => exact congrArg (Program.step _) (funext fun _ => ih)

lemma loads_append (ls ls' : List Load) :
    (loads (ls ++ ls') : Program P _) = loads ls >>= fun _ => loads ls' := by
  induction ls with
  | nil => rfl
  | cons l ls ih => exact congrArg (Program.step _) (funext fun _ => ih)

/-- Once the numbers are noted, the enumerator loads all that the table leads to. -/
lemma loadTable_eq (e : Enumerator) (he : e.overloads.Fits n) :
    (loadCores n e.overloads 1 (CoreId.all.map fun c => (c, ids c)) >>= fun overloads =>
        loadRemaining { e with enumerated := true, overloads } : Program P Enumerator) =
      loads (tableLoads n e.overloads ids) >>= fun _ =>
        pure { e with enumerated := true, overloads := [] } := by
  rw [loadCores_eq he, Program.bind_assoc, tableLoads, loads_append, Program.bind_assoc]
  refine congrArg _ (funext fun _ => ?_)
  rw [← loadAll_eq]
  rfl

/-- Where no core has a number, the assignments are all that there is to load. -/
lemma tableLoads_unnumbered (n : Nat) (o : Overloads) :
    tableLoads n o (fun _ => 0) = overloadLoads o := by
  have hspared : spared o (fun _ => 0) 1 CoreId.all = o := by
    refine List.filter_eq_self.mpr fun p _ => decide_eq_true ?_
    simp only [ne_eq, not_true_eq_false, decide_false, List.filter_false, List.length_nil]
    omega
  rw [tableLoads, hspared]
  simp [coreLoads]

/-! ### What is in the list -/

lemma mem_coreLoads : l ∈ coreLoads n o ids 1 CoreId.all ↔ ∃ c name, ids c ≠ 0 ∧ rank ids c < n ∧
    driverFor o (rank ids c) (ids c) = some name ∧ l = ⟨rank ids c, name, some c⟩ := by
  simp only [coreLoads, List.mem_filterMap, Prod.exists]
  constructor
  · rintro ⟨c, k, hmem, hl⟩
    obtain ⟨hle, hget⟩ := List.mk_mem_zipIdx_iff_le_and_getElem?_sub.mp hmem
    obtain ⟨hid, hrank⟩ := getElem?_numbered.mp hget
    obtain rfl : rank ids c = k := hrank.trans (Nat.sub_add_cancel hle)
    split_ifs at hl with hk
    obtain ⟨name, hname, rfl⟩ := Option.map_eq_some_iff.mp hl
    exact ⟨c, name, hid, hk, hname, rfl⟩
  · rintro ⟨c, name, hid, hk, hname, rfl⟩
    refine ⟨c, rank ids c, ?_, ?_⟩
    · refine List.mk_mem_zipIdx_iff_le_and_getElem?_sub.mpr ⟨Nat.succ_pos _, ?_⟩
      exact getElem?_numbered.mpr ⟨hid, rfl⟩
    · rw [if_pos hk, hname, Option.map_some]

lemma rank_le (hid : ids c ≠ 0) : rank ids c ≤ (numbered ids).length :=
  List.idxOf_lt_length_of_mem (mem_numbered.mpr hid)

lemma mem_overloadLoads (ho : o.Fits n) (hpos : ∀ p ∈ o, 0 < p.1) :
    l ∈ overloadLoads (spared o ids 1 CoreId.all) ↔
      ∃ k name, o.get? k = some name ∧ (numbered ids).length < k ∧ l = ⟨k, name, none⟩ := by
  simp only [overloadLoads, spared, List.mem_map, List.mem_filter, Prod.exists]
  constructor
  · rintro ⟨k, name, ⟨hmem, hk⟩, rfl⟩
    refine ⟨k, name, ho.get?_eq_some_iff.mpr hmem, ?_, rfl⟩
    have hpos := hpos _ hmem
    have hk := of_decide_eq_true hk
    rw [← numbered] at hk
    omega
  · rintro ⟨k, name, hget, hk, rfl⟩
    refine ⟨k, name, ⟨ho.get?_eq_some_iff.mp hget, decide_eq_true (.inr ?_)⟩, rfl⟩
    rw [← numbered]
    omega

/-- Every assignment is loaded, with a core or without one. -/
lemma exists_load_of_get? (ho : o.Fits n) (hpos : ∀ p ∈ o, 0 < p.1) {k : Nat} {name : String}
    (hget : o.get? k = some name) (ids : CoreId → UInt16) :
    ∃ l ∈ tableLoads n o ids, l.slot = k ∧ l.name = name := by
  have hk : 0 < k := hpos (k, name) (ho.get?_eq_some_iff.mp hget)
  by_cases hlast : (numbered ids).length < k
  · exact ⟨⟨k, name, none⟩, List.mem_append_right _
      ((mem_overloadLoads ho hpos).mpr ⟨k, name, hget, hlast, rfl⟩), rfl, rfl⟩
  · have hplace : (numbered ids)[k - 1]? = some (numbered ids)[k - 1] := List.getElem?_eq_getElem _
    obtain ⟨hid, hrank⟩ := getElem?_numbered.mp hplace
    have hrank : rank ids (numbered ids)[k - 1] = k := hrank.trans (Nat.sub_add_cancel hk)
    refine ⟨⟨k, name, some (numbered ids)[k - 1]⟩, List.mem_append_left _
      (mem_coreLoads.mpr ⟨_, name, hid, ?_, ?_, by rw [hrank]⟩), rfl, rfl⟩
    · rw [hrank]
      exact ho.lt_of_get? hget
    · rw [hrank, driverFor, hget]
      rfl

/-- The slots of the list grow. -/
lemma sorted_tableLoads (ho : o.Fits n) (hpos : ∀ p ∈ o, 0 < p.1) :
    (tableLoads n o ids).Pairwise fun l l' => l.slot < l'.slot := by
  refine List.pairwise_append.mpr ⟨?_, ?_, fun l hl l' hl' => ?_⟩
  · have hindices : ((numbered ids).zipIdx 1).Pairwise fun p q => p.2 < q.2 := by
      rw [← List.pairwise_map, List.zipIdx_map_snd]
      exact List.pairwise_lt_range'
    refine hindices.filterMap _ ?_
    rintro ⟨c, k⟩ ⟨c', k'⟩ hlt l hl l' hl'
    dsimp only at hl hl'
    split_ifs at hl hl'
    obtain ⟨_, _, rfl⟩ := Option.map_eq_some_iff.mp hl
    obtain ⟨_, _, rfl⟩ := Option.map_eq_some_iff.mp hl'
    exact hlt
  · exact List.pairwise_map.mpr (ho.sorted.filter _)
  · obtain ⟨c, _, hid, _, _, rfl⟩ := mem_coreLoads.mp hl
    obtain ⟨k, _, _, hk, rfl⟩ := (mem_overloadLoads ho hpos).mp hl'
    exact Nat.lt_of_le_of_lt (rank_le hid) hk

/-- Loads are for slots of the pool other than the first. -/
lemma slot_of_mem_tableLoads (ho : o.Fits n) (hpos : ∀ p ∈ o, 0 < p.1)
    (hl : l ∈ tableLoads n o ids) : 0 < l.slot ∧ l.slot < n := by
  rcases List.mem_append.mp hl with hl | hl
  · obtain ⟨c, _, _, hlt, _, rfl⟩ := mem_coreLoads.mp hl
    exact ⟨Nat.succ_pos _, hlt⟩
  · obtain ⟨k, _, hget, hk, rfl⟩ := (mem_overloadLoads ho hpos).mp hl
    exact ⟨Nat.zero_lt_of_lt hk, ho.lt_of_get? hget⟩

/-- There are no more loads than slots. -/
lemma length_tableLoads_le (ho : o.Fits n) (hpos : ∀ p ∈ o, 0 < p.1) :
    (tableLoads n o ids).length ≤ n := by
  have hnodup : ((tableLoads n o ids).map Load.slot).Nodup :=
    List.pairwise_map.mpr ((sorted_tableLoads ho hpos).imp fun hlt => Nat.ne_of_lt hlt)
  have hsub : (tableLoads n o ids).map Load.slot ⊆ List.range n := by
    intro k hk
    obtain ⟨l, hl, rfl⟩ := List.mem_map.mp hk
    exact List.mem_range.mpr (slot_of_mem_tableLoads ho hpos hl).2
  have hlength := (hnodup.subperm hsub).length_le
  rwa [List.length_map, List.length_range] at hlength

/-- No two loads are for one core. -/
lemma slot_eq_of_core_eq {l' : Load} (hl : l ∈ tableLoads n o ids) (hl' : l' ∈ tableLoads n o ids)
    (hcore : l.core = some c) (hcore' : l'.core = some c) : l.slot = l'.slot := by
  have hrank {l : Load} (hl : l ∈ tableLoads n o ids) (hcore : l.core = some c) :
      l.slot = rank ids c := by
    rcases List.mem_append.mp hl with hl | hl
    · obtain ⟨c', _, _, _, _, rfl⟩ := mem_coreLoads.mp hl
      cases hcore
      rfl
    · obtain ⟨_, _, rfl⟩ := List.mem_map.mp hl
      cases hcore
  exact (hrank hl hcore).trans (hrank hl' hcore').symm

end Lists

end Enumerator

end BoardLink
