import Mathlib.Tactic.Common
import BoardLink.Timer

/-!
# Which timers a table holds

What each operation does to the timer of every identifier, and which identifiers were given out.
As long as no entry was released so often that its generations come back, an identifier that was
given out and is not armed is never armed again.
-/

namespace BoardLink.TimerTable

variable {t t' : TimerTable} {id id' : TimerId} {timer : Timer}

/-! ### Entries -/

/-- A number of 32 bits is the number of the next entry when its value is. -/
private lemma toNat_eq_size {i : UInt32} (h : t.entries.size < UInt32.size) :
    i.toNat = t.entries.size ↔ i = .ofNat t.entries.size := by
  rw [← UInt32.toNat_inj, UInt32.toNat_ofNat_of_lt' h]

lemma entryAt?_modify (t : TimerTable) (i j : UInt32) (f : Entry → Entry) :
    (t.modify i f).entryAt? j = if i = j then (t.entryAt? j).map f else t.entryAt? j := by
  simp only [entryAt?, modify, Array.getElem?_modify, UInt32.toNat_inj]

lemma entryAt?_grow (h : t.entries.size < UInt32.size) (j : UInt32) :
    (t.grow h).entryAt? j = if j = .ofNat t.entries.size then some {} else t.entryAt? j := by
  simp only [entryAt?, grow, Array.getElem?_push, toNat_eq_size h]

/-- The next entry is not there yet. -/
lemma entryAt?_size (h : t.entries.size < UInt32.size) : t.entryAt? (.ofNat t.entries.size) = none := by
  rw [entryAt?, UInt32.toNat_ofNat_of_lt' h]
  exact Array.getElem?_size

/-- The place of an entry has a number of 32 bits. -/
private lemma toNat_ofNat_of_getElem? {e : Entry} {i : Nat} (h : t.entries[i]? = some e) :
    (UInt32.ofNat i).toNat = i := by
  obtain ⟨hlt, _⟩ := Array.getElem?_eq_some_iff.mp h
  exact UInt32.toNat_ofNat_of_lt' (Nat.lt_of_lt_of_le hlt t.size_le)

lemma mem_entries {e : Entry} : e ∈ t.entries ↔ ∃ i, t.entryAt? i = some e := by
  constructor
  · intro he
    obtain ⟨i, hi⟩ := Array.mem_iff_getElem?.mp he
    refine ⟨.ofNat i, ?_⟩
    rw [entryAt?, toNat_ofNat_of_getElem? hi]
    exact hi
  · rintro ⟨i, hi⟩
    exact Array.mem_of_getElem? hi

/-! ### Inversion -/

/-- An entry is claimed from the free list, or a new one while there is room and a number for it. -/
lemma claim_cases {i : UInt32} (h : t.claim = some (i, t')) :
    (∃ free, t.free = i :: free ∧ t' = { t with free }) ∨
      t.free = [] ∧ t.entries.size < t.capacity ∧
        ∃ hroom, i = .ofNat t.entries.size ∧ t' = t.grow hroom := by
  simp only [claim] at h
  split at h
  · cases h
    exact .inl ⟨_, ‹_›, rfl⟩
  · split_ifs at h with hroom
    cases h
    exact .inr ⟨‹_›, hroom.1, hroom.2, rfl, rfl⟩

/-- A timer is armed in a claimed entry. -/
lemma add_cases {kind : Timer.Kind} {period token now : Nat} {owner : SlotId}
    (h : t.add kind period owner token now = .ok (id, t')) :
    ∃ i t₁, t.claim = some (i, t₁) ∧ id = ⟨i, t₁.generation i⟩ ∧
      t' = { t₁.modify i fun e =>
          { e with timer := some { kind, deadline := now + period, period, owner, token } } with
        armed := t₁.armed + 1
        overrun := t₁.overrun || lastInstant < now + period } := by
  simp only [add] at h
  split_ifs at h
  split at h
  · cases h
  · cases h
    exact ⟨_, _, ‹_›, rfl, rfl⟩

/-! ### Identifiers -/

/-- No entry was released so often that a generation came back. -/
def Unwrapped (t : TimerTable) : Prop := ∀ e ∈ t.entries, e.releases < UInt32.size

instance (t : TimerTable) : Decidable t.Unwrapped :=
  inferInstanceAs (Decidable (∀ e ∈ t.entries, e.releases < UInt32.size))

/-- Was this identifier given out for some timer, armed or not by now? -/
def Issued (t : TimerTable) (id : TimerId) : Prop :=
  ∃ e n, t.entryAt? id.entry = some e ∧ id.generation = .ofNat n ∧
    (n < e.releases ∨ n = e.releases ∧ e.timer.isSome)

/-- Every entry was released at least as often as before. -/
def Ages (t t' : TimerTable) : Prop :=
  ∀ i e, t.entryAt? i = some e → ∃ e', t'.entryAt? i = some e' ∧ e.releases ≤ e'.releases

lemma Ages.refl (t : TimerTable) : Ages t t := fun _ e he => ⟨e, he, Nat.le_refl _⟩

lemma Ages.trans {t'' : TimerTable} (h : Ages t t') (h' : Ages t' t'') : Ages t t'' := by
  intro i e he
  obtain ⟨e', he', hle⟩ := h i e he
  obtain ⟨e'', he'', hle'⟩ := h' i e' he'
  exact ⟨e'', he'', Nat.le_trans hle hle'⟩

/-- Entries may change as they like, as long as no release is forgotten. -/
private lemma ages_modify {i : UInt32} {f : Entry → Entry} (free : List UInt32) (armed : Nat)
    (overrun : Bool) (hf : ∀ e, e.releases ≤ (f e).releases) :
    Ages t { t.modify i f with free, armed, overrun } := by
  intro j e he
  have hentry := t.entryAt?_modify i j f
  rw [he] at hentry
  show ∃ e', (t.modify i f).entryAt? j = some e' ∧ _
  rw [hentry]
  by_cases hij : i = j
  · rw [if_pos hij]
    exact ⟨_, rfl, hf e⟩
  · rw [if_neg hij]
    exact ⟨e, rfl, Nat.le_refl _⟩

lemma ages_release (t : TimerTable) (i : UInt32) : Ages t (t.release i) :=
  ages_modify _ _ _ fun e => Nat.le_succ e.releases

private lemma ages_claim {i : UInt32} (h : t.claim = some (i, t')) : Ages t t' := by
  rcases claim_cases h with ⟨free, _, rfl⟩ | ⟨_, _, hroom, _, rfl⟩
  · exact .refl t
  · intro j e he
    refine ⟨e, ?_, Nat.le_refl _⟩
    rw [entryAt?_grow, if_neg, he]
    rintro rfl
    cases (entryAt?_size hroom).symm.trans he

lemma ages_add {kind : Timer.Kind} {period token now : Nat} {owner : SlotId}
    (h : t.add kind period owner token now = .ok (id, t')) : Ages t t' := by
  obtain ⟨i, t₁, hclaim, _, rfl⟩ := add_cases h
  exact (ages_claim hclaim).trans (ages_modify _ _ _ fun e => Nat.le_refl e.releases)

lemma ages_cancel (t : TimerTable) (id : TimerId) : Ages t (t.cancel id).2 := by
  cases harmed : t.isArmed id with
  | false =>
    rw [cancel, harmed]
    exact .refl t
  | true =>
    rw [cancel, harmed]
    exact ages_release t id.entry

lemma ages_cancelOwner (t : TimerTable) (owner : SlotId) : Ages t (t.cancelOwner owner).2 := by
  rw [cancelOwner]
  generalize t.toList.filter _ = owned
  induction owned generalizing t with
  | nil => exact .refl t
  | cons p owned ih => exact (ages_release t p.1.entry).trans (ih _)

lemma ages_fire {now : Nat} {expiry : Expiry} (h : t.fire id now = some (expiry, t')) :
    Ages t t' := by
  simp only [fire] at h
  split at h
  · cases h
  · split_ifs at h
    split at h <;> cases h
    · exact ages_modify _ _ _ fun e => Nat.le_refl e.releases
    · exact ages_release t id.entry

lemma Unwrapped.of_ages (hwrap : Unwrapped t') (h : Ages t t') : Unwrapped t := by
  intro e he
  obtain ⟨i, hi⟩ := mem_entries.mp he
  obtain ⟨e', he', hle⟩ := h i e hi
  exact Nat.lt_of_le_of_lt hle (hwrap e' (mem_entries.mpr ⟨i, he'⟩))

lemma get?_eq_some : t.get? id = some timer ↔
    ∃ e, t.entryAt? id.entry = some e ∧ e.generation = id.generation ∧ e.timer = some timer := by
  simp only [get?]
  cases t.entryAt? id.entry with
  | none => simp
  | some e => simp

/-- An armed timer has an identifier that was given out. -/
lemma issued_of_get? (h : t.get? id = some timer) : t.Issued id := by
  obtain ⟨e, he, hgeneration, htimer⟩ := get?_eq_some.mp h
  exact ⟨e, e.releases, he, hgeneration.symm, .inr ⟨rfl, by simp [htimer]⟩⟩

/-! ### Tables that operations lead to -/

/-- The entries on the free list are different and hold no timer. -/
structure WellFormed (t : TimerTable) : Prop where
  free_nodup : t.free.Nodup
  free_unarmed : ∀ i ∈ t.free, ∃ e, t.entryAt? i = some e ∧ e.timer = none

lemma wellFormed_empty (capacity : Nat) : (empty capacity).WellFormed := by
  constructor
  · exact List.nodup_nil
  · intro i hi
    cases hi

/-- An entry that holds a timer is not on the free list. -/
lemma WellFormed.not_mem_free {e : Entry} {i : UInt32} (h : t.WellFormed)
    (he : t.entryAt? i = some e) (harmed : e.timer.isSome) : i ∉ t.free := by
  intro hi
  obtain ⟨e', he', hfree⟩ := h.free_unarmed i hi
  rw [he] at he'
  cases he'
  simp [hfree] at harmed

/-! ### Releasing -/

lemma entryAt?_release (t : TimerTable) (i j : UInt32) :
    (t.release i).entryAt? j =
      if i = j then (t.entryAt? j).map fun e => { releases := e.releases + 1, timer := none }
      else t.entryAt? j := t.entryAt?_modify i j _

/-- Only the timer of the released entry is gone. -/
lemma get?_release (t : TimerTable) (i : UInt32) (id : TimerId) :
    (t.release i).get? id = if id.entry = i then none else t.get? id := by
  simp only [get?, entryAt?_release]
  by_cases hi : i = id.entry
  · rw [if_pos hi, if_pos hi.symm]
    cases t.entryAt? id.entry with
    | none => rfl
    | some e => simp
  · rw [if_neg hi, if_neg fun h => hi h.symm]

/-- No identifier is given out by a release, and none is forgotten. -/
lemma issued_release {e : Entry} {i : UInt32} (he : t.entryAt? i = some e) (harmed : e.timer.isSome) :
    (t.release i).Issued id ↔ t.Issued id := by
  simp only [Issued, entryAt?_release]
  by_cases hi : i = id.entry
  · subst hi
    simp only [if_true, he, Option.map_some, Option.some.injEq, exists_and_left, exists_eq_left',
      harmed, Option.isSome_none, Bool.false_eq_true, and_false, or_false, and_true]
    refine exists_congr fun n => and_congr_right fun _ => ?_
    rw [Nat.lt_succ_iff_lt_or_eq]
  · simp only [if_neg hi]

lemma WellFormed.release {e : Entry} {i : UInt32} (h : t.WellFormed) (he : t.entryAt? i = some e)
    (harmed : e.timer.isSome) : (t.release i).WellFormed := by
  constructor
  · exact List.nodup_cons.mpr ⟨h.not_mem_free he harmed, h.free_nodup⟩
  · intro j hj
    rw [entryAt?_release]
    rcases List.mem_cons.mp hj with rfl | hj
    · rw [if_pos rfl, he]
      exact ⟨_, rfl, rfl⟩
    · have hij : i ≠ j := by
        rintro rfl
        exact h.not_mem_free he harmed hj
      rw [if_neg hij]
      exact h.free_unarmed j hj

/-! ### Arming -/

/-- A claimed entry holds no timer and leaves the free list; nothing else changes. -/
private lemma claim_spec {i : UInt32} (h : t.WellFormed) (hclaim : t.claim = some (i, t')) :
    t'.WellFormed ∧ i ∉ t'.free ∧ (∃ e, t'.entryAt? i = some e ∧ e.timer = none) ∧
      (∀ id, t'.get? id = t.get? id) ∧ ∀ id, t'.Issued id ↔ t.Issued id := by
  -- an entry from the free list leaves it; a new one was never on it
  rcases claim_cases hclaim with ⟨free, hfree, rfl⟩ | ⟨hfree, _, hroom, rfl, rfl⟩
  · have hnodup := h.free_nodup
    rw [hfree] at hnodup
    obtain ⟨hnotmem, hnodup⟩ := List.nodup_cons.mp hnodup
    refine ⟨⟨hnodup, fun j hj => ?_⟩, hnotmem, ?_, fun _ => rfl, fun _ => Iff.rfl⟩
    · exact h.free_unarmed j (hfree ▸ List.mem_cons_of_mem i hj)
    · exact h.free_unarmed i (hfree ▸ List.mem_cons_self)
  · have hnone : t.free = (t.grow hroom).free := rfl
    have hnew : (t.grow hroom).entryAt? (.ofNat t.entries.size) = some {} :=
      (entryAt?_grow hroom _).trans (if_pos rfl)
    refine ⟨⟨h.free_nodup, fun j hj => ?_⟩, ?_, ⟨_, hnew, rfl⟩, fun id => ?_, fun id => ?_⟩
    · simp [← hnone, hfree] at hj
    · simp [← hnone, hfree]
    · simp only [get?, entryAt?_grow]
      by_cases hid : id.entry = .ofNat t.entries.size
      · simp [hid, entryAt?_size hroom]
      · rw [if_neg hid]
    · simp only [Issued, entryAt?_grow]
      by_cases hid : id.entry = .ofNat t.entries.size
      · simp [hid, entryAt?_size hroom]
      · rw [if_neg hid]

/-- What arming a timer leads to. -/
structure Armed (t t' : TimerTable) (id : TimerId) (timer : Timer) : Prop where
  wellFormed : t'.WellFormed
  get? : ∀ id', t'.get? id' = if id' = id then some timer else t.get? id'
  issued : ∀ id', t'.Issued id' ↔ id' = id ∨ t.Issued id'
  /-- The identifier is a new one. -/
  fresh : t'.Unwrapped → ¬ t.Issued id

private lemma ofNat_ne {n m : Nat} (hlt : n < m) (hm : m < UInt32.size) :
    UInt32.ofNat n ≠ UInt32.ofNat m := by
  intro h
  have h : (UInt32.ofNat n).toNat = (UInt32.ofNat m).toNat := congrArg _ h
  rw [UInt32.toNat_ofNat_of_lt' (Nat.lt_trans hlt hm), UInt32.toNat_ofNat_of_lt' hm] at h
  exact Nat.ne_of_lt hlt h

/-- A timer is put into a claimed entry. -/
private lemma armed_modify {i : UInt32} {e : Entry} (armed : Nat) (overrun : Bool) (timer : Timer)
    (h : t.WellFormed) (hnotmem : i ∉ t.free) (he : t.entryAt? i = some e) (hfree : e.timer = none) :
    Armed t { t.modify i fun e => { e with timer := some timer } with armed, overrun }
      ⟨i, e.generation⟩ timer := by
  have hentry (j : UInt32) : ({ t.modify i fun e => { e with timer := some timer } with
      armed, overrun } : TimerTable).entryAt? j = _ := t.entryAt?_modify i j _
  refine ⟨⟨h.free_nodup, fun j hj => ?_⟩, ?_, ?_, ?_⟩
  -- an entry still free is another one than `i`, which was claimed
  · obtain ⟨e', he', hfree'⟩ := h.free_unarmed j hj
    refine ⟨e', ?_, hfree'⟩
    rw [hentry, if_neg, he']
    rintro rfl
    exact hnotmem hj
  · rintro ⟨j, g⟩
    by_cases hij : i = j
    · subst hij
      have hsame : ({ e with timer := some timer } : Entry).generation = e.generation := rfl
      simp only [TimerTable.get?, hentry, if_true, he, Option.map_some, hfree, hsame,
        TimerId.mk.injEq, true_and]
      -- at the entry itself only the present generation is armed
      by_cases hg : g = e.generation
      · rw [if_pos hg, if_pos hg.symm]
      · rw [if_neg hg, if_neg (Ne.symm hg), ite_self]
    · have hne : (⟨j, g⟩ : TimerId) ≠ ⟨i, e.generation⟩ := by
        simp [Ne.symm hij]
      simp only [TimerTable.get?, hentry, if_neg hij, if_neg hne]
  · rintro ⟨j, g⟩
    by_cases hij : i = j
    · subst hij
      simp only [Issued, hentry, if_true, he, Option.map_some, Option.some.injEq]
      constructor
      -- an id of this entry was issued before, or it is the one issued now
      · rintro ⟨_, n, rfl, hn, hlt | ⟨rfl, _⟩⟩
        · exact .inr ⟨e, n, rfl, hn, .inl hlt⟩
        · exact .inl (congrArg _ hn)
      · rintro (heq | ⟨_, n, rfl, hn, hlt⟩)
        · cases heq
          exact ⟨_, e.releases, rfl, rfl, .inr ⟨rfl, rfl⟩⟩
        · rcases hlt with hlt | ⟨_, harmed⟩
          · exact ⟨_, n, rfl, hn, .inl hlt⟩
          · simp [hfree] at harmed
    · simp [Issued, hentry, if_neg hij, Ne.symm hij]
  -- the number of releases names one generation only as long as it has not wrapped
  · rintro hwrap ⟨e', n, he', hn, hlt⟩
    rw [he] at he'
    cases he'
    rcases hlt with hlt | ⟨_, harmed⟩
    · have hwrap : Unwrapped t := hwrap.of_ages (ages_modify _ _ _ fun e => Nat.le_refl e.releases)
      exact ofNat_ne hlt (hwrap e (mem_entries.mpr ⟨i, he⟩)) hn.symm
    · simp [hfree] at harmed

lemma armed_add {kind : Timer.Kind} {period token now : Nat} {owner : SlotId} (h : t.WellFormed)
    (hadd : t.add kind period owner token now = .ok (id, t')) :
    Armed t t' id { kind, deadline := now + period, period, owner, token } := by
  obtain ⟨i, t₁, hclaim, rfl, rfl⟩ := add_cases hadd
  obtain ⟨h₁, hnotmem, ⟨e, he, hfree⟩, hget, hissued⟩ := claim_spec h hclaim
  have hgeneration : t₁.generation i = e.generation := by
    simp only [generation, he]
  have harmed := armed_modify (t₁.armed + 1) (t₁.overrun || lastInstant < now + period)
    { kind, deadline := now + period, period, owner, token } h₁ hnotmem he hfree
  rw [hgeneration]
  refine ⟨harmed.wellFormed, fun id => ?_, fun id => ?_, fun hwrap => ?_⟩
  · rw [harmed.get?, hget]
  · rw [harmed.issued, hissued]
  · rw [← hissued]
    exact harmed.fresh hwrap

/-! ### Cancelling and firing -/

/-- What operations other than arming lead to: some timers are gone, and periodic ones may have
another deadline. -/
structure Thinned (t t' : TimerTable) : Prop where
  wellFormed : t'.WellFormed
  issued : ∀ id, t'.Issued id ↔ t.Issued id
  /-- No timer appears. -/
  get?_none : ∀ id, t.get? id = none → t'.get? id = none
  get?_oneShot : ∀ id timer, timer.kind = .oneShot → t'.get? id = some timer →
    t.get? id = some timer

lemma Thinned.refl (h : t.WellFormed) : Thinned t t :=
  ⟨h, fun _ => Iff.rfl, fun _ h => h, fun _ _ _ h => h⟩

lemma Thinned.trans {t'' : TimerTable} (h : Thinned t t') (h' : Thinned t' t'') : Thinned t t'' where
  wellFormed := h'.wellFormed
  issued id := (h'.issued id).trans (h.issued id)
  get?_none id hid := h'.get?_none id (h.get?_none id hid)
  get?_oneShot id timer hkind hid := h.get?_oneShot id timer hkind (h'.get?_oneShot id timer hkind hid)

private lemma thinned_release {e : Entry} {i : UInt32} (h : t.WellFormed) (he : t.entryAt? i = some e)
    (harmed : e.timer.isSome) : Thinned t (t.release i) where
  wellFormed := h.release he harmed
  issued _ := issued_release he harmed
  get?_none id hid := by
    rw [get?_release, hid, ite_self]
  get?_oneShot id timer _ hid := by
    rw [get?_release] at hid
    split_ifs at hid
    exact hid

/-- Identifiers of one entry are armed one at a time. -/
lemma eq_of_get? {timer' : Timer} (h : t.get? id = some timer) (h' : t.get? id' = some timer')
    (hentry : id.entry = id'.entry) : id = id' := by
  obtain ⟨e, he, hgeneration, _⟩ := get?_eq_some.mp h
  obtain ⟨e', he', hgeneration', _⟩ := get?_eq_some.mp h'
  rw [hentry, he'] at he
  cases he
  cases id
  cases id'
  simp_all

/-- Among the identifiers that are armed, a release takes away one. -/
lemma get?_release_of_armed (h : t.get? id = some timer) (id' : TimerId) :
    (t.release id.entry).get? id' = if id' = id then none else t.get? id' := by
  rw [get?_release]
  by_cases hid : id' = id
  · rw [if_pos hid, if_pos (congrArg _ hid)]
  · rw [if_neg hid]
    split_ifs with hentry
    · cases hget : t.get? id' with
      | none => rfl
      | some timer' => exact absurd (eq_of_get? hget h hentry) hid
    · rfl

/-- A cancelled timer is gone, and no other. -/
lemma get?_cancel (t : TimerTable) (id id' : TimerId) :
    (t.cancel id).2.get? id' = if id' = id then none else t.get? id' := by
  cases hget : t.get? id with
  | none =>
    rw [cancel, isArmed, hget]
    by_cases hid : id' = id
    · rw [if_pos hid, hid]
      exact hget
    · rw [if_neg hid]
      rfl
  | some timer =>
    rw [cancel, isArmed, hget]
    exact get?_release_of_armed hget id'

private lemma thinned_release_of_armed (h : t.WellFormed) (hget : t.get? id = some timer) :
    Thinned t (t.release id.entry) := by
  obtain ⟨e, he, _, htimer⟩ := get?_eq_some.mp hget
  exact thinned_release h he (by simp [htimer])

lemma thinned_cancel (h : t.WellFormed) (id : TimerId) : Thinned t (t.cancel id).2 := by
  cases hget : t.get? id with
  | none =>
    rw [cancel, isArmed, hget]
    exact .refl h
  | some timer =>
    rw [cancel, isArmed, hget]
    exact thinned_release_of_armed h hget

lemma mem_toList : (id, timer) ∈ t.toList ↔ t.get? id = some timer := by
  rw [get?_eq_some]
  simp only [toList, List.mem_filterMap, Option.map_eq_some_iff, Prod.exists,
    List.mk_mem_zipIdx_iff_getElem?, Array.getElem?_toList, Prod.mk.injEq]
  constructor
  · rintro ⟨e, i, he, timer, htimer, rfl, rfl⟩
    refine ⟨e, ?_, rfl, htimer⟩
    rw [entryAt?, toNat_ofNat_of_getElem? he]
    exact he
  · rintro ⟨e, he, hgeneration, htimer⟩
    exact ⟨e, id.entry.toNat, he, timer, htimer, by rw [hgeneration, UInt32.ofNat_toNat], rfl⟩

/-- The armed timers stand in the order of their entries. -/
lemma sorted_toList (t : TimerTable) :
    t.toList.Pairwise fun a b => a.1.entry < b.1.entry := by
  have hindices : (t.entries.toList.zipIdx.map Prod.snd).Pairwise (· < ·) := by
    rw [List.zipIdx_map_snd]
    exact List.pairwise_lt_range'
  rw [toList, List.pairwise_filterMap]
  have htoNat {e : Entry} {i : Nat} (h : (e, i) ∈ t.entries.toList.zipIdx) :
      (UInt32.ofNat i).toNat = i := by
    rw [List.mk_mem_zipIdx_iff_getElem?, Array.getElem?_toList] at h
    exact toNat_ofNat_of_getElem? h
  refine (List.pairwise_map.mp hindices).imp_of_mem ?_
  rintro ⟨e, i⟩ ⟨e', i'⟩ hmem hmem' hlt p hp p' hp'
  obtain ⟨_, _, rfl⟩ := Option.map_eq_some_iff.mp hp
  obtain ⟨_, _, rfl⟩ := Option.map_eq_some_iff.mp hp'
  rw [UInt32.lt_iff_toNat_lt, htoNat hmem, htoNat hmem']
  exact hlt

/-- Armed timers are in different entries. -/
lemma pairwise_toList (t : TimerTable) :
    t.toList.Pairwise fun a b => a.1.entry ≠ b.1.entry := (sorted_toList t).imp UInt32.ne_of_lt

/-- Timers of different entries leave one after the other. -/
private lemma release_all {l : List (TimerId × Timer)} (h : t.WellFormed)
    (hl : l.Pairwise fun a b => a.1.entry ≠ b.1.entry) (harmed : ∀ p ∈ l, t.get? p.1 = some p.2) :
    Thinned t (l.foldl (fun t (id, _) => t.release id.entry) t) ∧
      ∀ id, (l.foldl (fun t (id, _) => t.release id.entry) t).get? id =
        if id ∈ l.map Prod.fst then none else t.get? id := by
  induction l generalizing t with
  | nil => exact ⟨.refl h, fun _ => rfl⟩
  | cons p l ih =>
    obtain ⟨hp, hl⟩ := List.pairwise_cons.mp hl
    have hget := harmed p List.mem_cons_self
    have hthinned := thinned_release_of_armed h hget
    obtain ⟨hrest, hgets⟩ := ih hthinned.wellFormed hl fun q hq => by
      rw [get?_release, if_neg (hp q hq).symm]
      exact harmed q (List.mem_cons_of_mem p hq)
    refine ⟨hthinned.trans hrest, ?_⟩
    intro id
    have hmem : id ∈ p.1 :: l.map Prod.fst ↔ id = p.1 ∨ id ∈ l.map Prod.fst := List.mem_cons
    rw [List.foldl_cons, hgets, get?_release_of_armed hget, List.map_cons]
    by_cases hid : id = p.1
    · rw [if_pos hid, ite_self, if_pos (hmem.mpr (.inl hid))]
    · by_cases hrest : id ∈ l.map Prod.fst
      · rw [if_pos hrest, if_pos (hmem.mpr (.inr hrest))]
      · rw [if_neg hrest, if_neg hid, if_neg fun h => (hmem.mp h).elim hid hrest]

/-- A slot that cancels its timers loses them all, and no other timer is gone. -/
lemma cancelOwner_spec (h : t.WellFormed) (owner : SlotId) :
    Thinned t (t.cancelOwner owner).2 ∧
      ∀ id, (t.cancelOwner owner).2.get? id = (t.get? id).filter fun timer => timer.owner ≠ owner := by
  obtain ⟨hthinned, hget⟩ := release_all (l := t.toList.filter fun (_, timer) => timer.owner = owner) h
    ((pairwise_toList t).filter _) fun p hp => mem_toList.mp (List.mem_filter.mp hp).1
  refine ⟨hthinned, fun id => (hget id).trans ?_⟩
  cases hid : t.get? id with
  | none => exact ite_self none
  | some timer =>
    have hmem : id ∈ (t.toList.filter fun (_, timer) => timer.owner = owner).map Prod.fst ↔
        timer.owner = owner := by
      simp only [List.mem_map, List.mem_filter, Prod.exists, exists_and_right, exists_eq_right,
        mem_toList, hid, Option.some.injEq, exists_eq_left', decide_eq_true_eq]
    by_cases howner : timer.owner = owner
    · rw [if_pos (hmem.mpr howner)]
      simp [Option.filter, howner]
    · rw [if_neg fun h => howner (hmem.mp h)]
      simp [Option.filter, howner]

/-- The due timers are the armed ones whose deadline has come. -/
lemma mem_due {now : Nat} : id ∈ t.due now ↔ ∃ timer, t.get? id = some timer ∧ timer.deadline ≤ now := by
  simp [due, List.mem_map, List.mem_mergeSort, List.mem_filter, mem_toList]

lemma nodup_due (t : TimerTable) (now : Nat) : (t.due now).Nodup := by
  have hnodup : (t.toList.map Prod.fst).Nodup :=
    List.pairwise_map.mpr ((pairwise_toList t).imp fun hne heq => hne (congrArg _ heq))
  rw [due, ((List.mergeSort_perm _ _).map Prod.fst).nodup_iff]
  exact hnodup.sublist (List.filter_sublist.map Prod.fst)

/-- An armed timer gets another deadline. -/
private lemma get?_redate {deadline : Nat} (overrun : Bool) (hget : t.get? id = some timer)
    (id' : TimerId) :
    ({ t.modify id.entry fun e => { e with timer := some { timer with deadline } } with
      overrun } : TimerTable).get? id' =
      if id' = id then some { timer with deadline } else t.get? id' := by
  obtain ⟨e, he, hgeneration, htimer⟩ := get?_eq_some.mp hget
  have hentry (j : UInt32) : ({ t.modify id.entry fun e =>
      { e with timer := some { timer with deadline } } with overrun } : TimerTable).entryAt? j = _ :=
    t.entryAt?_modify id.entry j _
  have hsame : ({ e with timer := some { timer with deadline } } : Entry).generation =
    e.generation := rfl
  by_cases hid : id' = id
  · simp only [hid, get?, hentry, if_true, he, Option.map_some, hsame, hgeneration]
  · rw [if_neg hid]
    -- a stale id shares the place but not the generation
    by_cases hplace : id.entry = id'.entry
    · have hne : e.generation ≠ id'.generation := by
        rw [hgeneration]
        intro hg
        cases id
        cases id'
        simp_all
      simp only [get?, hentry, ← hplace, if_true, he, Option.map_some, hsame, if_neg hne]
    · simp only [get?, hentry, if_neg hplace]

private lemma thinned_redate {deadline : Nat} (overrun : Bool) (h : t.WellFormed)
    (hget : t.get? id = some timer) (hkind : timer.kind = .periodic) :
    Thinned t { t.modify id.entry fun e => { e with timer := some { timer with deadline } } with
      overrun } := by
  obtain ⟨e, he, _, htimer⟩ := get?_eq_some.mp hget
  have hentry (j : UInt32) : ({ t.modify id.entry fun e =>
      { e with timer := some { timer with deadline } } with overrun } : TimerTable).entryAt? j = _ :=
    t.entryAt?_modify id.entry j _
  refine ⟨⟨h.free_nodup, fun j hj => ?_⟩, fun id' => ?_, fun id' hid => ?_,
    fun id' timer' hkind' hid => ?_⟩
  · obtain ⟨e', he', hfree⟩ := h.free_unarmed j hj
    refine ⟨e', ?_, hfree⟩
    rw [hentry, if_neg, he']
    rintro rfl
    exact h.not_mem_free he (by simp [htimer]) hj
  -- a redated timer is issued and armed as it was
  · simp only [Issued, hentry]
    by_cases hplace : id.entry = id'.entry
    · rw [if_pos hplace, ← hplace, he]
      simp [htimer]
    · rw [if_neg hplace]
  · rw [get?_redate overrun hget]
    by_cases hid' : id' = id
    · rw [hid', hget] at hid
      cases hid
    · rw [if_neg hid', hid]
  · rw [get?_redate overrun hget] at hid
    split_ifs at hid with hid'
    · cases hid
      exact absurd hkind' (by simp [hkind])
    · exact hid

/-- What is left of a timer after it fired: nothing, or a timer that is due again one period later. -/
def afterFire (timer : Timer) (now : Nat) : Option Timer :=
  match timer.kind with
  | .oneShot => none
  | .periodic => some { timer with deadline := now + timer.period }

/-- A timer that fires is armed and due and tells what it is, and no other timer changes. -/
lemma get?_fire {now : Nat} {expiry : Expiry} (hfire : t.fire id now = some (expiry, t')) :
    ∃ timer, t.get? id = some timer ∧ timer.deadline ≤ now ∧
      expiry = { id, kind := timer.kind, owner := timer.owner, token := timer.token } ∧
      ∀ id', t'.get? id' = if id' = id then afterFire timer now else t.get? id' := by
  simp only [fire] at hfire
  split at hfire
  · cases hfire
  · rename_i timer hget
    split_ifs at hfire with hdue
    refine ⟨timer, hget, hdue, ?_⟩
    split at hfire <;> rename_i hkind <;> cases hfire
    · refine ⟨rfl, fun id' => ?_⟩
      rw [get?_redate _ hget, afterFire, hkind]
    · refine ⟨rfl, fun id' => ?_⟩
      rw [get?_release_of_armed hget, afterFire, hkind]

/-- What stands after a timer fired stood before it, for the same owner. -/
lemma exists_of_fire {now : Nat} {expiry : Expiry} (hfire : t.fire id now = some (expiry, t'))
    (hget : t'.get? id' = some timer) :
    ∃ before, t.get? id' = some before ∧ before.owner = timer.owner := by
  obtain ⟨fired, hfired, _, _, hafter⟩ := get?_fire hfire
  rw [hafter] at hget
  split_ifs at hget with hid
  · rw [afterFire] at hget
    split at hget <;> cases hget
    exact ⟨fired, hid ▸ hfired, rfl⟩
  · exact ⟨timer, hget, rfl⟩

lemma thinned_fire {now : Nat} {expiry : Expiry} (h : t.WellFormed)
    (hfire : t.fire id now = some (expiry, t')) : Thinned t t' := by
  simp only [fire] at hfire
  split at hfire
  · cases hfire
  · rename_i timer hget
    split_ifs at hfire
    split at hfire <;> rename_i hkind <;> cases hfire
    · exact thinned_redate _ h hget hkind
    · exact thinned_release_of_armed h hget

/-- A timer fires when it is armed and due. A one-shot timer is gone after it, and no timer but the
one that fires changes. -/
lemma fire_eq_some {now : Nat} {expiry : Expiry} (h : t.WellFormed)
    (hfire : t.fire id now = some (expiry, t')) :
    ∃ timer, t.get? id = some timer ∧ expiry.owner = timer.owner ∧ Thinned t t' ∧
      (timer.kind = .oneShot → t'.get? id = none) ∧ ∀ id' ≠ id, t'.get? id' = t.get? id' := by
  obtain ⟨timer, hget, _, rfl, hafter⟩ := get?_fire hfire
  refine ⟨timer, hget, rfl, thinned_fire h hfire, fun hkind => ?_, fun id' hid => ?_⟩
  · rw [hafter, if_pos rfl, afterFire, hkind]
  · rw [hafter, if_neg hid]

/-- A timer that does not fire is gone or not due. -/
lemma lt_deadline_of_fire {now : Nat} (hfire : t.fire id now = none) (hget : t.get? id = some timer) :
    now < timer.deadline := by
  simp only [fire, hget] at hfire
  split_ifs at hfire with hdue
  · split at hfire <;> cases hfire
  · exact Nat.lt_of_not_le hdue

/-! ### A single timer -/

section Single

variable {now : Nat}

/-- The timer is armed, and no other is. -/
def Sole (t : TimerTable) (id : TimerId) (timer : Timer) : Prop :=
  ∀ id', t.get? id' = if id' = id then some timer else none

/-- A table with room in it takes a first timer. -/
lemma exists_sole {capacity : Nat} (hcapacity : 0 < capacity) (period : Nat) (owner : SlotId)
    (token now : Nat) :
    ∃ id t, (empty capacity).add .oneShot period owner token now = .ok (id, t) ∧
      t.Sole id { kind := .oneShot, deadline := now + period, period, owner, token } := by
  have hsize : (empty capacity).entries.size < UInt32.size := (by decide : 0 < UInt32.size)
  have hclaim : (empty capacity).claim = some (0, (empty capacity).grow hsize) :=
    dif_pos ⟨hcapacity, hsize⟩
  rcases hadd : (empty capacity).add .oneShot period owner token now with err | ⟨id, t⟩
  · simp [add, hclaim] at hadd
  · refine ⟨id, t, rfl, fun id' => ?_⟩
    rw [(armed_add (wellFormed_empty capacity) hadd).get?]
    congr 1

/-- Where nothing is armed, nothing is due. -/
lemma due_eq_nil (h : ∀ id, t.get? id = none) (now : Nat) : t.due now = [] := by
  refine List.eq_nil_iff_forall_not_mem.mpr fun id hid => ?_
  obtain ⟨timer, hget, _⟩ := mem_due.mp hid
  cases (h id).symm.trans hget

namespace Sole

lemma get? (h : t.Sole id timer) : t.get? id = some timer := (h id).trans (if_pos rfl)

lemma due (h : t.Sole id timer) (hdue : timer.deadline ≤ now) : t.due now = [id] := by
  have hmem (id' : TimerId) : id' ∈ t.due now ↔ id' ∈ [id] := by
    rw [mem_due, h id', List.mem_singleton]
    split_ifs with hid
    · simp [hid, hdue]
    · simp [hid]
  exact List.perm_singleton.mp
    ((List.perm_ext_iff_of_nodup (nodup_due t now) (List.pairwise_singleton _ id)).mpr hmem)

lemma get?_cancel (h : t.Sole id timer) (id' : TimerId) : (t.cancel id).2.get? id' = none := by
  rw [TimerTable.get?_cancel, h id']
  split_ifs <;> rfl

/-- It fires when it is due, and then nothing is armed if it fires once. -/
lemma exists_fire (h : t.Sole id timer) (hkind : timer.kind = .oneShot)
    (hdue : timer.deadline ≤ now) :
    ∃ t', t.fire id now =
        some ({ id, kind := timer.kind, owner := timer.owner, token := timer.token }, t') ∧
      ∀ id', t'.get? id' = none := by
  rcases hfire : t.fire id now with _ | ⟨expiry, t'⟩
  · exact absurd hdue (Nat.not_le_of_lt (lt_deadline_of_fire hfire h.get?))
  · obtain ⟨timer', hget, _, rfl, hafter⟩ := get?_fire hfire
    cases h.get?.symm.trans hget
    refine ⟨t', rfl, fun id' => ?_⟩
    rw [hafter, afterFire, hkind, h id']
    split_ifs <;> rfl

end Sole

end Single

end BoardLink.TimerTable
