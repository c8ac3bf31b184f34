import BoardLink.Proofs.Timer.Table

/-!
# How timers leave a table

A timer stays in its entry until the entry is released, whatever else is done to the table. So an
identifier whose entry was released does not stand for a timer, and an identifier that was given out
later stood for none before, unless the entry was released 2³² times in between.
-/

namespace BoardLink.TimerTable

variable {t t' t'' : TimerTable} {id : TimerId} {timer : Timer}

/-! ### Releases -/

/-- How often timers left an entry, never if it is not there. -/
def releases (t : TimerTable) (i : UInt32) : Nat := ((t.entryAt? i).map Entry.releases).getD 0

/-- Timers leave their entries only by releases, and these are not forgotten. -/
def Retains (t t' : TimerTable) : Prop :=
  ∀ i e, t.entryAt? i = some e → ∃ e', t'.entryAt? i = some e' ∧
    (e.releases < e'.releases ∨ e'.releases = e.releases ∧ (e.timer.isSome → e'.timer.isSome))

namespace Retains

lemma refl (t : TimerTable) : Retains t t := fun _ e he => ⟨e, he, .inr ⟨rfl, id⟩⟩

lemma trans (h : Retains t t') (h' : Retains t' t'') : Retains t t'' := by
  intro i e he
  obtain ⟨e', he', hcases⟩ := h i e he
  obtain ⟨e'', he'', hcases'⟩ := h' i e' he'
  refine ⟨e'', he'', ?_⟩
  rcases hcases with hlt | ⟨heq, harmed⟩
  · rcases hcases' with hlt' | ⟨heq', _⟩
    · exact .inl (Nat.lt_trans hlt hlt')
    · exact .inl (heq' ▸ hlt)
  · rcases hcases' with hlt' | ⟨heq', harmed'⟩
    · exact .inl (heq ▸ hlt')
    · exact .inr ⟨heq'.trans heq, fun h => harmed' (harmed h)⟩

lemma releases_le (h : Retains t t') (i : UInt32) : t.releases i ≤ t'.releases i := by
  simp only [releases]
  cases he : t.entryAt? i with
  | none => exact Nat.zero_le _
  | some e =>
    obtain ⟨e', he', hcases⟩ := h i e he
    rw [he']
    rcases hcases with hlt | ⟨heq, _⟩
    · exact Nat.le_of_lt hlt
    · exact Nat.le_of_eq heq.symm

end Retains

/-- An entry may change as long as its timer does not vanish. -/
private lemma retains_modify {i : UInt32} {f : Entry → Entry} (free : List UInt32) (armed : Nat)
    (overrun : Bool) (hf : ∀ e : Entry, e.releases < (f e).releases ∨
      (f e).releases = e.releases ∧ (e.timer.isSome → (f e).timer.isSome)) :
    Retains t { t.modify i f with free, armed, overrun } := by
  intro j e he
  have hentry := t.entryAt?_modify i j f
  rw [he] at hentry
  show ∃ e', (t.modify i f).entryAt? j = some e' ∧ _
  rw [hentry]
  split_ifs
  · exact ⟨_, rfl, hf e⟩
  · exact ⟨e, rfl, .inr ⟨rfl, id⟩⟩

lemma retains_release (t : TimerTable) (i : UInt32) : Retains t (t.release i) :=
  retains_modify _ _ _ fun e => .inl (Nat.lt_succ_self e.releases)

private lemma retains_claim {i : UInt32} (h : t.claim = some (i, t')) : Retains t t' := by
  rcases claim_cases h with ⟨free, _, rfl⟩ | ⟨_, _, hroom, _, rfl⟩
  · exact .refl t
  · intro j e he
    refine ⟨e, ?_, .inr ⟨rfl, id⟩⟩
    rw [entryAt?_grow, if_neg, he]
    rintro rfl
    cases (entryAt?_size hroom).symm.trans he

lemma retains_add {kind : Timer.Kind} {period token now : Nat} {owner : SlotId}
    (h : t.add kind period owner token now = .ok (id, t')) : Retains t t' := by
  obtain ⟨i, t₁, hclaim, _, rfl⟩ := add_cases h
  exact (retains_claim hclaim).trans (retains_modify _ _ _ fun e => .inr ⟨rfl, fun _ => rfl⟩)

lemma retains_cancel (t : TimerTable) (id : TimerId) : Retains t (t.cancel id).2 := by
  cases harmed : t.isArmed id with
  | false =>
    rw [cancel, harmed]
    exact .refl t
  | true =>
    rw [cancel, harmed]
    exact retains_release t id.entry

lemma retains_cancelOwner (t : TimerTable) (owner : SlotId) : Retains t (t.cancelOwner owner).2 := by
  rw [cancelOwner]
  generalize t.toList.filter _ = owned
  induction owned generalizing t with
  | nil => exact .refl t
  | cons p owned ih => exact (retains_release t p.1.entry).trans (ih _)

lemma retains_fire {now : Nat} {expiry : Expiry} (h : t.fire id now = some (expiry, t')) :
    Retains t t' := by
  simp only [fire] at h
  split at h
  · cases h
  · split_ifs at h
    split at h <;> cases h
    · exact retains_modify _ _ _ fun e => .inr ⟨rfl, fun _ => rfl⟩
    · exact retains_release t id.entry

/-! ### Identifiers and releases -/

/-- An armed timer has the generation that its entry is in. -/
lemma generation_eq_of_get? (hget : t.get? id = some timer) :
    id.generation = .ofNat (t.releases id.entry) := by
  obtain ⟨e, he, hgeneration, _⟩ := get?_eq_some.mp hget
  rw [releases, he, ← hgeneration]
  rfl

/-- Generations differ until one comes back. -/
private lemma ofNat_ne_of_lt {n m : Nat} (hlt : n < m) (hwrap : m < n + UInt32.size) :
    UInt32.ofNat n ≠ UInt32.ofNat m := by
  intro h
  have hnat : n % UInt32.size = m % UInt32.size := congrArg UInt32.toNat h
  rw [UInt32.size] at hnat hwrap
  omega

/-- Whoever is gone was released. -/
lemma Retains.releases_lt (h : Retains t t') (hget : t.get? id = some timer)
    (hgone : t'.get? id = none) : t.releases id.entry < t'.releases id.entry := by
  obtain ⟨e, he, hgeneration, htimer⟩ := get?_eq_some.mp hget
  obtain ⟨e', he', hlt | ⟨heq, harmed⟩⟩ := h id.entry e he
  · simpa [releases, he, he'] using hlt
  · obtain ⟨timer', htimer'⟩ := Option.isSome_iff_exists.mp (harmed (by rw [htimer]; rfl))
    have hgeneration' : e'.generation = id.generation := by
      rw [← hgeneration, Entry.generation, heq, Entry.generation]
    rw [get?_eq_some.mpr ⟨e', he', hgeneration', htimer'⟩] at hgone
    cases hgone

/-- No generation of an entry came back from one table to another. -/
def UnwrappedSince (t t' : TimerTable) (i : UInt32) : Prop :=
  t'.releases i < t.releases i + UInt32.size

lemma UnwrappedSince.before {i : UInt32} (hwrap : UnwrappedSince t t'' i) (h : Retains t' t'') :
    UnwrappedSince t t' i := Nat.lt_of_le_of_lt (h.releases_le i) hwrap

lemma UnwrappedSince.after {i : UInt32} (hwrap : UnwrappedSince t t'' i) (h : Retains t t') :
    UnwrappedSince t' t'' i := Nat.lt_of_lt_of_le hwrap (Nat.add_le_add_right (h.releases_le i) _)

/-- Whoever was released is gone. -/
lemma get?_eq_none_of_releases_lt (hget : t.get? id = some timer)
    (hlt : t.releases id.entry < t'.releases id.entry) (hwrap : UnwrappedSince t t' id.entry) :
    t'.get? id = none := by
  cases hget' : t'.get? id with
  | none => rfl
  | some timer' =>
    have hsame := (generation_eq_of_get? hget).symm.trans (generation_eq_of_get? hget')
    exact absurd hsame (ofNat_ne_of_lt hlt hwrap)

/-! ### Timers that are armed on the way -/

/-- The identifier stands for no timer, and is the next one of its entry. -/
def Vacant (t : TimerTable) (id : TimerId) : Prop :=
  ∀ e, t.entryAt? id.entry = some e → e.timer = none ∧ e.generation = id.generation

lemma vacant_of_add {kind : Timer.Kind} {period token now : Nat} {owner : SlotId}
    (h : t.WellFormed) (hadd : t.add kind period owner token now = .ok (id, t')) : t.Vacant id := by
  obtain ⟨i, t₁, hclaim, rfl, _⟩ := add_cases hadd
  intro e he
  rcases claim_cases hclaim with ⟨free, hfree, rfl⟩ | ⟨_, _, hroom, rfl, rfl⟩
  · obtain ⟨e', he', hnone⟩ := h.free_unarmed i (hfree ▸ List.mem_cons_self)
    obtain rfl := Option.some.inj (he.symm.trans he')
    refine ⟨hnone, ?_⟩
    show e.generation = TimerTable.generation t i
    rw [generation, he]
  · cases (entryAt?_size hroom).symm.trans he

/-- A timer that is armed when another was just cancelled takes its entry, in the next generation. -/
lemma add_of_cancel (hget : t.get? id = some timer) (period : Nat) (owner : SlotId) (token now : Nat) :
    ∃ t', (t.cancel id).2.add .oneShot period owner token now =
      .ok (⟨id.entry, id.generation + 1⟩, t') := by
  obtain ⟨e, he, hgeneration, _⟩ := get?_eq_some.mp hget
  have hcancel : (t.cancel id).2 = t.release id.entry := by
    simp [cancel, isArmed, hget]
  have hnext : (t.release id.entry).generation id.entry = id.generation + 1 := by
    simp [generation, entryAt?_release, he, Entry.generation, ← hgeneration, UInt32.ofNat_add]
  refine ⟨?_, ?added⟩
  case added =>
    rw [hcancel, ← hnext]
    rfl

lemma Vacant.get?_eq_none (h : t.Vacant id) : t.get? id = none := by
  cases hget : t.get? id with
  | none => rfl
  | some timer =>
    obtain ⟨e, he, _, htimer⟩ := get?_eq_some.mp hget
    cases htimer.symm.trans (h e he).1

/-- The identifier was given out to a timer on the way from one table to another. -/
def ArmedOnWay (t t' : TimerTable) (id : TimerId) : Prop :=
  ∃ t₁, Retains t t₁ ∧ t₁.Vacant id ∧ Retains t₁ t'

lemma armedOnWay_of_add {kind : Timer.Kind} {period token now : Nat} {owner : SlotId}
    (h : t.WellFormed) (hadd : t.add kind period owner token now = .ok (id, t')) :
    ArmedOnWay t t' id :=
  ⟨t, .refl t, vacant_of_add h hadd, retains_add hadd⟩

lemma ArmedOnWay.after (h : ArmedOnWay t' t'' id) (hretains : Retains t t') : ArmedOnWay t t'' id := by
  obtain ⟨t₁, hbefore, hvacant, hafter⟩ := h
  exact ⟨t₁, hretains.trans hbefore, hvacant, hafter⟩

lemma ArmedOnWay.before (h : ArmedOnWay t t' id) (hretains : Retains t' t'') : ArmedOnWay t t'' id := by
  obtain ⟨t₁, hbefore, hvacant, hafter⟩ := h
  exact ⟨t₁, hbefore, hvacant, hafter.trans hretains⟩

/-- A timer that is armed on the way gets an identifier that stood for none. -/
lemma ArmedOnWay.get?_eq_none (h : ArmedOnWay t t' id) (hwrap : UnwrappedSince t t' id.entry) :
    t.get? id = none := by
  obtain ⟨t₁, hbefore, hvacant, hafter⟩ := h
  cases hget : t.get? id with
  | none => rfl
  | some timer =>
    obtain ⟨e, he, hgeneration, htimer⟩ := get?_eq_some.mp hget
    obtain ⟨e₁, he₁, hcases⟩ := hbefore id.entry e he
    obtain ⟨hnone, hsame⟩ := hvacant e₁ he₁
    -- the entry was released in between, so its generation moved on unless it came round
    rcases hcases with hlt | ⟨_, harmed⟩
    · have hle := hafter.releases_le id.entry
      simp only [UnwrappedSince, releases, he, he₁, Option.map_some, Option.getD_some] at hle hwrap
      exact absurd (hgeneration.trans hsame.symm)
        (ofNat_ne_of_lt hlt (Nat.lt_of_le_of_lt hle hwrap))
    · have harmed := harmed (by rw [htimer]; rfl)
      rw [hnone] at harmed
      cases harmed

end BoardLink.TimerTable
