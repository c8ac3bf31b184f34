import Mathlib.Data.List.Permutation
import BoardLink.Proofs.Timer.History

/-!
# What expires, and when

A table that is asked which timers are due names those whose deadline has come, the earliest first,
and firing them leaves none of them due. This rests on two facts about every table that operations
lead to: its timers stand in the order of their entries, and a timer that goes on after it fired
goes on later, since no timer is armed that repeats without a pause.
-/

namespace BoardLink

/-- What is told of a timer that fires. -/
def Timer.expiry (timer : Timer) (id : TimerId) : Expiry :=
  { id, kind := timer.kind, owner := timer.owner, token := timer.token }

namespace TimerTable

variable {t : TimerTable} {id : TimerId} {timer : Timer} {capacity now : Nat}

/-! ### Order -/

/-- Sorting by a number does not exchange elements with the same number. -/
private lemma pairwise_mergeSort_of_pairwise {α : Type} {r : α → α → Prop} {l : List α}
    (key : α → Nat) (hl : l.Pairwise r) :
    (l.mergeSort fun a b => key a ≤ key b).Pairwise fun a b =>
      key a < key b ∨ key a = key b ∧ r a b := by
  have htrans : ∀ a b c, decide (key a ≤ key b) → decide (key b ≤ key c) →
      decide (key a ≤ key c) := by
    simp only [decide_eq_true_eq]
    exact fun _ _ _ => Nat.le_trans
  have htotal : ∀ a b, decide (key a ≤ key b) || decide (key b ≤ key a) := by
    simp only [Bool.or_eq_true, decide_eq_true_eq]
    exact fun _ _ => Nat.le_total _ _
  induction hl with
  | nil => simp
  | @cons a l hfirst _ ih =>
    -- The first element goes behind those that must stand before it, and behind no others.
    obtain ⟨before, after, hcons, hrest, hbefore⟩ := List.mergeSort_cons htrans htotal a l
    have hsorted := List.pairwise_mergeSort htrans htotal (a :: l)
    rw [hcons, List.pairwise_append, List.pairwise_cons] at hsorted
    obtain ⟨_, ⟨hafter, _⟩, _⟩ := hsorted
    rw [hrest, List.pairwise_append] at ih
    obtain ⟨hsortedBefore, hsortedAfter, hacross⟩ := ih
    rw [hcons, List.pairwise_append, List.pairwise_cons]
    refine ⟨hsortedBefore, ⟨fun b hb => ?_, hsortedAfter⟩, fun b hb c hc => ?_⟩
    · have hmem : b ∈ l := List.mem_mergeSort.mp (hrest ▸ List.mem_append_right before hb)
      rcases Nat.lt_or_eq_of_le (of_decide_eq_true (hafter b hb)) with hlt | heq
      · exact .inl hlt
      · exact .inr ⟨heq, hfirst b hmem⟩
    · rcases List.mem_cons.mp hc with rfl | hc
      · exact .inl (by simpa using hbefore b hb)
      · exact hacross b hb c hc

/-- Is the first timer due before the second, or at the same time in an earlier entry? -/
def Precedes (t : TimerTable) (id id' : TimerId) : Prop :=
  ∀ timer timer', t.get? id = some timer → t.get? id' = some timer' →
    timer.deadline < timer'.deadline ∨
      timer.deadline = timer'.deadline ∧ id.entry < id'.entry

lemma pairwise_due (t : TimerTable) (now : Nat) : (t.due now).Pairwise t.Precedes := by
  have hentries := (sorted_toList t).filter fun p => p.2.deadline ≤ now
  rw [due, List.pairwise_map]
  refine (pairwise_mergeSort_of_pairwise (fun p => p.2.deadline) hentries).imp_of_mem ?_
  intro a b ha hb hordered timer timer' hget hget'
  have hgets : ∀ p ∈ (t.toList.filter fun p => p.2.deadline ≤ now).mergeSort
      fun a b => a.2.deadline ≤ b.2.deadline, t.get? p.1 = some p.2 := fun p hp =>
    mem_toList.mp (List.mem_filter.mp (List.mem_mergeSort.mp hp)).1
  obtain rfl := Option.some.inj (hget.symm.trans (hgets a ha))
  obtain rfl := Option.some.inj (hget'.symm.trans (hgets b hb))
  exact hordered

/-! ### Timers that go on -/

/-- No timer repeats without a pause. -/
def Pausing (t : TimerTable) : Prop :=
  ∀ id timer, t.get? id = some timer → ¬(timer.kind = .periodic ∧ timer.period = 0)

/-- A timer is armed only if it does not repeat without a pause. -/
private lemma of_proceed_armed {a : Action} (h : (t.proceed a).1 = .armed id timer) :
    ¬(timer.kind = .periodic ∧ timer.period = 0) := by
  cases a with
  | add kind period owner token now =>
    simp only [proceed] at h
    split at h
    · rename_i hadd
      cases h
      simp only [add] at hadd
      split_ifs at hadd with hzero
      exact hzero
    · cases h
  | fire id now =>
    simp only [proceed] at h
    split at h <;> cases h
  | cancel id => cases h
  | expire now => cases h
  | cancelOwner owner => cases h

lemma Pausing.proceed (h : t.Pausing) (hcounted : t.Counted capacity) (a : Action) :
    (t.proceed a).2.Pausing := by
  intro id timer hget
  rw [(tells_proceed hcounted a).get?] at hget
  rcases Event.after_eq_some hget with harmed | ⟨timer', hget', _, htimer⟩
  · exact of_proceed_armed harmed
  · rw [htimer]
    exact h id timer' hget'

lemma Pausing.proceedAll (h : t.Pausing) (hcounted : t.Counted capacity) (actions : List Action) :
    (t.proceedAll actions).2.Pausing := by
  induction actions generalizing t with
  | nil => exact h
  | cons a actions ih => exact ih (h.proceed hcounted a) (tells_proceed hcounted a).counted

/-! ### Expiring -/

/-- What is left of a timer once its table expired. -/
def afterExpire (timer : Timer) (now : Nat) : Option Timer :=
  if timer.deadline ≤ now then afterFire timer now else some timer

/-- The next deadline is that of an armed timer, and none is earlier. -/
lemma nextDeadline_eq_some {deadline : Nat} : t.nextDeadline = some deadline ↔
    (∃ id timer, t.get? id = some timer ∧ timer.deadline = deadline) ∧
      ∀ id timer, t.get? id = some timer → deadline ≤ timer.deadline := by
  simp only [nextDeadline, List.min?_eq_some_iff, List.mem_map, Prod.exists, mem_toList,
    forall_exists_index, and_imp]
  refine and_congr_right fun _ => ?_
  constructor
  · intro hle id timer hget
    exact hle _ id timer hget rfl
  · rintro hle _ id timer hget rfl
    exact hle id timer hget

/-- The next deadline has passed just when something is due. -/
lemma timeUntilNext_eq_zero : t.timeUntilNext now = some 0 ↔ t.due now ≠ [] := by
  rw [timeUntilNext, Option.map_eq_some_iff]
  constructor
  · rintro ⟨deadline, hnext, hzero⟩
    obtain ⟨⟨id, timer, hget, rfl⟩, _⟩ := nextDeadline_eq_some.mp hnext
    have hid : id ∈ t.due now := mem_due.mpr ⟨timer, hget, Nat.le_of_sub_eq_zero hzero⟩
    exact List.ne_nil_of_mem hid
  · intro hdue
    obtain ⟨id, hid⟩ := List.exists_mem_of_ne_nil _ hdue
    obtain ⟨timer, hget, hdue⟩ := mem_due.mp hid
    cases hnext : t.nextDeadline with
    | none =>
      rw [nextDeadline, List.min?_eq_none_iff, List.map_eq_nil_iff] at hnext
      cases hnext ▸ mem_toList.mpr hget
    | some deadline =>
      have hle := (nextDeadline_eq_some.mp hnext).2 id timer hget
      exact ⟨deadline, rfl, Nat.sub_eq_zero_of_le (Nat.le_trans hle hdue)⟩

/-! ### Tables that fire in time -/

/-- A table fires the timers that are due, which leaves it with these. -/
structure Expires (t : TimerTable) (now : Nat) (expiries : List Expiry) (t' : TimerTable) : Prop where
  /-- What is due fires, in this order and with all there is to tell of it. -/
  map_some : expiries.map some = (t.due now).map fun id => (t.get? id).map (·.expiry id)
  /-- A timer that fires is gone or goes on one period later, and the others stay as they are. -/
  get? : ∀ id, t'.get? id = (t.get? id).bind (afterExpire · now)
  due : t'.due now = []
  lt_nextDeadline : ∀ deadline, t'.nextDeadline = some deadline → now < deadline

/-- A table fires its timers in time: none is missed, none is early and none fires twice. -/
structure Punctual (t : TimerTable) : Prop where
  mem_due : ∀ now id, id ∈ t.due now ↔ ∃ timer, t.get? id = some timer ∧ timer.deadline ≤ now
  nodup_due : ∀ now, (t.due now).Nodup
  pairwise_due : ∀ now, (t.due now).Pairwise t.Precedes
  /-- Only a timer that would go on past the last instant keeps the others from firing. -/
  perform_expire_eq_none : ∀ now, t.perform (.expire now) = none ↔
    ∃ id timer, t.get? id = some timer ∧ Overruns timer now
  expires : ∀ now event t', t.perform (.expire now) = some (event, t') →
    ∃ expiries, event = .fired now expiries ∧ t.Expires now expiries t'
  timeUntilNext_eq_zero : ∀ now, t.timeUntilNext now = some 0 ↔ t.due now ≠ []

end TimerTable

end BoardLink
