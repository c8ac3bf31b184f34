import Mathlib.Data.Set.Card
import BoardLink.Proofs.Timer.Table

/-!
# What a table answered tells what it holds

A table of timers is a map from identifiers to timers. What it was asked for and what it answered,
from the first request on, tells which timers are armed, with all there is to know of each, and
identifiers are not given out twice as long as no generation comes back. An operation has no result
if a number of the program is too small for it: the addition of a period panics when it passes the last
instant, and the number of an entry has 32 bits.
-/

namespace BoardLink.TimerTable

/-! ### Requests and answers -/

/-- One thing to ask of a table. -/
inductive Action where
  | add (kind : Timer.Kind) (period : Nat) (owner : SlotId) (token now : Nat)
  | cancel (id : TimerId)
  | fire (id : TimerId) (now : Nat)
  | expire (now : Nat)
  | cancelOwner (owner : SlotId)

/-- What came of it. -/
inductive Event where
  /-- This timer was armed under this identifier. -/
  | armed (id : TimerId) (timer : Timer)
  | refused (error : TimerError)
  | cancelled (id : TimerId) (found : Bool)
  /-- These timers fired, in order. -/
  | fired (now : Nat) (expiries : List Expiry)
  /-- The timers of a slot were cancelled, so many of them. -/
  | dropped (owner : SlotId) (count : Nat)
  deriving DecidableEq

/-- Does one thing that is asked, as if the clock had no end. -/
def proceed (t : TimerTable) : Action → Event × TimerTable
  | .add kind period owner token now =>
    match t.add kind period owner token now with
    | .ok (id, t) => (.armed id { kind, deadline := now + period, period, owner, token }, t)
    | .error e => (.refused e, t)
  | .cancel id => (.cancelled id (t.cancel id).1, (t.cancel id).2)
  | .fire id now =>
    match t.fire id now with
    | some (expiry, t) => (.fired now [expiry], t)
    | none => (.fired now [], t)
  | .expire now => (.fired now (t.expire now).1, (t.expire now).2)
  | .cancelOwner owner => (.dropped owner (t.cancelOwner owner).1, (t.cancelOwner owner).2)

/-- Does one thing after the other, as if the clock had no end. -/
def proceedAll (t : TimerTable) : List Action → List Event × TimerTable
  | [] => ([], t)
  | a :: as =>
    let (event, t) := t.proceed a
    let (events, t) := t.proceedAll as
    (event :: events, t)

/-- Is a number of the program too small for the operation? Then a deadline passed the last instant,
or a table with room in it was full because all numbers of entries are taken. -/
def Exceeds (t : TimerTable) (a : Action) : Prop :=
  (t.proceed a).2.overrun = true ∨
    (t.proceed a).1 = .refused (.tableFull t.capacity) ∧ t.armed < t.capacity

instance (t : TimerTable) (a : Action) : Decidable (t.Exceeds a) :=
  inferInstanceAs (Decidable (_ ∨ _))

/-- Does one thing that is asked, if all numbers of the program are large enough for it. -/
def perform (t : TimerTable) (a : Action) : Option (Event × TimerTable) :=
  if t.Exceeds a then none else some (t.proceed a)

/-- Does one thing after the other. -/
def performAll (t : TimerTable) : List Action → Option (List Event × TimerTable)
  | [] => some ([], t)
  | a :: as => do
    let (event, t) ← t.perform a
    let (events, t) ← t.performAll as
    return (event :: events, t)

/-! ### What events tell -/

namespace Event

/-- The armed timers after some fired, one after the other. -/
def afterExpiries (now : Nat) (timers : TimerId → Option Timer) :
    List Expiry → TimerId → Option Timer :=
  List.foldl (fun timers x =>
    Function.update timers x.id ((timers x.id).bind fun timer => afterFire timer now)) timers

/-- The armed timers after one more event. -/
def after (timers : TimerId → Option Timer) : Event → TimerId → Option Timer
  | .armed id timer => Function.update timers id (some timer)
  | .refused _ => timers
  | .cancelled id _ => Function.update timers id none
  | .fired now expiries => afterExpiries now timers expiries
  | .dropped owner _ => fun id => (timers id).filter fun timer => timer.owner ≠ owner

/-- Is an armed timer gone after the event? -/
def Ends (id : TimerId) (timer : Timer) : Event → Prop
  | .cancelled id' _ => id' = id
  | .fired _ expiries => timer.kind = .oneShot ∧ ∃ x ∈ expiries, x.id = id
  | .dropped owner _ => timer.owner = owner
  | _ => False

/-- Is the event about other timers than this one? -/
def Spares (id : TimerId) (timer : Timer) : Event → Prop
  | .cancelled id' _ => id' ≠ id
  | .fired _ expiries => ∀ x ∈ expiries, x.id ≠ id
  | .dropped owner _ => timer.owner ≠ owner
  | _ => True

end Event

/-- The armed timers of a table that was empty before these events. -/
def armedBy (events : List Event) : TimerId → Option Timer := events.foldl Event.after fun _ => none

/-- The identifiers that were given out, in order. -/
def handedOut (events : List Event) : List TimerId :=
  events.filterMap fun
    | .armed id _ => some id
    | _ => none

variable {t t' : TimerTable} {id : TimerId} {timer : Timer} {capacity now : Nat} {owner : SlotId}

/-! ### What is armed since when -/

/-- Whoever expired at this time has its next deadline, once or more often. -/
lemma afterExpiries_apply (timers : TimerId → Option Timer) (expiries : List Expiry)
    (id : TimerId) :
    Event.afterExpiries now timers expiries id =
      if ∃ x ∈ expiries, x.id = id then (timers id).bind (afterFire · now) else timers id := by
  -- a timer fired twice at one instant is as after the first time, so repetition does no harm
  have hagain : ∀ timer, (afterFire timer now).bind (afterFire · now) = afterFire timer now := by
    intro timer
    cases hkind : timer.kind <;> simp [afterFire, hkind]
  induction expiries generalizing timers with
  | nil => simp [Event.afterExpiries]
  | cons x expiries ih =>
    rw [Event.afterExpiries, List.foldl_cons, ← Event.afterExpiries, ih]
    by_cases hx : x.id = id
    · have hsome : ∃ y ∈ x :: expiries, y.id = id := ⟨x, List.mem_cons_self, hx⟩
      rw [if_pos hsome, hx, Function.update_self, Option.bind_assoc]
      simp only [hagain, ite_self]
    · rw [Function.update_of_ne (Ne.symm hx)]
      simp [hx]

/-- A timer is armed by an event, or it was before and the event did not end it. -/
lemma Event.after_eq_some {event : Event} {timers : TimerId → Option Timer}
    (h : event.after timers id = some timer) :
    event = .armed id timer ∨ ∃ timer', timers id = some timer' ∧ ¬event.Ends id timer' ∧
      timer = { timer' with deadline := timer.deadline } := by
  cases event with
  | armed id' timer' =>
    rw [Event.after, Function.update_apply] at h
    split_ifs at h with hid
    · cases h
      exact .inl (hid ▸ rfl)
    · exact .inr ⟨timer, h, not_false, rfl⟩
  | refused e => exact .inr ⟨timer, h, not_false, rfl⟩
  | cancelled id' found =>
    rw [Event.after, Function.update_apply] at h
    split_ifs at h with hid
    exact .inr ⟨timer, h, Ne.symm hid, rfl⟩
  | fired now expiries =>
    rw [Event.after, afterExpiries_apply] at h
    split_ifs at h with hfired
    · obtain ⟨timer', hget, hafter⟩ := Option.bind_eq_some_iff.mp h
      cases hkind : timer'.kind with
      -- a one-shot timer is gone once fired, which leaves only the periodic one
      | oneShot => simp [afterFire, hkind] at hafter
      | periodic =>
        simp only [afterFire, hkind, Option.some.injEq] at hafter
        refine .inr ⟨timer', hget, fun hends => ?_, ?_⟩
        · exact absurd hends.1 (by simp [hkind])
        · rw [← hafter, hkind]
    · exact .inr ⟨timer, h, fun hends => hfired hends.2, rfl⟩
  | dropped owner count =>
    obtain ⟨hget, howner⟩ := Option.filter_eq_some_iff.mp h
    have hends : timer.owner ≠ owner := of_decide_eq_true howner
    exact .inr ⟨timer, hget, hends, rfl⟩

lemma armedBy_append (events : List Event) (event : Event) :
    armedBy (events ++ [event]) = event.after (armedBy events) := by
  rw [armedBy, List.foldl_append]
  rfl

lemma handedOut_append (events events' : List Event) :
    handedOut (events ++ events') = handedOut events ++ handedOut events' := List.filterMap_append

/-- The identifiers of the armed timers. -/
def ids (t : TimerTable) : Set TimerId := {id | t.isArmed id}

lemma mem_ids : id ∈ t.ids ↔ ∃ timer, t.get? id = some timer := Option.isSome_iff_exists

lemma finite_ids (t : TimerTable) : t.ids.Finite := by
  refine ((t.toList.map Prod.fst).finite_toSet).subset fun id hid => ?_
  obtain ⟨timer, hget⟩ := mem_ids.mp hid
  exact List.mem_map.mpr ⟨(id, timer), mem_toList.mpr hget, rfl⟩

/-- The books of a table: every entry is armed or free, and none is lost. -/
structure Counted (capacity : Nat) (t : TimerTable) : Prop where
  wellFormed : t.WellFormed
  capacity_eq : t.capacity = capacity
  armed : t.armed = t.ids.ncard
  size : t.entries.size = t.armed + t.free.length
  size_le : t.entries.size ≤ capacity

/-- The entry of a timer that is armed held none before. -/
lemma get?_of_add {kind : Timer.Kind} {period token : Nat} (h : t.WellFormed)
    (hadd : t.add kind period owner token now = .ok (id, t')) : t.get? id = none := by
  obtain ⟨i, t₁, hclaim, rfl, _⟩ := add_cases hadd
  rcases claim_cases hclaim with ⟨free, hfree, rfl⟩ | ⟨_, _, hroom, rfl, rfl⟩
  · obtain ⟨e, he, hnone⟩ := h.free_unarmed i (hfree ▸ List.mem_cons_self)
    simp only [get?, he, hnone, ite_self]
  · simp only [get?, entryAt?_size hroom]

lemma Counted.add {kind : Timer.Kind} {period token : Nat} (h : t.Counted capacity)
    (hadd : t.add kind period owner token now = .ok (id, t')) : t'.Counted capacity := by
  have harmed := armed_add h.wellFormed hadd
  have hids : t'.ids = insert id t.ids := by
    ext id'
    rw [Set.mem_insert_iff, mem_ids, mem_ids, harmed.get?]
    split_ifs with hid
    · simp [hid]
    · simp [hid]
  have hunarmed : id ∉ t.ids := by
    rw [mem_ids, get?_of_add h.wellFormed hadd]
    simp
  have hcount : t'.ids.ncard = t.armed + 1 := by
    rw [hids, Set.ncard_insert_of_notMem hunarmed (finite_ids t), h.armed]
  have hsize := h.size
  have hle := h.size_le
  have hcapacity := h.capacity_eq
  obtain ⟨i, t₁, hclaim, _, rfl⟩ := add_cases hadd
  -- the claimed entry came from the free list or was appended
  rcases claim_cases hclaim with ⟨free, hfree, rfl⟩ | ⟨hfree, hroom, _, rfl, rfl⟩
  · rw [hfree, List.length_cons] at hsize
    refine ⟨harmed.wellFormed, hcapacity, hcount.symm, ?_, ?_⟩
    · simp only [modify, Array.size_modify]
      omega
    · simp only [modify, Array.size_modify]
      omega
  · rw [hfree, List.length_nil] at hsize
    refine ⟨harmed.wellFormed, hcapacity, hcount.symm, ?_, ?_⟩
    · simp only [modify, grow, Array.size_modify, Array.size_push, hfree, List.length_nil]
      omega
    · simp only [modify, grow, Array.size_modify, Array.size_push]
      omega

lemma Counted.release (h : t.Counted capacity) (hget : t.get? id = some timer) :
    (t.release id.entry).Counted capacity := by
  obtain ⟨e, he, _, htimer⟩ := get?_eq_some.mp hget
  have hmem : id ∈ t.ids := mem_ids.mpr ⟨timer, hget⟩
  have hids : (t.release id.entry).ids = t.ids \ {id} := by
    ext id'
    rw [Set.mem_sdiff_singleton, mem_ids, mem_ids, get?_release_of_armed hget]
    split_ifs with hid
    · simp [hid]
    · simp [hid]
  have hpos : 0 < t.ids.ncard := (Set.ncard_pos (finite_ids t)).mpr ⟨id, hmem⟩
  have harmed := h.armed
  have hsize := h.size
  refine ⟨h.wellFormed.release he (by simp [htimer]), h.capacity_eq, ?_, ?_, ?_⟩
  · rw [hids, Set.ncard_sdiff_singleton_of_mem hmem, ← harmed]
    rfl
  · simp only [TimerTable.release, modify, Array.size_modify, List.length_cons]
    omega
  · simp only [TimerTable.release, modify, Array.size_modify]
    exact h.size_le

lemma Counted.cancel (h : t.Counted capacity) (id : TimerId) : (t.cancel id).2.Counted capacity := by
  cases hget : t.get? id with
  | none =>
    rw [TimerTable.cancel, isArmed, hget]
    exact h
  | some timer =>
    rw [TimerTable.cancel, isArmed, hget]
    exact h.release hget

lemma Counted.cancelOwner (h : t.Counted capacity) (owner : SlotId) :
    (t.cancelOwner owner).2.Counted capacity := by
  have hdistinct := (pairwise_toList t).filter fun p => p.2.owner = owner
  have harmed : ∀ p ∈ t.toList.filter (fun p => p.2.owner = owner), t.get? p.1 = some p.2 :=
    fun p hp => mem_toList.mp (List.mem_filter.mp hp).1
  simp only [TimerTable.cancelOwner]
  generalize t.toList.filter (fun p => p.2.owner = owner) = owned at hdistinct harmed
  induction owned generalizing t with
  | nil => exact h
  | cons p owned ih =>
    obtain ⟨hp, hdistinct⟩ := List.pairwise_cons.mp hdistinct
    obtain ⟨hfirst, harmed⟩ := List.forall_mem_cons.mp harmed
    refine ih (h.release hfirst) hdistinct fun q hq => ?_
    rw [get?_release, if_neg (hp q hq).symm]
    exact harmed q hq

lemma Counted.fire {expiry : Expiry} (h : t.Counted capacity)
    (hfire : t.fire id now = some (expiry, t')) : t'.Counted capacity := by
  have hthinned := thinned_fire h.wellFormed hfire
  obtain ⟨timer, hget, _, _, hafter⟩ := get?_fire hfire
  simp only [TimerTable.fire, hget] at hfire
  split_ifs at hfire
  split at hfire <;> rename_i hkind <;> cases hfire
  · -- A timer that goes on keeps its entry.
    refine ⟨hthinned.wellFormed, h.capacity_eq, h.armed.trans (congrArg _ ?_), ?_, ?_⟩
    · ext id'
      rw [mem_ids, mem_ids, hafter]
      split_ifs with hid
      · simp [hid, hget, afterFire, hkind]
      · rfl
    · simp only [modify, Array.size_modify]
      exact h.size
    · simp only [modify, Array.size_modify]
      exact h.size_le
  · exact h.release hget

/-! ### One event after the other -/

/-- An event tells how a table came from the one before it. -/
structure Tells (capacity : Nat) (t t' : TimerTable) (event : Event) : Prop where
  counted : t'.Counted capacity
  ages : Ages t t'
  get? : t'.get? = event.after t.get?
  issued : ∀ id, t'.Issued id ↔ id ∈ handedOut [event] ∨ t.Issued id
  unarmed : ∀ id ∈ handedOut [event], t.get? id = none
  fresh : t'.Unwrapped → ∀ id ∈ handedOut [event], ¬t.Issued id

/-- Nothing is armed by an event that only takes timers away. -/
private lemma tells_of_thinned {event : Event} (hcounted : t'.Counted capacity) (hages : Ages t t')
    (hthinned : Thinned t t') (hget : t'.get? = event.after t.get?) (hnone : handedOut [event] = []) :
    Tells capacity t t' event := by
  have hfalse : ∀ id, id ∉ handedOut [event] := by simp [hnone]
  refine ⟨hcounted, hages, hget, fun id => ?_, fun id hid => absurd hid (hfalse id),
    fun _ id hid => absurd hid (hfalse id)⟩
  rw [hthinned.issued, or_iff_right (hfalse id)]

/-- What fires in a row is told by what expired. -/
private lemma tells_fireAll (h : t.Counted capacity) (now : Nat) (ids : List TimerId) :
    Tells capacity t (t.fireAll now ids).2 (.fired now (t.fireAll now ids).1) := by
  -- the four facts that survive each step; what `Tells` adds follows from them at the end
  suffices hall : (t.fireAll now ids).2.Counted capacity ∧ Ages t (t.fireAll now ids).2 ∧
      Thinned t (t.fireAll now ids).2 ∧
      (t.fireAll now ids).2.get? = Event.afterExpiries now t.get? (t.fireAll now ids).1 from
    tells_of_thinned hall.1 hall.2.1 hall.2.2.1 hall.2.2.2 rfl
  induction ids generalizing t with
  | nil => exact ⟨h, .refl t, .refl h.wellFormed, rfl⟩
  | cons id ids ih =>
    cases hfire : t.fire id now with
    | none =>
      simp only [fireAll, hfire]
      exact ih h
    | some result =>
      obtain ⟨expiry, t₁⟩ := result
      have hthinned := thinned_fire h.wellFormed hfire
      obtain ⟨timer, hget, _, rfl, hafter⟩ := get?_fire hfire
      obtain ⟨hcounted, hages, hthinned', hget'⟩ := ih (h.fire hfire)
      simp only [fireAll, hfire]
      refine ⟨hcounted, (ages_fire hfire).trans hages, hthinned.trans hthinned', ?_⟩
      have hfirst : t₁.get? = Function.update t.get? id ((t.get? id).bind (afterFire · now)) := by
        funext id'
        rw [hafter, Function.update_apply, hget]
        rfl
      rw [hget', hfirst]
      rfl

/-- Every operation on a table is told by its event. -/
lemma tells_proceed (h : t.Counted capacity) (a : Action) :
    Tells capacity t (t.proceed a).2 (t.proceed a).1 := by
  cases a with
  | add kind period owner token now =>
    simp only [proceed]
    split
    · rename_i id t' hadd
      have harmed := armed_add h.wellFormed hadd
      refine ⟨h.add hadd, ages_add hadd, ?_, fun id' => ?_, fun id' hid' => ?_,
        fun hwrap id' hid' => ?_⟩
      · funext id'
        rw [harmed.get?]
        exact (Function.update_apply _ _ _ _).symm
      · rw [harmed.issued]
        simp [handedOut]
      · cases List.mem_singleton.mp hid'
        exact get?_of_add h.wellFormed hadd
      · cases List.mem_singleton.mp hid'
        exact harmed.fresh hwrap
    · exact tells_of_thinned h (.refl t) (.refl h.wellFormed) rfl rfl
  | cancel id =>
    refine tells_of_thinned (h.cancel id) (ages_cancel t id) (thinned_cancel h.wellFormed id) ?_ rfl
    funext id'
    rw [proceed, get?_cancel]
    exact (Function.update_apply _ _ _ _).symm
  -- one firing is the batch of one
  | fire id now =>
    have hall := tells_fireAll h now [id]
    simp only [fireAll] at hall
    simp only [proceed]
    split <;> rename_i hfire
    · rw [hfire] at hall
      exact hall
    · rw [hfire] at hall
      exact hall
  | expire now => exact tells_fireAll h now (t.due now)
  | cancelOwner owner =>
    obtain ⟨hthinned, hget⟩ := cancelOwner_spec h.wellFormed owner
    exact tells_of_thinned (h.cancelOwner owner) (ages_cancelOwner t owner) hthinned (funext hget) rfl

/-- What holds of a table and the events from its first request on. -/
structure Follows (capacity : Nat) (events : List Event) (t : TimerTable) : Prop where
  counted : t.Counted capacity
  get? : t.get? = armedBy events
  issued : ∀ id ∈ handedOut events, t.Issued id
  nodup : t.Unwrapped → (handedOut events).Nodup

lemma Follows.proceed {events : List Event} (h : Follows capacity events t) (a : Action) :
    Follows capacity (events ++ [(t.proceed a).1]) (t.proceed a).2 := by
  have htells := tells_proceed h.counted a
  refine ⟨htells.counted, ?_, fun id hid => ?_, fun hwrap => ?_⟩
  · rw [htells.get?, h.get?, armedBy_append]
  · rw [handedOut_append, List.mem_append] at hid
    exact (htells.issued id).mpr (hid.symm.imp_right (h.issued id))
  · rw [handedOut_append]
    refine (h.nodup (hwrap.of_ages htells.ages)).append ?_ fun id hold hnew =>
      htells.fresh hwrap id hnew (h.issued id hold)
    cases (t.proceed a).1 <;> simp [handedOut]

lemma Follows.proceedAll {events : List Event} (h : Follows capacity events t) (as : List Action) :
    Follows capacity (events ++ (t.proceedAll as).1) (t.proceedAll as).2 := by
  induction as generalizing events t with
  | nil =>
    rw [TimerTable.proceedAll, List.append_nil]
    exact h
  | cons a as ih =>
    have hrest := ih (h.proceed a)
    rw [List.append_assoc] at hrest
    exact hrest

/-! ### Numbers that are too small -/

/-- Does a timer that is due repeat past the last instant? -/
def Overruns (timer : Timer) (now : Nat) : Prop :=
  timer.kind = .periodic ∧ timer.deadline ≤ now ∧ lastInstant < now + timer.period

end BoardLink.TimerTable
