import BoardLink.Proofs.Engine.Refusal
import BoardLink.Proofs.Host.Tally

/-!
# Where instances stay

An instance stays in its slot until the slot is filled, also when it is called in between and is away
from the slot for that time. After that the slot has the instance that was loaded last, or none if
nobody knew the driver by that name, and whoever was in the slot before is in no slot any more.
-/

namespace BoardLink

/-! ### Comings in the journal -/

/-- Is the entry about who is in a slot? -/
def Entry.seats : Entry → Bool
  | .installed .. | .created .. => true
  | _ => false

/-- An entry of two strings put together stands in the one or the other. -/
private lemma append_eq_append_cons {α : Type} {xs ys before after : List α} {x : α}
    (h : xs ++ ys = before ++ x :: after) :
    (∃ mid, xs = before ++ x :: mid ∧ after = mid ++ ys) ∨
      ∃ mid, before = xs ++ mid ∧ ys = mid ++ x :: after := by
  rcases List.append_eq_append_iff.mp h with ⟨mid, rfl, rfl⟩ | ⟨mid, rfl, hmid⟩
  · exact .inr ⟨mid, rfl, rfl⟩
  · cases mid with
    | nil => exact .inr ⟨[], by simp, by simpa using hmid.symm⟩
    | cons x' mid =>
      simp only [List.cons_append, List.cons.injEq] at hmid
      obtain ⟨rfl, rfl⟩ := hmid
      exact .inl ⟨mid, rfl, rfl⟩

namespace Journal

/-- The numbers of the instances that came into a slot, in order. -/
def comers (j : Journal) (slot : SlotId) : List Nat :=
  j.filterMap fun
    | .created n slot' => if slot' = slot then some n else none
    | _ => none

/-- The numbers of all instances that came into slots, in order. -/
def serials (j : Journal) : List Nat :=
  j.filterMap fun
    | .created n _ => some n
    | _ => none

variable {j j' entries : Journal} {slot slot' : SlotId} {n : Nat}

lemma comers_append (j j' : Journal) (slot : SlotId) :
    comers (j ++ j') slot = j.comers slot ++ j'.comers slot := List.filterMap_append

lemma serials_append (j j' : Journal) : serials (j ++ j') = j.serials ++ j'.serials :=
  List.filterMap_append

lemma mem_comers : n ∈ j.comers slot ↔ .created n slot ∈ j := by
  simp only [comers, List.mem_filterMap]
  constructor
  · rintro ⟨e, he, heq⟩
    cases e with
    | created n' slot' =>
      simp only [Option.ite_none_right_eq_some, Option.some.injEq] at heq
      obtain ⟨rfl, rfl⟩ := heq
      exact he
    | _ => cases heq
  · intro he
    exact ⟨_, he, if_pos rfl⟩

lemma mem_serials (he : .created n slot ∈ j) : n ∈ j.serials :=
  List.mem_filterMap.mpr ⟨_, he, rfl⟩

lemma fills_cons (e : Entry) (j : Journal) (slot : SlotId) :
    fills (e :: j) slot = j.fills slot + if e.fills slot then 1 else 0 := List.countP_cons

lemma fills_ne_zero {dropped : List SessionId} (hmem : .installed slot dropped ∈ j) :
    j.fills slot ≠ 0 := by
  intro hzero
  have hfills : Entry.fills slot (.installed slot dropped) = true := decide_eq_true rfl
  exact List.countP_eq_zero.mp hzero _ hmem hfills

/-- The entry about an instance that came into a slot, if one did. -/
def coming (slot : SlotId) (serial : Option Nat) : Journal :=
  (serial.map fun n => .created n slot).toList

lemma fills_coming (slot : SlotId) (serial : Option Nat) (slot' : SlotId) :
    fills (coming slot serial) slot' = 0 := by
  cases serial with
  | none => rfl
  | some n => rfl

lemma serials_coming (slot : SlotId) (serial : Option Nat) :
    serials (coming slot serial) = serial.toList := by
  cases serial with
  | none => rfl
  | some n => rfl

lemma comers_coming (serial : Option Nat) (slot' : SlotId) :
    comers (coming slot serial) slot' = if slot = slot' then serial.toList else [] := by
  cases serial with
  | none => simp [comers, coming]
  | some n =>
    simp only [comers, coming, Option.map_some, Option.toList_some, List.filterMap_cons,
      List.filterMap_nil]
    split_ifs
    · rfl
    · rfl

section Quiet

variable (h : ∀ e ∈ entries, e.seats = false)

include h

lemma fills_of_quiet (slot : SlotId) : entries.fills slot = 0 := by
  refine List.countP_eq_zero.mpr fun e he => ?_
  have hquiet := h e he
  cases e with
  | installed => cases hquiet
  | _ => exact nofun

lemma serials_of_quiet : entries.serials = [] := by
  refine List.filterMap_eq_nil_iff.mpr fun e he => ?_
  have hquiet := h e he
  cases e with
  | created => cases hquiet
  | _ => rfl

lemma comers_of_quiet (slot : SlotId) : entries.comers slot = [] := by
  refine List.filterMap_eq_nil_iff.mpr fun e he => ?_
  have hquiet := h e he
  cases e with
  | created => cases hquiet
  | _ => rfl

end Quiet

/-- A slot that was filled was filled a last time. -/
lemma exists_last_fill (h : j.fills slot ≠ 0) :
    ∃ before dropped after, j = before ++ .installed slot dropped :: after ∧
      Journal.fills after slot = 0 := by
  induction j with
  | nil => exact absurd rfl h
  | cons e j ih =>
    by_cases hlater : Journal.fills j slot = 0
    · rw [fills_cons, hlater, Nat.zero_add] at h
      cases e with
      | installed slot' dropped =>
        have hslot : slot' = slot := by simpa [Entry.fills] using h
        exact ⟨[], dropped, j, by rw [hslot, List.nil_append], hlater⟩
      | _ => exact absurd rfl h
    · obtain ⟨before, dropped, after, rfl, hafter⟩ := ih hlater
      exact ⟨e :: before, dropped, after, rfl, hafter⟩

/-- Where each instance comes later than those with lower numbers, it comes once. -/
lemma eq_of_created {before before' after after' : Journal} (hsorted : j.serials.Pairwise (· < ·))
    (h : j = before ++ .created n slot :: after) (h' : j = before' ++ .created n slot' :: after') :
    slot = slot' ∧ after = after' := by
  -- what comes after an entry about an instance is not about the same instance
  have hlater {xs ys : Journal} (slot₁ slot₂ : SlotId) (hx : .created n slot₁ ∈ xs)
      (hy : .created n slot₂ ∈ ys) : ¬ (serials (xs ++ ys)).Pairwise (· < ·) := by
    intro hsorted
    rw [serials_append] at hsorted
    have hlt := (List.pairwise_append.mp hsorted).2.2 n (mem_serials hx) n (mem_serials hy)
    exact Nat.lt_irrefl n hlt
  subst h
  rcases append_eq_append_cons h' with ⟨mid, rfl, rfl⟩ | ⟨mid, rfl, hmid⟩
  · exact absurd hsorted (hlater slot' slot (by simp) List.mem_cons_self)
  · cases mid with
    | nil =>
      cases hmid
      exact ⟨rfl, rfl⟩
    | cons e mid =>
      obtain ⟨-, rfl⟩ := List.cons.inj hmid
      rw [List.append_cons] at hsorted
      exact absurd hsorted (hlater slot slot' (by simp) (by simp))

end Journal

namespace Host

variable {L P : Type} {h h' h'' : Host L P} {slot slot' : SlotId} {n : Nat}
  {entries entries' : Journal}

/-! ### Seats -/

/-- The name under which the driver of a slot was asked for, and the number of the instance in the
slot, if the slot is in use. -/
def seat (h : Host L P) (slot : SlotId) : Option (String × Option Nat) :=
  (h.registry.occupant? slot).map fun (name, held) => (name, held.map Instance.serial)

lemma seat_eq_of_sameOccupants (hsame : h.registry.SameOccupants h'.registry) (slot : SlotId) :
    h'.seat slot = h.seat slot := by
  rw [seat, hsame, seat]

/-- A slot in use that nobody is in. -/
lemma occupant?_of_seat {name : String} (hseat : h.seat slot = some (name, none)) :
    h.registry.occupant? slot = some (name, none) := by
  obtain ⟨⟨name', held⟩, hoccupant, heq⟩ := Option.map_eq_some_iff.mp hseat
  obtain ⟨rfl, hnobody⟩ := Prod.mk.inj heq
  rw [Option.map_eq_none_iff.mp hnobody] at hoccupant
  exact hoccupant

lemma holds_iff_seat : h.Holds slot n ↔ ∃ name, h.seat slot = some (name, some n) := by
  constructor
  · rintro ⟨s, inst, hs, hinst, rfl⟩
    exact ⟨s.driverName, by rw [seat, Registry.occupant?_of_slot? hs, hinst]; rfl⟩
  · rintro ⟨name, hseat⟩
    obtain ⟨⟨name', held⟩, hoccupant, heq⟩ := Option.map_eq_some_iff.mp hseat
    obtain ⟨s, hs, rfl, rfl⟩ := Registry.exists_of_occupant? hoccupant
    obtain ⟨_, hserial⟩ := Prod.mk.inj heq
    obtain ⟨inst, hinst, hserial⟩ := Option.map_eq_some_iff.mp hserial
    exact ⟨s, inst, hs, hinst, hserial⟩

variable [Driver P] {factory : Factory P} {own : SlotId → Prop}

/-- Who is in which slot after these entries: in a slot that was not filled whoever was there before,
and in a slot that was filled whoever came into it since, if anybody. Somebody came just when the
factory knows the name, but for slots that the engine fills on its own. -/
structure Seats (factory : Factory P) (own : SlotId → Prop) (h h' : Host L P) (entries : Journal) :
    Prop where
  journal : h'.journal = h.journal ++ entries
  nextSerial : h.nextSerial ≤ h'.nextSerial
  hires : Registry.Hires (fun inst => inst.driver.Installs) h.registry h'.registry
  range : ∀ n ∈ entries.serials, h.nextSerial ≤ n ∧ n < h'.nextSerial
  sorted : entries.serials.Pairwise (· < ·)
  stays : ∀ slot, entries.fills slot = 0 → h'.seat slot = h.seat slot ∧ entries.comers slot = []
  comes : ∀ slot before dropped after, entries = before ++ .installed slot dropped :: after →
    Journal.fills after slot = 0 →
      ∃ name held, h'.seat slot = some (name, held) ∧ held.toList = Journal.comers after slot
  known : ∀ slot name held, entries.fills slot ≠ 0 → ¬ own slot →
    h'.seat slot = some (name, held) → (held.isSome ↔ (factory.create name).isSome)

namespace Seats

/-- Nobody comes or goes. -/
lemma quiet (hsame : h.registry.SameOccupants h'.registry) (hserial : h.nextSerial ≤ h'.nextSerial)
    (hjournal : h'.journal = h.journal ++ entries) (hquiet : ∀ e ∈ entries, e.seats = false) :
    Seats factory own h h' entries := by
  have hfills := Journal.fills_of_quiet hquiet
  refine ⟨hjournal, hserial, hsame.hires, ?_, ?_, ?_, ?_, ?_⟩
  · rw [Journal.serials_of_quiet hquiet]
    exact nofun
  · rw [Journal.serials_of_quiet hquiet]
    exact .nil
  · exact fun slot _ => ⟨seat_eq_of_sameOccupants hsame slot, Journal.comers_of_quiet hquiet slot⟩
  · rintro slot before dropped after rfl _
    cases hquiet (.installed slot dropped) (by simp)
  · intro slot name held hfilled
    exact absurd (hfills slot) hfilled

lemma refl (h : Host L P) : Seats factory own h h [] :=
  quiet (.refl _) (Nat.le_refl _) (List.append_nil _).symm nofun

lemma mono {own' : SlotId → Prop} (hs : Seats factory own h h' entries)
    (hown : ∀ slot, own slot → own' slot) : Seats factory own' h h' entries where
  __ := hs
  known slot name held hfilled hnot := hs.known slot name held hfilled fun h => hnot (hown slot h)

lemma trans (hs : Seats factory own h h' entries) (hs' : Seats factory own h' h'' entries') :
    Seats factory own h h'' (entries ++ entries') := by
  refine ⟨?_, Nat.le_trans hs.nextSerial hs'.nextSerial, hs.hires.trans hs'.hires, ?_, ?_, ?_, ?_, ?_⟩
  · rw [hs'.journal, hs.journal, List.append_assoc]
  · intro n hn
    rw [Journal.serials_append, List.mem_append] at hn
    rcases hn with hn | hn
    · obtain ⟨hle, hlt⟩ := hs.range n hn
      exact ⟨hle, Nat.lt_of_lt_of_le hlt hs'.nextSerial⟩
    · obtain ⟨hle, hlt⟩ := hs'.range n hn
      exact ⟨Nat.le_trans hs.nextSerial hle, hlt⟩
  · rw [Journal.serials_append]
    refine List.pairwise_append.mpr ⟨hs.sorted, hs'.sorted, fun n hn n' hn' => ?_⟩
    exact Nat.lt_of_lt_of_le (hs.range n hn).2 (hs'.range n' hn').1
  · intro slot hfills
    -- a slot the whole leaves alone is left alone by both halves
    rw [Journal.fills_append, Nat.add_eq_zero_iff] at hfills
    obtain ⟨hseat, hnobody⟩ := hs.stays slot hfills.1
    obtain ⟨hseat', hnobody'⟩ := hs'.stays slot hfills.2
    exact ⟨hseat'.trans hseat, by rw [Journal.comers_append, hnobody, hnobody', List.append_nil]⟩
  · intro slot before dropped after heq hafter
    -- the last fill of the slot falls either into the first half or into the second
    rcases append_eq_append_cons heq with ⟨mid, rfl, rfl⟩ | ⟨mid, rfl, rfl⟩
    · rw [Journal.fills_append, Nat.add_eq_zero_iff] at hafter
      obtain ⟨name, held, hseat, hheld⟩ := hs.comes slot before dropped mid rfl hafter.1
      obtain ⟨hseat', hnobody⟩ := hs'.stays slot hafter.2
      refine ⟨name, held, hseat'.trans hseat, ?_⟩
      rw [Journal.comers_append, hheld, hnobody, List.append_nil]
    · exact hs'.comes slot mid dropped after rfl hafter
  · intro slot name held hfills hnot hseat
    -- the later of the two halves that filled the slot decides who is known there
    by_cases hlater : entries'.fills slot = 0
    · rw [Journal.fills_append, hlater, Nat.add_zero] at hfills
      exact hs.known slot name held hfills hnot ((hs'.stays slot hlater).1.symm.trans hseat)
    · exact hs'.known slot name held hlater hnot hseat

lemma minor (hminor : Minor h h') : ∃ entries, Seats factory own h h' entries := by
  obtain ⟨entries, hjournal, hentries⟩ := hminor.journal
  refine ⟨entries, quiet hminor.occupants hminor.nextSerial hjournal fun e he => ?_⟩
  have hminor := hentries e he
  cases e <;> first | rfl | cases hminor

lemma record {e : Entry} (h : Host L P) (timers : TimerTable) (he : e.seats = false) :
    Seats factory own h ({ h with timers }.record e) [e] := by
  refine quiet (.refl _) (Nat.le_refl _) rfl ?_
  intro e' he'
  rwa [List.mem_singleton.mp he']

lemma arms {now : Nat} (harms : Arms now slot h h') : ∃ entries, Seats factory own h h' entries := by
  obtain ⟨_, _, _, id, timers, _, hminor⟩ := harms
  have hrecord : Seats factory own h ({ h with timers }.record (.armed id slot)) [.armed id slot] :=
    record h timers rfl
  obtain ⟨entries, hs⟩ := minor hminor
  exact ⟨_, hrecord.trans hs⟩

/-- A fresh occupant comes into a slot, with a new instance or with none. -/
lemma fill {name : String} {dropped : List SessionId} {held : Option (Instance P)}
    (hoccupant : ∀ id, h'.registry.occupant? id =
      if id = slot then some (name, held) else h.registry.occupant? id)
    (hjournal : h'.journal = h.journal ++
      .installed slot dropped :: Journal.coming slot (held.map Instance.serial))
    (hserial : h.nextSerial ≤ h'.nextSerial)
    (hnew : ∀ inst, held = some inst → h.nextSerial ≤ inst.serial ∧ inst.serial < h'.nextSerial ∧
      inst.driver.Installs)
    (hknown : ¬ own slot → (held.isSome ↔ (factory.create name).isSome)) :
    Seats factory own h h'
      (.installed slot dropped :: Journal.coming slot (held.map Instance.serial)) := by
  have hseat (id : SlotId) : h'.seat id =
      if id = slot then some (name, held.map Instance.serial) else h.seat id := by
    rw [seat, hoccupant]
    split_ifs
    · rfl
    · rfl
  have hserials : Journal.serials (.installed slot dropped ::
      Journal.coming slot (held.map Instance.serial)) = (held.map Instance.serial).toList :=
    Journal.serials_coming slot _
  -- the entries fill `slot` once and no other
  have hfills (id : SlotId) : Journal.fills (.installed slot dropped ::
      Journal.coming slot (held.map Instance.serial)) id = 0 ↔ id ≠ slot := by
    rw [Journal.fills_cons, Journal.fills_coming, Entry.fills]
    simp [eq_comm]
  refine ⟨hjournal, hserial, fun id s inst hs hinst => ?_, fun n hn => ?_, ?_, fun id hid => ?_,
    fun id before dropped' after heq _ => ?_, fun id name' held' hid hnot hseat' => ?_⟩
  · have hoccupant := (Registry.occupant?_of_slot? hs).symm.trans (hoccupant id)
    rw [hinst] at hoccupant
    split_ifs at hoccupant
    · cases hoccupant
      exact .inr (hnew inst rfl).2.2
    · obtain ⟨s', hs', _, hinst'⟩ := Registry.exists_of_occupant? hoccupant.symm
      exact .inl ⟨s', hs', hinst'⟩
  · rw [hserials, Option.mem_toList, Option.map_eq_some_iff] at hn
    obtain ⟨inst, hinst, rfl⟩ := hn
    obtain ⟨hle, hlt, _⟩ := hnew inst hinst
    exact ⟨hle, hlt⟩
  · rw [hserials]
    cases held with
    | none => exact .nil
    | some inst => exact List.pairwise_singleton _ _
  · have hid := (hfills id).mp hid
    rw [hseat, if_neg hid]
    exact ⟨rfl, (Journal.comers_coming _ id).trans (if_neg hid.symm)⟩
  -- the one installation among the entries is their head; what comes after it installs nobody
  · cases before with
    | nil =>
      cases heq
      have hcomers := (Journal.comers_coming (held.map Instance.serial) slot).trans (if_pos rfl)
      exact ⟨name, _, (hseat slot).trans (if_pos rfl), hcomers.symm⟩
    | cons e before =>
      obtain ⟨_, heq⟩ := List.cons.inj heq
      have hmem : .installed id dropped' ∈ Journal.coming slot (held.map Instance.serial) := by
        rw [heq]
        exact List.mem_append_right before List.mem_cons_self
      exact absurd (Journal.fills_coming slot _ id) (Journal.fills_ne_zero hmem)
  · have hid : id = slot := not_not.mp (mt (hfills id).mpr hid)
    subst hid
    rw [hseat, if_pos rfl] at hseat'
    cases hseat'
    rw [Option.isSome_map]
    exact hknown hnot

end Seats

/-! ### Who is replaced -/

/-- The instance was in a slot that was filled after that, or it came into a slot that was filled
later on. -/
def Replaces (h : Host L P) (entries : Journal) (n : Nat) : Prop :=
  ∃ slot, h.Holds slot n ∧ entries.fills slot ≠ 0 ∨
    ∃ before after, entries = before ++ .created n slot :: after ∧ Journal.fills after slot ≠ 0

/-- An instance that is in a slot after these entries was there before, or came after the slot was
filled for the last time. -/
lemma Seats.holds (hs : Seats factory own h h' entries) (hn : h'.Holds slot n) :
    h.Holds slot n ∧ entries.fills slot = 0 ∨
      ∃ before after, entries = before ++ .created n slot :: after ∧
        Journal.fills after slot = 0 := by
  obtain ⟨name, hseat⟩ := holds_iff_seat.mp hn
  by_cases hfills : entries.fills slot = 0
  · have hseat := (hs.stays slot hfills).1.symm.trans hseat
    exact .inl ⟨holds_iff_seat.mpr ⟨name, hseat⟩, hfills⟩
  · obtain ⟨before, dropped, after, rfl, hafter⟩ := Journal.exists_last_fill hfills
    obtain ⟨name', held, hseat', hheld⟩ := hs.comes slot before dropped after rfl hafter
    cases hseat.symm.trans hseat'
    have hmem : .created n slot ∈ after := by
      rw [← Journal.mem_comers, ← hheld]
      exact List.mem_singleton_self n
    obtain ⟨mid, rest, rfl⟩ := List.append_of_mem hmem
    refine .inr ⟨before ++ .installed slot dropped :: mid, rest, by simp, ?_⟩
    rw [List.append_cons, Journal.fills_append, Nat.add_eq_zero_iff] at hafter
    exact hafter.2

/-- An instance that was replaced is in no slot. -/
lemma Seats.gone (hs : Seats factory own h h' entries) (hseated : h.Seated)
    (hn : h.Replaces entries n) (slot : SlotId) : ¬ h'.Holds slot n := by
  intro hheld
  -- an instance that came is not one that was there before
  have hnew {slot slot' : SlotId} {before after : Journal}
      (heq : entries = before ++ .created n slot :: after) : ¬ h.Holds slot' n := by
    intro hold
    have hmem : .created n slot ∈ entries := by
      rw [heq]
      exact List.mem_append_right before List.mem_cons_self
    have hle := (hs.range n (Journal.mem_serials hmem)).1
    exact absurd (hseated.lt slot' n hold) (Nat.not_lt_of_le hle)
  obtain ⟨slot', ⟨hold, hfilled⟩ | ⟨before, after, heq, hfilled⟩⟩ := hn
  · rcases hs.holds hheld with ⟨hstayed, hfills⟩ | ⟨_, _, heq, _⟩
    · cases hseated.unique slot slot' n hstayed hold
      exact hfilled hfills
    · exact hnew heq hold
  · rcases hs.holds hheld with ⟨hstayed, _⟩ | ⟨before', after', heq', hfills⟩
    · exact hnew heq hstayed
    · obtain ⟨rfl, rfl⟩ := Journal.eq_of_created hs.sorted heq heq'
      exact hfilled hfills

end Host

end BoardLink
