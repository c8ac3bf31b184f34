import Mathlib.Tactic.Common
import BoardLink.Driver.Enumerator

/-!
# The board's answers among the calls of the enumerator

Which calls bring the board's table, which one ends the wait for it, and what the table says about a
slot.
-/

namespace BoardLink.Enumerator

/-! ### Calls -/

/-- The table in a packet, if it is a complete answer. -/
def table? (p : Packet) : Option Bytes :=
  if p.header.operation ≠ .write ∧ ¬ p.header.isUnsolicited ∧ p.header.register = tableRegister ∧
      p.header.count.toNat = tableLength ∧ p.readData.length = tableLength then
    some p.readData
  else none

/-- The complete table that a call brings, if it brings one. -/
def answer? : Callback → Option Bytes
  | .packet p => table? p
  | _ => none

/-- Does the call end the wait for the table? -/
def timesOut : Callback → Bool
  | .timer token => token = ackToken
  | _ => false

/-- Did the table come, or was the wait for it over, in one of the calls? -/
def isSettled (calls : List Callback) : Bool :=
  calls.any fun c => (answer? c).isSome || timesOut c

/-- The first table that came, if the wait for it was over before it came. -/
def late? (calls : List Callback) : Option Bytes :=
  if (calls.takeWhile fun c => (answer? c).isNone).any timesOut then calls.findSome? answer? else none

variable {calls : List Callback} {c : Callback} {table : Bytes}

lemma isSettled_concat (calls : List Callback) (c : Callback) :
    isSettled (calls ++ [c]) = (isSettled calls || ((answer? c).isSome || timesOut c)) := by
  rw [isSettled, List.any_append, List.any_cons, List.any_nil, Bool.or_false, isSettled]

lemma isSettled_of_isPrefix {calls' : List Callback} (h : calls <+: calls')
    (hsettled : isSettled calls) : isSettled calls' := by
  obtain ⟨rest, rfl⟩ := h
  rw [isSettled, List.any_append, Bool.or_eq_true]
  exact .inl hsettled

/-- Where the table did not come, only the end of the wait can have settled the matter. -/
lemma isSettled_of_unanswered (h : calls.findSome? answer? = none) :
    isSettled calls = calls.any timesOut := by
  rw [isSettled, Bool.eq_iff_iff, List.any_eq_true, List.any_eq_true]
  refine exists_congr fun c => and_congr_right fun hc => ?_
  rw [List.findSome?_eq_none_iff.mp h c hc]
  rfl

lemma isSettled_of_answered (h : calls.findSome? answer? = some table) : isSettled calls = true := by
  obtain ⟨c, hc, hanswer⟩ := List.exists_of_findSome?_eq_some h
  refine List.any_eq_true.mpr ⟨c, hc, ?_⟩
  rw [hanswer]
  rfl

lemma late?_of_unanswered (h : calls.findSome? answer? = none) : late? calls = none := by
  rw [late?, h, ite_self]

/-- Only the first table counts. -/
lemma late?_concat_of_answered (h : calls.findSome? answer? = some table) (c : Callback) :
    late? (calls ++ [c]) = late? calls := by
  have hbefore : (calls ++ [c]).takeWhile (fun c => (answer? c).isNone) =
      calls.takeWhile fun c => (answer? c).isNone := by
    rw [List.takeWhile_append, if_neg]
    intro hlength
    have hall : calls.takeWhile (fun c => (answer? c).isNone) = calls :=
      (List.takeWhile_prefix _).eq_of_length hlength
    obtain ⟨c', hc', hanswer⟩ := List.exists_of_findSome?_eq_some h
    rw [← hall] at hc'
    have hnone := List.all_eq_true.mp List.all_takeWhile c' hc'
    rw [hanswer] at hnone
    cases hnone
  rw [late?, hbefore, List.findSome?_append, h, Option.some_or, late?, h]

/-- A call that brings no table makes none late. -/
lemma late?_concat_of_unanswered (hc : answer? c = none) (calls : List Callback) :
    late? (calls ++ [c]) = late? calls := by
  cases h : calls.findSome? answer? with
  | some table => exact late?_concat_of_answered h c
  | none =>
    rw [late?_of_unanswered h, late?_of_unanswered]
    rw [List.findSome?_append, h, Option.none_or, List.findSome?_cons, hc]
    rfl

/-- As long as nothing is settled, no table is late. -/
lemma late?_of_not_isSettled (h : isSettled calls = false) : late? calls = none := by
  cases hfind : calls.findSome? answer? with
  | none => exact late?_of_unanswered hfind
  | some table =>
    rw [isSettled_of_answered hfind] at h
    cases h

/-- The first table is late if the wait for it was over. -/
lemma late?_concat_of_answer (h : calls.findSome? answer? = none) (hc : answer? c = some table) :
    late? (calls ++ [c]) = if isSettled calls then some table else none := by
  have hbefore : (calls ++ [c]).takeWhile (fun c => (answer? c).isNone) = calls := by
    rw [List.takeWhile_append_of_pos, List.takeWhile_cons_of_neg, List.append_nil]
    · simp [hc]
    · intro c' hc'
      rw [List.findSome?_eq_none_iff.mp h c' hc']
      rfl
  rw [late?, hbefore, List.findSome?_append, h, Option.none_or, isSettled_of_unanswered h]
  simp only [List.findSome?_cons, hc]

/-! ### What the table says -/

/-- The name that the catalog has for a slot, when the cores with a number are counted from slot
`first` on. -/
def catalogName (first : Nat) (numbers : List UInt16) (slot : Nat) : Option String :=
  if first ≤ slot then
    ((numbers.filter (· ≠ 0))[slot - first]?).bind fun id => (Catalog.byId id).map Peripheral.name
  else none

lemma catalogName_nil (first slot : Nat) : catalogName first [] slot = none := by
  simp [catalogName]

lemma catalogName_of_lt {first slot : Nat} (h : slot < first) (numbers : List UInt16) :
    catalogName first numbers slot = none :=
  if_neg (Nat.not_le_of_lt h)

/-- A core without a number takes no slot. -/
lemma catalogName_zero (first : Nat) (numbers : List UInt16) (slot : Nat) :
    catalogName first (0 :: numbers) slot = catalogName first numbers slot := by
  simp [catalogName]

lemma catalogName_cons {id : UInt16} (hid : id ≠ 0) (first : Nat) (numbers : List UInt16)
    (slot : Nat) :
    catalogName first (id :: numbers) slot =
      if slot = first then (Catalog.byId id).map Peripheral.name
      else catalogName (first + 1) numbers slot := by
  by_cases hslot : slot = first
  · rw [if_pos hslot, hslot]
    simp [catalogName, hid]
  · rw [if_neg hslot, catalogName, catalogName, List.filter_cons_of_pos (by simpa using hid)]
    by_cases hle : first ≤ slot
    · obtain ⟨d, rfl⟩ : ∃ d, slot = first + 1 + d := ⟨slot - (first + 1), by omega⟩
      rw [if_pos hle, if_pos (Nat.le_add_right _ d), Nat.add_sub_cancel_left, Nat.add_assoc,
        Nat.add_sub_cancel_left, Nat.add_comm 1 d, List.getElem?_cons_succ]
    · rw [if_neg hle, if_neg fun h => hle (Nat.le_of_succ_le h)]

end BoardLink.Enumerator
