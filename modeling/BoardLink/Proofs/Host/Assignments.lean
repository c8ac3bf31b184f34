import BoardLink.Proofs.Driver.Answers
import BoardLink.Proofs.Host.Loading
import BoardLink.Proofs.Host.Step

/-!
# Where assignments stand

As the calls of the enumerator go on, the slots have the names that were assigned to them, unless a
table that came late put other names there.
-/

namespace BoardLink

namespace Enumerator

/-- What an enumerator with these assignments has left to do after some calls. -/
structure Stands (o : Overloads) (calls : List Callback) (e : Enumerator) : Prop where
  overloads : e.overloads = if isSettled calls then [] else o
  enumerated : e.enumerated = (calls.findSome? answer?).isSome

/-- The name after some calls of a slot to which a name was assigned. -/
def nameAfter (calls : List Callback) (slot : Nat) (name : String) : String :=
  ((late? calls).bind fun table => catalogName 1 table.words slot).getD name

/-- An assignment holds just when no late table has another name for the slot. -/
lemma nameAfter_eq_iff (calls : List Callback) (slot : Nat) (name : String) :
    nameAfter calls slot name = name ↔ ∀ table, late? calls = some table →
      ∀ other, catalogName 1 table.words slot = some other → other = name := by
  rw [nameAfter]
  cases late? calls with
  | none => simp
  | some table =>
    rw [Option.bind_some]
    cases hother : catalogName 1 table.words slot with
    | none => simp [hother]
    | some other => simp [hother]

end Enumerator

namespace Host

open Enumerator

variable {L P : Type} [Link L] {setting : Setting P} {slot : SlotId} {h : Host L P}
  {o : Overloads} {calls : List Callback} {e : Enumerator} {n : Nat}

/-- Every slot has the name that was assigned to it or came late. -/
def Named (o : Overloads) (calls : List Callback) (h : Host L P) : Prop :=
  isSettled calls → ∀ k < h.registry.maxSlots, ∀ name, o.get? k = some name →
    h.registry.driverName? (.ofNat k) = some (nameAfter calls k name)

/-! ### Calls of the enumerator -/

/-- A call that fills no slot changes nothing about the assignments. -/
private lemma ends_respond_quiet {c : Callback} (hstands : e.Stands o calls)
    (hnamed : Named o calls h) (hanswer : answer? c = none ∨ e.enumerated)
    (htimeout : timesOut c = false) :
    (ends setting slot (e.respond c) h).1.2.Stands o (calls ++ [c]) ∧
      Named o (calls ++ [c]) (ends setting slot (e.respond c) h).2 := by
  have hknows : e.Knows {id | e.ackTimer = some id} := fun id hid => hid
  obtain ⟨⟨hpool, hsame⟩, _, hwaits⟩ := ends_sameNames setting slot
    (fun hop => hop.2) (respond_asks hknows hanswer htimeout) h
  -- the callback leaves the three readings of the calls as they were: after an answer nothing changes them,
  have hcalls : isSettled (calls ++ [c]) = isSettled calls ∧
      ((calls ++ [c]).findSome? answer?).isSome = (calls.findSome? answer?).isSome ∧
      late? (calls ++ [c]) = late? calls := by
    -- and before one this callback is none itself
    cases hfind : calls.findSome? answer? with
    | some table =>
      refine ⟨?_, ?_, late?_concat_of_answered hfind c⟩
      · rw [isSettled_concat, isSettled_of_answered hfind, Bool.true_or]
      · rw [List.findSome?_append, hfind]
        rfl
    | none =>
      have hnone : answer? c = none := by
        apply hanswer.resolve_right
        rw [hstands.enumerated, hfind]
        exact Bool.false_ne_true
      refine ⟨?_, ?_, late?_concat_of_unanswered hnone calls⟩
      · rw [isSettled_concat, hnone, htimeout, Option.isSome_none, Bool.or_self, Bool.or_false]
      · rw [List.findSome?_append, hfind, Option.none_or, List.findSome?_cons, hnone]
        rfl
  obtain ⟨hsettled, hanswered, hlate⟩ := hcalls
  refine ⟨⟨?_, ?_⟩, fun hsettled' k hk name hname => ?_⟩
  · rw [hwaits.overloads, hstands.overloads, hsettled]
  · rw [hwaits.enumerated, hstands.enumerated, hanswered]
  · rw [hsame, nameAfter, hlate]
    exact hnamed (hsettled ▸ hsettled') k (hpool ▸ hk) name hname

omit [Link L] in
/-- What the enumerator has left for a slot comes before any other name. -/
private lemma or_driverName? {k : Nat} {name : String} (hstands : e.Stands o calls)
    (hnamed : Named o calls h) (hk : k < h.registry.maxSlots) (hname : o.get? k = some name)
    (between : Option String) :
    (e.overloads.get? k).or (between.or (h.registry.driverName? (.ofNat k))) =
      some (if isSettled calls then between.getD (nameAfter calls k name) else name) := by
  rw [hstands.overloads]
  by_cases hsettled : isSettled calls
  · rw [if_pos hsettled, if_pos hsettled, hnamed hsettled k hk name hname]
    cases between <;> rfl
  · rw [if_neg hsettled, if_neg hsettled, hname]
    rfl

private lemma fits_of_stands (hstands : e.Stands o calls) (ho : o.Fits n) : e.overloads.Fits n := by
  rw [hstands.overloads]
  split_ifs
  · exact Overloads.fits_nil n
  · exact ho

omit [Link L] in
/-- Where all that was left for a slot was loaded, its name is the one that it should have. -/
private lemma named_of_loaded {calls' : List Callback} {B : Nat → Option String}
    {h' : Host L P} (hstands : e.Stands o calls) (hnamed : Named o calls h)
    (hpool : h.registry.maxSlots = n) (hpool' : h'.registry.maxSlots = n)
    (hloaded : ∀ k < n, h'.registry.driverName? (.ofNat k) =
      (e.overloads.get? k).or ((B k).or (h.registry.driverName? (.ofNat k))))
    (hafter : ∀ k name, nameAfter calls' k name =
      if isSettled calls then (B k).getD (nameAfter calls k name) else name) :
    Named o calls' h' := by
  intro _ k hk name hname
  rw [hpool'] at hk
  rw [hloaded k hk, or_driverName? hstands hnamed (hpool ▸ hk) hname, hafter]

/-- At the end of the wait all that is left is loaded. -/
private lemma ends_respond_timeout {c : Callback} (hstands : e.Stands o calls)
    (hnamed : Named o calls h) (hpool : h.registry.maxSlots = n) (hn : n ≤ 65536) (ho : o.Fits n)
    (htimeout : timesOut c) :
    (ends setting slot (e.respond c) h).1.2.Stands o (calls ++ [c]) ∧
      Named o (calls ++ [c]) (ends setting slot (e.respond c) h).2 := by
  cases c with
  | timer token =>
    have hnone : answer? (.timer token) = none := rfl
    have htoken : token = ackToken := by simpa [timesOut] using htimeout
    have hsettled : isSettled (calls ++ [.timer token]) = true := by
      rw [isSettled_concat, htimeout, Bool.or_true, Bool.or_true]
    have hfits : e.overloads.Fits n := fits_of_stands hstands ho
    rw [Enumerator.respond, timer, if_pos htoken, ends_bind]
    obtain ⟨hrest, hpool', hloaded⟩ := driverName?_loadRemaining setting slot
      (e := { e with ackTimer := none }) hpool hn hfits
    refine ⟨⟨?_, ?_⟩, ?_⟩
    · rw [hsettled, if_pos rfl]
      exact congrArg Enumerator.overloads hrest
    · rw [List.findSome?_append, List.findSome?_cons, hnone, List.findSome?_nil, Option.or_none]
      exact (congrArg Enumerator.enumerated hrest).trans hstands.enumerated
    -- without a table the catalog names nobody, so the overloads left over decide alone
    · refine named_of_loaded hstands hnamed hpool hpool' hloaded (B := fun _ => none) ?_
      intro k name
      rw [nameAfter, nameAfter, late?_concat_of_unanswered hnone, Option.getD_none]
      by_cases hbefore : isSettled calls
      · rw [if_pos hbefore]
      · rw [if_neg hbefore, late?_of_not_isSettled (Bool.not_eq_true _ ▸ hbefore)]
        rfl
  | _ => cases htimeout

/-- The first table that is complete is put to use. -/
private lemma ends_respond_answer {c : Callback} {table : Bytes} (hstands : e.Stands o calls)
    (hnamed : Named o calls h) (hpool : h.registry.maxSlots = n) (hn : n ≤ 65536) (ho : o.Fits n)
    (hanswer : answer? c = some table) (hfirst : e.enumerated = false) :
    (ends setting slot (e.respond c) h).1.2.Stands o (calls ++ [c]) ∧
      Named o (calls ++ [c]) (ends setting slot (e.respond c) h).2 := by
  cases c with
  | packet p =>
    have hunanswered : calls.findSome? answer? = none := by
      rw [hstands.enumerated] at hfirst
      exact Option.not_isSome_iff_eq_none.mp (Bool.eq_false_iff.mp hfirst)
    have hsettled : isSettled (calls ++ [.packet p]) = true := by
      rw [isSettled_concat, hanswer, Option.isSome_some, Bool.true_or, Bool.or_true]
    obtain ⟨hlength, hpacket⟩ := packet_of_answer (P := P) hanswer e
    have hknows : e.Knows {id | e.ackTimer = some id} := fun id hid => hid
    -- the ack timer is cancelled first, which changes neither names nor overloads
    obtain ⟨⟨hpool₁, hsame⟩, _, hwaits⟩ := ends_sameNames setting slot (fun hop => hop.2)
      (cancelAck_asks (P := P) hknows) h
    rw [Enumerator.respond, ends_bind, hpacket, ends_bind]
    generalize ends setting slot e.cancelAck h = r at hpool₁ hsame hwaits
    rw [hpool] at hpool₁
    rw [if_neg (by rw [hwaits.enumerated, hfirst]; exact Bool.false_ne_true)]
    have hfits : r.1.overloads.Fits n := hwaits.overloads ▸ fits_of_stands hstands ho
    obtain ⟨hrest, henumerated, hpool', hloaded⟩ :=
      driverName?_enumerate setting slot hpool₁ hn hfits hlength
    refine ⟨⟨?_, ?_⟩, ?_⟩
    · rw [hsettled, if_pos rfl]
      exact hrest
    · rw [List.findSome?_append, hunanswered, Option.none_or, List.findSome?_cons, hanswer]
      exact henumerated
    · refine named_of_loaded hstands hnamed hpool hpool' (B := catalogName 1 table.words)
        (fun k hk => (hloaded k hk).trans ?_) ?_
      · rw [hwaits.overloads, hsame]
      · intro k name
        rw [nameAfter, late?_concat_of_answer hunanswered hanswer]
        by_cases hbefore : isSettled calls
        · rw [if_pos hbefore, if_pos hbefore, nameAfter, late?_of_unanswered hunanswered]
          rfl
        · rw [if_neg hbefore, if_neg hbefore]
          rfl
  | _ => cases hanswer

/-- Every call of the enumerator leaves the assignments as they should be after it. -/
lemma ends_respond (setting : Setting P) (slot : SlotId) (hstands : e.Stands o calls)
    (hnamed : Named o calls h) (hmax : h.registry.maxSlots ≤ 65536)
    (ho : o.Fits h.registry.maxSlots) (c : Callback) :
    (ends setting slot (e.respond c) h).1.2.Stands o (calls ++ [c]) ∧
      Named o (calls ++ [c]) (ends setting slot (e.respond c) h).2 := by
  cases htimeout : timesOut c with
  | true => exact ends_respond_timeout hstands hnamed rfl hmax ho htimeout
  | false =>
    cases hanswer : answer? c with
    | none => exact ends_respond_quiet hstands hnamed (.inl hanswer) htimeout
    | some table =>
      cases hfirst : e.enumerated with
      | true => exact ends_respond_quiet hstands hnamed (.inr hfirst) htimeout
      | false => exact ends_respond_answer hstands hnamed rfl hmax ho hanswer hfirst

end Host

end BoardLink
