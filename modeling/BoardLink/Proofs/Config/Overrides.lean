import Mathlib.Logic.Function.Basic
import Mathlib.Data.List.Forall2
import Mathlib.Data.List.Nodup
import BoardLink.CommandLine.Run
import BoardLink.Proofs.Except
import BoardLink.Proofs.Overloads

/-!
# Assignments that override those of a configuration

A configuration assigns drivers to slots as a finite map does, and an assignment that is given to the
program updates this map. No slot is assigned twice after that, so a configuration with overrides is
refused only for what is wrong with its device or with a single assignment, and an engine is given
the same map.
-/

namespace BoardLink

/-! ### Single assignments -/

namespace Overload

variable {maxSlots : Nat} {p : Overload}

/-- Drivers by slots, with an assignment made to them. -/
def update (map : Nat → Option String) (p : Overload) : Nat → Option String :=
  Function.update map p.slot (some p.driver)

/-- Of several assignments for a slot the last counts, and other slots keep what they had. -/
lemma foldl_update (map : Nat → Option String) (ps : List Overload) (slot : Nat) :
    ps.foldl update map slot =
      ((ps.reverse.find? fun p => p.slot = slot).map driver).or (map slot) := by
  induction ps generalizing map with
  | nil => rfl
  | cons p ps ih =>
    rw [List.foldl_cons, ih, List.reverse_cons, List.find?_append, update]
    by_cases hslot : slot = p.slot
    · cases ps.reverse.find? fun p => p.slot = slot <;> simp [hslot]
    · simp [hslot, Ne.symm hslot]

/-- What is wrong with an assignment, whatever else is assigned. -/
def fault (maxSlots : Nat) (p : Overload) : Option String :=
  if p.slot = 0 then some "slot 0 is reserved for the enumerator"
  else if maxSlots ≤ p.slot then
    some s!"overload slot {p.slot} is outside the pool of {maxSlots} slots"
  else if p.driver.isEmpty then some s!"overload for slot {p.slot} names no driver"
  else none

lemma fault_eq_none_iff :
    p.fault maxSlots = none ↔ ¬(p.slot = 0 ∨ maxSlots ≤ p.slot ∨ p.driver = "") := by
  simp only [fault]
  split_ifs <;> simp_all

private lemma getLast?_toList_append (s : String) {t : String} {x : Char}
    (h : t.toList.getLast? = some x) : (s ++ t).toList.getLast? = some x := by
  rw [String.toList_append, List.getLast?_append, h, Option.some_or]

/-- The complaint that a slot is assigned twice. -/
def assignedTwice (slot : Nat) : String := s!"slot {slot} is overloaded more than once"

example : Config.checkOverloads 32 [] [⟨3, "in4"⟩, ⟨3, "out4"⟩] = .error (assignedTwice 3) := by
  decide

lemma getLast?_assignedTwice (slot : Nat) : (assignedTwice slot).toList.getLast? = some 'e' :=
  getLast?_toList_append _ rfl

/-- No other complaint ends with the same letter. -/
lemma getLast?_of_fault {reason : String} (h : p.fault maxSlots = some reason) :
    reason.toList.getLast? ≠ some 'e' := by
  simp only [fault] at h
  split_ifs at h
  · cases h
    decide
  · cases h
    rw [getLast?_toList_append _ (x := 's') rfl]
    decide
  · cases h
    rw [getLast?_toList_append _ (x := 'r') rfl]
    decide

end Overload

namespace Config

variable {c c' : Config} {p : Overload} {ps : List Overload}

/-! ### Faults -/

/-- What is wrong with a configuration whose sizes are right and in which no slot comes twice. -/
def fault (c : Config) : Option String :=
  if c.serialPort.isEmpty then some "serial_port must not be empty"
  else c.overloads.findSome? (Overload.fault c.maxSlots)

lemma fault_eq_none_iff : c.fault = none ↔
    ¬(c.serialPort = "" ∨
      ∃ p ∈ c.overloads, p.slot = 0 ∨ c.maxSlots ≤ p.slot ∨ p.driver = "") := by
  simp only [fault]
  split_ifs with hport
  · simp_all
  · simp_all [Overload.fault_eq_none_iff]

lemma ne_assignedTwice_of_fault {reason : String} (h : c.fault = some reason) (slot : Nat) :
    reason ≠ Overload.assignedTwice slot := by
  intro heq
  have hlast := Overload.getLast?_assignedTwice slot
  rw [← heq] at hlast
  simp only [fault] at h
  split_ifs at h
  · cases h
    revert hlast
    decide
  · obtain ⟨p, _, hp⟩ := List.exists_of_findSome?_eq_some h
    exact Overload.getLast?_of_fault hp hlast

/-- Where no slot comes twice, the check ends with the first fault of a single assignment. -/
lemma checkOverloads_of_nodup {maxSlots : Nat} {seen : List Nat}
    (hnodup : (ps.map Overload.slot).Nodup) (hseen : ∀ p ∈ ps, p.slot ∉ seen) :
    checkOverloads maxSlots seen ps =
      match ps.findSome? (Overload.fault maxSlots) with
      | some reason => .error reason
      | none => .ok () := by
  induction ps generalizing seen with
  | nil => rfl
  | cons p ps ih =>
    obtain ⟨hp, hnodup⟩ := List.nodup_cons.mp hnodup
    obtain ⟨hpseen, hseen⟩ := List.forall_mem_cons.mp hseen
    -- the slot that is seen now does not come again
    have hrest : ∀ q ∈ ps, q.slot ∉ p.slot :: seen := by
      intro q hq
      rw [List.mem_cons, not_or]
      exact ⟨fun heq => hp (List.mem_map.mpr ⟨q, hq, heq⟩), hseen q hq⟩
    simp only [checkOverloads, List.findSome?_cons, Overload.fault, hpseen, if_false,
      ih hnodup hrest]
    split_ifs <;> rfl

/-- Do two configurations agree on all sizes and times? -/
structure SameSizes (c c' : Config) : Prop where
  bufferSize : c'.bufferSize = c.bufferSize
  maxSlots : c'.maxSlots = c.maxSlots
  maxResources : c'.maxResources = c.maxResources
  maxTimers : c'.maxTimers = c.maxTimers
  ackTimeout : c'.ackTimeout = c.ackTimeout

/-- A configuration with the sizes of a valid one has no faults but these. -/
lemma SameSizes.validate_eq (h : c.SameSizes c') (hc : c.validate = .ok ())
    (hnodup : (c'.overloads.map Overload.slot).Nodup) :
    c'.validate =
      match c'.fault with
      | some reason => .error (.invalid reason)
      | none => .ok () := by
  have hcheck := check_of_validate hc
  have hoverloads : checkOverloads c'.maxSlots [] c'.overloads = _ :=
    checkOverloads_of_nodup hnodup fun _ _ => List.not_mem_nil
  -- the checks of the sizes come out as they did for the valid one
  simp only [check] at hcheck
  split_ifs at hcheck with _ hsize hslots hresources htimers htimeout
  rw [← h.bufferSize] at hsize
  rw [← h.maxSlots] at hslots
  rw [← h.maxResources] at hresources
  rw [← h.maxTimers] at htimers
  rw [← h.ackTimeout] at htimeout
  simp only [validate, check, fault, hsize, hslots, hresources, htimers, htimeout, if_false,
    hoverloads]
  split_ifs
  · rfl
  · split <;> rfl

/-! ### Assignments as a map -/

/-- Where no slot comes twice, every assignment counts. -/
lemma mem_overloads_iff (h : (c.overloads.map Overload.slot).Nodup) :
    p ∈ c.overloads ↔ c.overloadFor p.slot = some p.driver := by
  constructor
  · intro hp
    cases hfind : c.overloads.find? fun q => q.slot = p.slot with
    | none => simpa using List.find?_eq_none.mp hfind p hp
    | some q =>
      have hslot : q.slot = p.slot := by simpa using List.find?_some hfind
      have hq : q = p := List.inj_on_of_nodup_map h (List.mem_of_find?_eq_some hfind) hp hslot
      rw [overloadFor, hfind, hq]
      rfl
  · intro hp
    obtain ⟨⟨slot, driver⟩, hq, hslot, hdriver⟩ := exists_of_overloadFor hp
    cases hslot
    cases hdriver
    exact hq

private lemma find?_filter_self (ps : List Overload) (slot : Nat) :
    (ps.filter fun q => q.slot ≠ slot).find? (fun q => q.slot = slot) = none := by
  rw [List.find?_eq_none]
  intro q hq
  simpa using (List.mem_filter.mp hq).2

private lemma find?_filter_of_ne (ps : List Overload) {slot slot' : Nat} (h : slot' ≠ slot) :
    (ps.filter fun q => q.slot ≠ slot).find? (fun q => q.slot = slot') =
      ps.find? fun q => q.slot = slot' := by
  rw [List.find?_filter]
  congr 1
  funext q
  by_cases hq : q.slot = slot' <;> simp_all

lemma overloadFor_assign (c : Config) (p : Overload) :
    (c.assign p).overloadFor = Overload.update c.overloadFor p := by
  funext slot
  simp only [overloadFor, assign, List.find?_append, Overload.update]
  by_cases hslot : slot = p.slot
  · rw [hslot, find?_filter_self, Function.update_self]
    simp
  · rw [find?_filter_of_ne _ hslot, Function.update_of_ne hslot]
    simp [Ne.symm hslot, overloadFor]

lemma nodup_assign (h : (c.overloads.map Overload.slot).Nodup) (p : Overload) :
    ((c.assign p).overloads.map Overload.slot).Nodup := by
  rw [assign, List.map_append, List.nodup_append]
  refine ⟨h.sublist (List.filter_sublist.map _), List.nodup_singleton _, ?_⟩
  intro slot hmem slot' hslot'
  obtain ⟨q, hq, rfl⟩ := List.mem_map.mp hmem
  obtain rfl := List.mem_singleton.mp hslot'
  simpa using (List.mem_filter.mp hq).2

/-- Assignments that can be read are made one after the other. -/
lemma assignAll_eq {specs : List String}
    (h : List.Forall₂ (fun spec p => Overload.ofSpec spec = .ok p) specs ps) (c : Config) :
    c.assignAll specs = .ok (ps.foldl assign c) := by
  induction h generalizing c with
  | nil => rfl
  | cons hspec _ ih => simp only [assignAll, hspec, ih, List.foldl_cons]

lemma overloadFor_foldl_assign (c : Config) (ps : List Overload) :
    (ps.foldl assign c).overloadFor = ps.foldl Overload.update c.overloadFor := by
  induction ps generalizing c with
  | nil => rfl
  | cons p ps ih => rw [List.foldl_cons, List.foldl_cons, ih, overloadFor_assign]

lemma nodup_foldl_assign (h : (c.overloads.map Overload.slot).Nodup) (ps : List Overload) :
    ((ps.foldl assign c).overloads.map Overload.slot).Nodup := by
  induction ps generalizing c with
  | nil => exact h
  | cons p ps ih => exact ih (nodup_assign h p)

/-- Assignments change no other setting. -/
lemma foldl_assign_eq (c : Config) (ps : List Overload) :
    ps.foldl assign c = { c with overloads := (ps.foldl assign c).overloads } := by
  induction ps generalizing c with
  | nil => rfl
  | cons p ps ih => exact ih (c.assign p)

/-! ### Configurations with overrides -/

lemma validate_of_ofText {text : String} (h : ofText text = .ok c) : c.validate = .ok () := by
  simp only [ofText] at h
  split at h
  · cases h
  · obtain ⟨⟨⟩, hvalidate, rfl⟩ := except_map_eq_ok.mp h
    exact hvalidate

lemma override_eq {merged : Config} {o : Overrides} (hmerge : c.merge o = .ok merged)
    (hvalidate : merged.validate =
      match merged.fault with
      | some reason => .error (.invalid reason)
      | none => .ok ()) :
    c.override o =
      match merged.fault with
      | some reason => .error (.config (.invalid reason))
      | none => .ok merged := by
  simp only [override, hmerge, hvalidate]
  split <;> rfl

/-- What comes of a configuration with overrides, by the assignments among them. -/
structure Overridden (c : Config) (o : Overrides) (ps : List Overload) (merged : Config) : Prop where
  merge_eq : c.merge o = .ok merged
  settings_eq : merged =
    { c with
      serialPort := o.serialPort.getD c.serialPort
      logLevel := o.logLevel.getD c.logLevel
      tracePackets := o.tracePackets || c.tracePackets
      overloads := merged.overloads }
  /-- No slot is assigned twice, so the assignments are a map. -/
  nodup : (merged.overloads.map Overload.slot).Nodup
  mem_iff : ∀ p, p ∈ merged.overloads ↔ merged.overloadFor p.slot = some p.driver
  overloadFor_eq : merged.overloadFor = ps.foldl Overload.update c.overloadFor
  /-- The last assignment for a slot counts, and other slots keep what they had. -/
  overloadFor_last : ∀ slot, merged.overloadFor slot =
    ((ps.reverse.find? fun p => p.slot = slot).map Overload.driver).or (c.overloadFor slot)
  error_iff : (∃ e, c.override o = .error e) ↔
    merged.serialPort = "" ∨
      ∃ p ∈ merged.overloads, p.slot = 0 ∨ merged.maxSlots ≤ p.slot ∨ p.driver = ""
  /-- What is complained of is the first such fault, and never a slot that is assigned twice. -/
  error : ∀ e, c.override o = .error e → ∃ reason, e = .config (.invalid reason) ∧
    merged.fault = some reason ∧ ∀ slot, reason ≠ Overload.assignedTwice slot
  /-- Otherwise the engine is given the same map. -/
  ok : ∀ c', c.override o = .ok c' → c' = merged ∧
    ∀ {L P : Type} [Link L] (link : L) (factory : Factory P) slot,
      (Engine.create c'.options link factory).overloads.get? slot = c'.overloadFor slot

lemma overridden_of_validate {o : Overrides} (hc : c.validate = .ok ())
    (hspecs : List.Forall₂ (fun spec p => Overload.ofSpec spec = .ok p) o.overloads ps) :
    ∃ merged, Overridden c o ps merged := by
  let base := { c with
    serialPort := o.serialPort.getD c.serialPort
    logLevel := o.logLevel.getD c.logLevel
    tracePackets := o.tracePackets || c.tracePackets }
  let merged := ps.foldl assign base
  have hmerge : c.merge o = .ok merged := assignAll_eq hspecs base
  have hsettings : merged = { base with overloads := merged.overloads } := foldl_assign_eq base ps
  -- assignments replace those for their slot, so no slot comes twice if none did before
  have hnodup : (merged.overloads.map Overload.slot).Nodup :=
    nodup_foldl_assign (c := base) (checkOverloads_eq_ok (checks_of_validate hc).2.2.1).1 ps
  have hmap : merged.overloadFor = ps.foldl Overload.update c.overloadFor :=
    overloadFor_foldl_assign base ps
  have hsizes : c.SameSizes merged := by
    rw [hsettings]
    exact ⟨rfl, rfl, rfl, rfl, rfl⟩
  have hvalidate := hsizes.validate_eq hc hnodup
  have hoverride := override_eq hmerge hvalidate
  refine ⟨merged,
    { merge_eq := hmerge
      settings_eq := hsettings
      nodup := hnodup
      mem_iff := fun p => mem_overloads_iff hnodup
      overloadFor_eq := hmap
      overloadFor_last := fun slot => by rw [hmap, Overload.foldl_update]
      error_iff := ?_
      error := ?_
      ok := ?_ }⟩
  -- what can still fail is one of the checks of the merged configuration
  · rw [← not_iff_not, ← fault_eq_none_iff, hoverride]
    cases merged.fault <;> simp
  · intro e he
    cases hfault : merged.fault with
    | none => simp [hoverride, hfault] at he
    | some reason =>
      simp only [hoverride, hfault] at he
      cases he
      exact ⟨reason, rfl, rfl, ne_assignedTwice_of_fault hfault⟩
  · intro c' hc'
    cases hfault : merged.fault with
    | some reason => simp [hoverride, hfault] at hc'
    | none =>
      simp only [hoverride, hfault] at hc' hvalidate
      cases hc'
      exact ⟨rfl, fun link factory => get?_overloads_eq hvalidate⟩

/-- Assignments that are given to the program, if all of them can be read, override those of the
configuration to start from as updates do a finite map, and what the program makes of that
configuration hangs on nothing else. -/
theorem overridden_of_specs {o : Overrides}
    (hspecs : List.Forall₂ (fun spec p => Overload.ofSpec spec = .ok p) o.overloads ps) :
    (∀ c : Config, c.validate = .ok () ∨ c = {} → ∃ merged, Overridden c o ps merged) ∧
    ∀ {m : Type → Type} [Monad m] [LawfulMonad m] {D : Type} (sys : CommandLine.System m D)
      (path : Option String),
      CommandLine.buildConfig sys path o =
        (fun base => base.bind fun c => (c.override o).mapError CommandLine.Failure.ofOverride) <$>
          CommandLine.baseConfig sys path := by
  constructor
  · rintro c (hc | rfl)
    · exact overridden_of_validate hc hspecs
    · exact overridden_of_validate rfl hspecs
  · intro m _ _ D sys path
    rw [map_eq_pure_bind, CommandLine.buildConfig]
    congr 1
    funext base
    cases base <;> rfl

/-- An assignment without a driver that is overridden again, and one that overrides the file. -/
theorem overridden_of_specs_repeated :
    let text := "max_slots = 8\noverload = [[3, \"in4\"], [5, \"out4\"]]"
    let c : Config := { maxSlots := 8, overloads := [⟨3, "in4"⟩, ⟨5, "out4"⟩] }
    let o : Overrides := { overloads := ["7:", "3: bb4io", "7:quad2"] }
    let ps : List Overload := [⟨7, ""⟩, ⟨3, "bb4io"⟩, ⟨7, "quad2"⟩]
    ofText text = .ok c ∧
      List.Forall₂ (fun spec p => Overload.ofSpec spec = .ok p) o.overloads ps ∧
      ∃ merged, Overridden c o ps merged ∧ c.override o = .ok merged ∧
        merged.overloads = [⟨5, "out4"⟩, ⟨3, "bb4io"⟩, ⟨7, "quad2"⟩] := by
  intro text c o ps
  have htext : ofText text = .ok c := by decide +kernel
  have hspecs : List.Forall₂ (fun spec p => Overload.ofSpec spec = .ok p) o.overloads ps := by
    decide
  have hoverride : c.override o = .ok
      { maxSlots := 8, overloads := [⟨5, "out4"⟩, ⟨3, "bb4io"⟩, ⟨7, "quad2"⟩] } := by
    decide
  obtain ⟨merged, h⟩ := (overridden_of_specs hspecs).1 c (.inl (validate_of_ofText htext))
  obtain ⟨rfl, _⟩ := h.ok _ hoverride
  exact ⟨htext, hspecs, _, h, hoverride, rfl⟩

end Config

end BoardLink
