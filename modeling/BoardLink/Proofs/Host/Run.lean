import BoardLink.Proofs.Driver.Enumerator
import BoardLink.Proofs.Host.Names

/-!
# Running programs that keep to a rule

What each permitted operation does to a host, a program that keeps to the rule does to it as a whole.
-/

namespace BoardLink

/-- An instance that is not the first of its host and never fills a slot. -/
def Instance.Modest {P : Type} [Driver P] (inst : Instance P) : Prop :=
  inst.serial ≠ 0 ∧ inst.driver.Modest

namespace Host

variable {L P α β : Type} [Link L] {setting : Setting P} {slot : SlotId} {rule : Rule P}
  {known : Set TimerId} {post : Set TimerId → α → Prop} {p : Program P α}

/-- What a program comes to, and the host that it leaves. -/
def ends (setting : Setting P) (slot : SlotId) (p : Program P α) (h : Host L P) : α × Host L P :=
  ((run setting slot p h).1, (run setting slot p h).2.1)

lemma ends_bind (p : Program P α) (f : α → Program P β) (h : Host L P) :
    ends setting slot (p >>= f) h =
      ends setting slot (f (ends setting slot p h).1) (ends setting slot p h).2 := by
  induction p generalizing h with
  | done a => rfl
  | step op next ih => exact ih _ _

omit [Link L] in
/-- Only loading a driver leaves a slot to be initialised. -/
lemma spawned_eq_nil {op : Op P} (hop : ∀ id name core, op ≠ .installDriver id name core)
    (r : op.Result) : spawned op r = [] := by
  cases op with
  | installDriver id name core => exact absurd rfl (hop id name core)
  | _ => rfl

lemma run_perform {op : Op P} {r : op.Result} {h h' : Host L P}
    (hperform : h.perform setting slot op = (r, h')) :
    run setting slot (.perform op) h = (r, h', spawned op r) := by
  simp only [Program.perform, run, hperform, List.append_nil]

/-- A program and the one after it leave the slots of both to be initialised, those of the first
before the others. -/
lemma run_bind {f : α → Program P β} {h h₁ h₂ : Host L P} {a : α} {b : β} {slots slots' : List SlotId}
    (hp : run setting slot p h = (a, h₁, slots)) (hf : run setting slot (f a) h₁ = (b, h₂, slots')) :
    run setting slot (p >>= f) h = (b, h₂, slots ++ slots') := by
  induction p generalizing h slots with
  | done a' =>
    cases hp
    exact hf
  | step op next ih =>
    rcases hperform : h.perform setting slot op with ⟨r, h'⟩
    rcases hnext : run setting slot (next r) h' with ⟨a', h₁', slots''⟩
    simp only [run, hperform, hnext, Prod.mk.injEq] at hp
    obtain ⟨rfl, rfl, rfl⟩ := hp
    have hrest := ih r hnext
    show run setting slot (.step op fun r => (next r).bind f) h = _
    simp only [run, hperform]
    rw [show run setting slot ((next r).bind f) h' = _ from hrest, List.append_assoc]

/-- A program of which something else is returned. -/
lemma run_map {h h' : Host L P} {a : α} {slots : List SlotId} (f : α → β)
    (hp : run setting slot p h = (a, h', slots)) :
    run setting slot (p >>= fun a => pure (f a)) h = (f a, h', slots) := by
  have hreturn : run setting slot (pure (f a)) h' = (f a, h', []) := rfl
  rw [run_bind hp hreturn, List.append_nil]

/-- What all permitted operations do, told together with the slots that are to be initialised, a
program does that keeps to the rule. -/
lemma run_follows {R : Host L P → Host L P → List SlotId → Prop} (hrefl : ∀ h, R h h [])
    (htrans : ∀ {h h' h'' w w'}, R h h' w → R h' h'' w' → R h h'' (w ++ w'))
    (hperform : ∀ {h known op}, rule known op →
      R h (h.perform setting slot op).2 (spawned op (h.perform setting slot op).1))
    (hp : p.Follows rule post known) (h : Host L P) :
    R h (run setting slot p h).2.1 (run setting slot p h).2.2 ∧
      ∃ known', post known' (run setting slot p h).1 := by
  induction p generalizing h known with
  | done a => exact ⟨hrefl h, known, hp⟩
  | step op next ih =>
    obtain ⟨hop, hnext⟩ := hp
    obtain ⟨hrest, hpost⟩ := ih _ (hnext _) (h.perform setting slot op).2
    exact ⟨htrans (hperform hop) hrest, hpost⟩

/-- What all permitted operations do a program does that keeps to the rule. -/
lemma ends_follows {R : Host L P → Host L P → Prop} (hrefl : ∀ h, R h h)
    (htrans : ∀ {h h' h''}, R h h' → R h' h'' → R h h'')
    (hperform : ∀ {h known op}, rule known op → R h (h.perform setting slot op).2)
    (hp : p.Follows rule post known) (h : Host L P) :
    R h (ends setting slot p h).2 ∧ ∃ known', post known' (ends setting slot p h).1 :=
  run_follows (R := fun h h' _ => R h h') hrefl htrans hperform hp h

/-- A program that fills no slots leaves the pool and all names as they are. -/
lemma ends_sameNames (setting : Setting P) (slot : SlotId)
    (hrule : ∀ {known op}, rule known op → op.fills = false)
    (hp : p.Follows rule post known) (h : Host L P) :
    ((ends setting slot p h).2.registry.maxSlots = h.registry.maxSlots ∧
      h.registry.SameNames (ends setting slot p h).2.registry) ∧
      ∃ known', post known' (ends setting slot p h).1 := by
  refine ends_follows (R := fun h h' => h'.registry.maxSlots = h.registry.maxSlots ∧
    h.registry.SameNames h'.registry) (fun h => ⟨rfl, .refl _⟩)
    (fun hsame hsame' => ⟨hsame'.1.trans hsame.1, hsame.2.trans hsame'.2⟩)
    (fun {h known op} hop => ⟨?_, perform_sameNames (hrule hop)⟩) hp h
  have hstaffs : Staffs (fun _ => True) h (h.perform setting slot op).2 :=
    perform_staffs fun _ _ _ _ => trivial
  exact hstaffs.maxSlots

variable [Driver P]

/-- A program that brings only modest drivers into slots brings only modest instances. -/
lemma ends_staffs (setting : Setting P) (slot : SlotId)
    (hrule : ∀ {known op} driver, rule known op → op.Brings setting.factory driver → driver.Modest)
    (hp : p.Follows rule post known) {h : Host L P} (hserial : 0 < h.nextSerial) :
    Staffs Instance.Modest h (ends setting slot p h).2 := by
  refine (ends_follows (R := fun h h' => 0 < h.nextSerial → Staffs Instance.Modest h h')
    (fun h _ => .refl h) (fun hstaffs hstaffs' hpos => ?_) (fun {h known op} hop hpos => ?_) hp
    h).1 hserial
  · have hstaffs := hstaffs hpos
    exact hstaffs.trans (hstaffs' (Nat.lt_of_lt_of_le hpos hstaffs.nextSerial))
  · refine perform_staffs fun driver n hle hbrings => ⟨?_, hrule driver hop hbrings⟩
    exact Nat.ne_of_gt (Nat.lt_of_lt_of_le hpos hle)

end Host

end BoardLink
