import Mathlib.Data.Set.Insert
import Mathlib.Tactic.Common
import BoardLink.Driver.Enumerator
import BoardLink.Proofs.Registry.Locks

/-!
# What drivers keep to

A rule says which operations a driver may carry out that knows certain timers. It knows those that
it armed and those that its maker told it about. A program follows a rule if it does whatever its
operations come to. A driver keeps to a rule for good if there is some set of drivers with what they
know that no call leaves.
-/

namespace BoardLink

variable {P α β : Type}

/-! ### Rules -/

/-- The timers that an operation makes known. -/
def Op.learned : (op : Op P) → op.Result → Set TimerId
  | .addTimer .., .ok id => {id}
  | _, _ => ∅

/-- Which operations are permitted to a driver that knows these timers. -/
abbrev Rule (P : Type) := Set TimerId → Op P → Prop

namespace Program

/-- Every operation of the program is permitted, and in the end `post` holds. -/
def Follows (rule : Rule P) (post : Set TimerId → α → Prop) :
    Set TimerId → Program P α → Prop
  | known, .done a => post known a
  | known, .step op next =>
    rule known op ∧ ∀ r, (next r).Follows rule post (known ∪ op.learned r)

variable {rule rule' : Rule P} {known : Set TimerId}

lemma Follows.mono {post post' : Set TimerId → α → Prop} {p : Program P α}
    (h : p.Follows rule post known) (hrule : ∀ known op, rule known op → rule' known op)
    (hpost : ∀ known a, post known a → post' known a) : p.Follows rule' post' known := by
  induction p generalizing known with
  | done a => exact hpost known a h
  | step op next ih => exact ⟨hrule known op h.1, fun r => ih r (h.2 r)⟩

/-- What a driver knows it does not forget. -/
lemma Follows.keep {post : Set TimerId → α → Prop} {p : Program P α}
    (h : p.Follows rule post known) :
    p.Follows rule (fun known' a => known ⊆ known' ∧ post known' a) known := by
  suffices hsub : ∀ first ⊆ known,
      p.Follows rule (fun known' a => first ⊆ known' ∧ post known' a) known from
    hsub known subset_rfl
  induction p generalizing known with
  | done a => exact fun first hfirst => ⟨hfirst, h⟩
  | step op next ih =>
    intro first hfirst
    refine ⟨h.1, fun r => ih r (h.2 r) first ?_⟩
    exact hfirst.trans Set.subset_union_left

lemma follows_bind {post : Set TimerId → β → Prop} {p : Program P α} {f : α → Program P β}
    (h : p.Follows rule (fun known a => (f a).Follows rule post known) known) :
    (p >>= f).Follows rule post known := by
  induction p generalizing known with
  | done a => exact h
  | step op next ih => exact ⟨h.1, fun r => ih r (h.2 r)⟩

lemma follows_perform {op : Op P} {post : Set TimerId → op.Result → Prop} (hop : rule known op)
    (hpost : ∀ r, post (known ∪ op.learned r) r) :
    (Program.perform op).Follows rule post known := ⟨hop, hpost⟩

/-- A single operation and what comes after it. -/
lemma follows_perform_bind {op : Op P} {f : op.Result → Program P β}
    {post : Set TimerId → β → Prop} (hop : rule known op)
    (hf : ∀ r, (f r).Follows rule post (known ∪ op.learned r)) :
    (Program.perform op >>= f).Follows rule post known :=
  follows_bind (follows_perform hop hf)

/-- A single operation that arms no timer and what comes after it. -/
lemma follows_silent_bind {op : Op P} {f : op.Result → Program P β}
    {post : Set TimerId → β → Prop} (hop : rule known op) (hsilent : ∀ r, op.learned r = ∅)
    (hf : ∀ r, (f r).Follows rule post known) :
    (Program.perform op >>= f).Follows rule post known := by
  apply follows_perform_bind hop
  intro r
  rw [hsilent r, Set.union_empty]
  exact hf r

end Program

/-! ### Keeping to a rule for good -/

/-- A rule that depends on which drivers, with what they know, keep to it themselves. -/
abbrev Discipline (P : Type) := (Set TimerId → Occupant P → Prop) → Rule P

variable [Driver P] {discipline : Discipline P} {known : Set TimerId} {d : Occupant P}

/-- The driver keeps to the rule whenever it is called, and so does what becomes of it. -/
def Occupant.KeepsTo (discipline : Discipline P) (known : Set TimerId) (d : Occupant P) : Prop :=
  ∃ drivers : Set TimerId → Occupant P → Prop, drivers known d ∧
    ∀ known d, drivers known d → ∀ c, (d.respond c).Follows (discipline drivers)
      (fun known result => drivers known result.2) known

/-- The more drivers keep to the rule, the more it permits. -/
def Discipline.Monotone (discipline : Discipline P) : Prop :=
  ∀ drivers drivers' : Set TimerId → Occupant P → Prop,
    (∀ known d, drivers known d → drivers' known d) →
      ∀ known op, discipline drivers known op → discipline drivers' known op

/-- All that keep to a rule may be taken for the drivers that it depends on. -/
lemma Occupant.KeepsTo.respond (hmono : discipline.Monotone) (h : d.KeepsTo discipline known)
    (c : Callback) :
    (d.respond c).Follows (discipline (Occupant.KeepsTo discipline))
      (fun known result => result.2.KeepsTo discipline known) known := by
  obtain ⟨drivers, hd, hclosed⟩ := h
  have hdrivers (known : Set TimerId) (d : Occupant P) (hd : drivers known d) :
      d.KeepsTo discipline known := ⟨drivers, hd, hclosed⟩
  exact (hclosed known d hd c).mono (hmono drivers _ hdrivers) fun known result =>
    hdrivers known result.2

/-! ### Drivers that leave locks alone -/

/-- The rule for drivers that touch locks only by waiting for answers and telling them: a timer is
cancelled only if it is known, no lock is changed directly, only resources that nobody waits for are
added, and only drivers that keep to the rule themselves are put into slots. -/
def Op.Careful : Discipline P
  | _, _, .addResource resource => resource.IsFree
  | _, known, .cancelTimer id => id ∈ known
  | drivers, known, .registry (.setDriver _ driver) => drivers known driver
  | _, _, .registry command => command.locks = false
  | _, _, _ => True

/-- A driver that knows these timers and leaves locks alone for good. -/
abbrev Occupant.Careful (known : Set TimerId) (d : Occupant P) : Prop := d.KeepsTo Op.Careful known

omit [Driver P] in
lemma careful_monotone : Discipline.Monotone (Op.Careful : Discipline P) := by
  intro drivers drivers' h known op hop
  cases op with
  | registry command =>
    cases command with
    | setDriver slot driver => exact h known driver hop
    | _ => exact hop
  | _ => exact hop

/-! ### Drivers that take and give up locks only with their timers -/

/-- The rule for drivers that touch locks only by waiting for answers and telling them, and may cancel
whatever timers they like: no lock is changed directly, only resources that nobody waits for are added,
and only drivers that keep to the rule themselves are put into slots. -/
def Op.Discreet : Discipline P
  | _, _, .addResource resource => resource.IsFree
  | drivers, known, .registry (.setDriver _ driver) => drivers known driver
  | _, _, .registry command => command.locks = false
  | _, _, _ => True

omit [Driver P] in
lemma discreet_monotone : Discipline.Monotone (Op.Discreet : Discipline P) := by
  intro drivers drivers' h known op hop
  cases op with
  | registry command =>
    cases command with
    | setDriver slot driver => exact h known driver hop
    | _ => exact hop
  | _ => exact hop

omit [Driver P] in
lemma Op.Careful.discreet {drivers : Set TimerId → Occupant P → Prop} {op : Op P}
    (h : Op.Careful drivers known op) : Op.Discreet drivers known op := by
  cases op with
  | registry command =>
    cases command with
    | _ => exact h
  | _ => trivial

/-- A driver that touches locks only by waiting for answers and telling them, whatever it knows. -/
def Occupant.Discreet (d : Occupant P) : Prop := ∃ known, d.KeepsTo Op.Discreet known

lemma Occupant.Careful.discreet (h : d.Careful known) : d.Discreet := by
  obtain ⟨drivers, hd, hclosed⟩ := h
  refine ⟨known, drivers, hd, ?_⟩
  intro known d hd c
  exact (hclosed known d hd c).mono (fun _ _ => Op.Careful.discreet) fun _ _ => id

/-! ### Drivers that fill no slots -/

/-- Does the operation put a fresh instance into a slot? -/
def Op.fills : Op P → Bool
  | .installDriver .. => true
  | .registry command => command.fills
  | _ => false

/-- The rule for drivers that fill no slots: only drivers that keep to the rule themselves are put
into slots in use. -/
def Op.Modest : Discipline P
  | _, _, .installDriver .. => False
  | drivers, known, .registry (.setDriver _ driver) => drivers known driver
  | _, _, .registry command => command.fills = false
  | _, _, _ => True

omit [Driver P] in
lemma Op.Modest.fills {drivers : Set TimerId → Occupant P → Prop} {op : Op P}
    (h : Op.Modest drivers known op) : op.fills = false := by
  cases op with
  | installDriver => cases h
  | registry command =>
    cases command with
    | setDriver => rfl
    | _ => exact h
  | _ => rfl

/-- A driver that never fills a slot, whatever it knows. -/
def Occupant.Modest (d : Occupant P) : Prop := ∃ known, d.KeepsTo Op.Modest known

omit [Driver P] in
lemma modest_monotone : Discipline.Monotone (Op.Modest : Discipline P) := by
  intro drivers drivers' h known op hop
  cases op with
  | registry command =>
    cases command with
    | setDriver slot driver => exact h known driver hop
    | _ => exact hop
  | _ => exact hop

/-! ### Drivers that overwrite slots only by loading drivers -/

/-- The rule for drivers that put nothing into a slot in use but by loading a driver: from a pool of
this size they may allocate slots if the numbers of slots tell all of its places apart. -/
def Op.Tidy (pool : Nat) : Discipline P
  | _, _, .registry (.install ..) => False
  | _, _, .registry (.allocate _) => pool ≤ 65536
  | drivers, known, .registry (.setDriver _ driver) => drivers known driver
  | _, _, _ => True

/-- A driver that never overwrites a slot but by loading a driver, whatever it knows. -/
def Occupant.Tidy (pool : Nat) (d : Occupant P) : Prop := ∃ known, d.KeepsTo (Op.Tidy pool) known

omit [Driver P] in
lemma tidy_monotone (pool : Nat) : Discipline.Monotone (Op.Tidy pool : Discipline P) := by
  intro drivers drivers' h known op hop
  cases op with
  | registry command =>
    cases command with
    | setDriver slot driver => exact h known driver hop
    | _ => exact hop
  | _ => exact hop

/-! ### Drivers that bring in others only by loading them -/

/-- The rule for drivers that bring drivers into slots only by loading them, after which they are
initialised. -/
def Op.Loads : Discipline P
  | _, _, .registry (.setDriver ..) => False
  | _, _, _ => True

/-- A driver that brings drivers into slots only by loading them, whatever it knows. -/
def Occupant.Loads (d : Occupant P) : Prop := ∃ known, d.KeepsTo Op.Loads known

omit [Driver P] in
lemma loads_monotone : Discipline.Monotone (Op.Loads : Discipline P) := by
  intro drivers drivers' h known op hop
  cases op with
  | registry command =>
    cases command with
    | _ => exact hop
  | _ => exact hop

/-! ### Drivers that change slots only by loading drivers -/

/-- The rule for drivers that change who is in a slot only by loading drivers: no command to the
registry fills a slot or puts a driver into one. -/
def Op.Installs : Discipline P
  | _, _, .registry (.setDriver ..) => False
  | _, _, .registry command => command.fills = false
  | _, _, _ => True

/-- A driver that changes who is in a slot only by loading drivers, whatever it knows. -/
def Occupant.Installs (d : Occupant P) : Prop := ∃ known, d.KeepsTo Op.Installs known

omit [Driver P] in
lemma installs_monotone : Discipline.Monotone (Op.Installs : Discipline P) := by
  intro drivers drivers' h known op hop
  cases op with
  | registry command =>
    cases command with
    | _ => exact hop
  | _ => exact hop

omit [Driver P] in
lemma Op.Installs.loads {drivers drivers' : Set TimerId → Occupant P → Prop} {op : Op P}
    (h : Op.Installs drivers known op) : Op.Loads drivers' known op := by
  cases op with
  | registry command =>
    cases command with
    | setDriver => exact h
    | _ => trivial
  | _ => trivial

lemma Occupant.Installs.loads (h : d.Installs) : d.Loads := by
  obtain ⟨known, drivers, hd, hclosed⟩ := h
  refine ⟨known, drivers, hd, ?_⟩
  intro known d hd c
  exact (hclosed known d hd c).mono (fun _ _ => Op.Installs.loads) fun _ _ => id

end BoardLink
