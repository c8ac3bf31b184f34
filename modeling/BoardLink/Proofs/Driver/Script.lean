import BoardLink.Driver.Script
import BoardLink.Proofs.Driver.Discipline

/-!
# What scripts keep to

A scripted driver cancels only timers that it remembers, and it remembers only timers that it armed.
So it keeps to any rule that permits this, and the commands of its rules, and all that is neither.
-/

namespace BoardLink

/-- A rule by which a driver may add resources that nobody waits for, cancel the timers that it knows,
and do all else but give commands to the registry. -/
def Discipline.Lenient {P : Type} (discipline : Discipline P) : Prop :=
  ∀ drivers known op, (∀ resource, op = .addResource resource → resource.IsFree) →
    (∀ id, op = .cancelTimer id → id ∈ known) → (∀ command, op ≠ .registry command) →
      discipline drivers known op

/-- What is looked up is in the list. -/
lemma mem_of_lookup_eq_some {α β : Type} [BEq α] [LawfulBEq α] {l : List (α × β)} {a : α} {b : β}
    (h : l.lookup a = some b) : (a, b) ∈ l := by
  obtain ⟨before, after, hl, _⟩ := List.lookup_eq_some_iff.mp h
  rw [hl]
  exact List.mem_append_right _ List.mem_cons_self

namespace Script

variable {P : Type} {discipline : Discipline P} {drivers : Set TimerId → Occupant P → Prop}
  {known : Set TimerId}

/-- Every command is permitted, whatever the driver knows, and the timers remembered are known ones. -/
structure Keeps (discipline : Discipline P) (known : Set TimerId) (s : Script (Occupant P)) :
    Prop where
  commands : ∀ rule ∈ s.rules, ∀ step ∈ rule.steps, ∀ command,
    step.action = .registry (.ok command) →
      ∀ drivers known, discipline drivers known (.registry command)
  timers : ∀ entry ∈ s.timers, entry.2 ∈ known

/-- What a step leaves to be remembered is known. -/
private abbrev Remembers (known : Set TimerId) (result : Step.Result) : Prop :=
  ∀ entry ∈ result.2, entry.2 ∈ known

private lemma perform_follows {rule : BoardLink.Rule P} {ε α : Type} {op : Op P} (h : op.Result = Except ε α)
    (wrap : ε → Error) (show' : α → Note.Answer) (hop : rule known op)
    (hsilent : ∀ r, op.learned r = ∅) :
    (perform op h wrap show').Follows rule Remembers known :=
  Program.follows_silent_bind hop hsilent fun _ => nofun

private lemma withArgument_follows {rule : BoardLink.Rule P} {α : Type} {a : Except PacketError α}
    {f : α → Program P Step.Result} (hf : ∀ x, a = .ok x → (f x).Follows rule Remembers known) :
    (withArgument a f).Follows rule Remembers known := by
  match a with
  | .ok x => exact hf x rfl
  | .error e => exact nofun

private lemma act_follows {s : Script (Occupant P)} {action : Action (Occupant P)}
    (hlenient : discipline.Lenient) (session : SessionId) (hs : s.Keeps discipline known)
    (haction : ∀ command, action = .registry (.ok command) →
      discipline drivers known (.registry command)) :
    (s.act session action).Follows (discipline drivers) Remembers known := by
  -- all but three actions are permitted whatever the driver knows
  have hother (op : Op P) (hadd : ∀ resource, op ≠ .addResource resource)
      (hcancel : ∀ id, op ≠ .cancelTimer id) (hcommand : ∀ command, op ≠ .registry command) :
      discipline drivers known op :=
    hlenient drivers known op (fun resource hop => absurd hop (hadd resource))
      (fun id hop => absurd hop (hcancel id)) hcommand
  cases action with
  | addResource =>
    refine perform_follows rfl _ _ (hlenient _ _ _ ?_ nofun nofun) fun _ => rfl
    rintro _ ⟨⟩
    exact ⟨rfl, rfl⟩
  | identity => exact perform_follows rfl _ _ (hother _ nofun nofun nofun) fun _ => rfl
  | bind =>
    exact withArgument_follows fun _ _ =>
      perform_follows rfl _ _ (hother _ nofun nofun nofun) fun _ => rfl
  | send =>
    exact withArgument_follows fun _ _ =>
      perform_follows rfl _ _ (hother _ nofun nofun nofun) fun _ => rfl
  | sendTo =>
    exact withArgument_follows fun _ _ =>
      perform_follows rfl _ _ (hother _ nofun nofun nofun) fun _ => rfl
  | timer kind period token name =>
    refine Program.follows_perform_bind (hother _ nofun nofun nofun) fun r => ?_
    match r with
    | .error e => exact nofun
    | .ok id =>
      intro entry hentry
      obtain ⟨_, _, rfl⟩ := Option.map_eq_some_iff.mp hentry
      exact .inr rfl
  | cancel name =>
    simp only [act]
    split
    · exact nofun
    · rename_i id hid
      refine Program.follows_silent_bind (hlenient _ _ _ nofun ?_ nofun) (fun _ => rfl) fun _ => nofun
      rintro _ ⟨⟩
      -- only timers that were armed under a name can be looked up
      exact hs.timers _ (mem_of_lookup_eq_some hid)
  | await => exact perform_follows rfl _ _ (hother _ nofun nofun nofun) fun _ => rfl
  | complete =>
    exact Program.follows_silent_bind (hother _ nofun nofun nofun) (fun _ => rfl) fun _ => nofun
  | broadcast =>
    exact Program.follows_silent_bind (hother _ nofun nofun nofun) (fun _ => rfl) fun _ => nofun
  | say => exact Program.follows_silent_bind (hother _ nofun nofun nofun) (fun _ => rfl) fun _ => nofun
  | prompt => exact Program.follows_silent_bind (hother _ nofun nofun nofun) (fun _ => rfl) fun _ => nofun
  | install =>
    exact withArgument_follows fun _ _ =>
      perform_follows rfl _ _ (hother _ nofun nofun nofun) fun _ => rfl
  | registry command =>
    refine withArgument_follows fun command hcommand => perform_follows rfl _ _ ?_ fun _ => rfl
    exact haction command (congrArg _ hcommand)
  | info => exact Program.follows_silent_bind (hother _ nofun nofun nofun) (fun _ => rfl) fun _ => nofun

/-- Following permitted rules keeps a script to what it keeps to. -/
private lemma follow_follows {s : Script (Occupant P)} {steps : List (Step (Occupant P))}
    (hlenient : discipline.Lenient) (session : SessionId) (hs : s.Keeps discipline known)
    (hsteps : ∀ step ∈ steps, ∀ command, step.action = .registry (.ok command) →
      ∀ drivers known, discipline drivers known (.registry command)) :
    (follow session s steps).Follows (discipline drivers)
      (fun known result => result.2.Keeps discipline known) known := by
  induction steps generalizing s known with
  | nil => exact hs
  | cons step steps ih =>
    obtain ⟨hstep, hsteps⟩ := List.forall_mem_cons.mp hsteps
    have hact : (s.act session step.action).Follows (discipline drivers) Remembers known :=
      act_follows hlenient session hs fun command haction => hstep command haction _ _
    refine Program.follows_bind (hact.keep.mono (fun _ _ => id) ?_)
    rintro known' ⟨result, saved⟩ ⟨hknown, hsaved⟩
    refine Program.follows_silent_bind (hlenient _ _ _ nofun nofun nofun) (fun _ => rfl) fun _ => ?_
    -- the timers saved by this step were armed in it, so they are known from now on
    have hs' : ({ s with timers := saved.toList ++ s.timers } : Script (Occupant P)).Keeps
        discipline known' := by
      refine ⟨hs.commands, ?_⟩
      intro entry hentry
      rcases List.mem_append.mp hentry with hentry | hentry
      · exact hsaved entry (Option.mem_toList.mp hentry)
      · exact hknown (hs.timers entry hentry)
    split
    · split_ifs
      · exact hs'
      · exact ih hs' hsteps
    · exact ih hs' hsteps

private lemma respond_follows {s : Script (Occupant P)} (hlenient : discipline.Lenient)
    (hs : s.Keeps discipline known) (c : Callback) :
    (s.respond c).Follows (discipline drivers) (fun known result => result.2.Keeps discipline known)
      known := by
  refine Program.follows_silent_bind (hlenient _ _ _ nofun nofun nofun) (fun _ => rfl) fun view => ?_
  refine Program.follows_silent_bind (hlenient _ _ _ nofun nofun nofun) (fun _ => rfl) fun _ => ?_
  have hs' : ({ s with history := Kind.of c :: s.history } : Script (Occupant P)).Keeps discipline
      known := ⟨hs.commands, hs.timers⟩
  dsimp only
  split
  · exact hs'
  · rename_i rule hrule
    have hrule := hs.commands rule (List.mem_of_find?_eq_some hrule)
    exact Program.follows_bind (follow_follows hlenient (sessionOf c) hs' hrule)

/-! ### Scripts that leave locks alone -/

/-- Does the action neither change a lock nor put a driver into a slot by a command? -/
def Action.leavesLocks {D : Type} : Action D → Bool
  | .registry (.ok (.setDriver ..)) => false
  | .registry (.ok command) => !command.locks
  | _ => true

/-- No rule changes a lock, and the timers remembered are known ones. -/
structure Careful (known : Set TimerId) (s : Script (Occupant P)) : Prop where
  leavesLocks : ∀ rule ∈ s.rules, ∀ step ∈ rule.steps, step.action.leavesLocks
  timers : ∀ entry ∈ s.timers, entry.2 ∈ known

lemma Careful.keeps {s : Script (Occupant P)} (hs : s.Careful known) : s.Keeps Op.Careful known := by
  refine ⟨fun rule hrule step hstep command haction drivers known => ?_, hs.timers⟩
  have hleaves := hs.leavesLocks rule hrule step hstep
  rw [haction] at hleaves
  cases command with
  | setDriver => cases hleaves
  | lock | unlock => cases hleaves
  | addResource => simpa [Action.leavesLocks, Op.Careful] using hleaves
  | _ => rfl

end Script

lemma lenient_careful {P : Type} : Discipline.Lenient (Op.Careful : Discipline P) := by
  intro drivers known op hadd hcancel hcommand
  cases op with
  | addResource resource => exact hadd resource rfl
  | cancelTimer id => exact hcancel id rfl
  | registry command => exact absurd rfl (hcommand command)
  | _ => trivial

lemma lenient_tidy {P : Type} (pool : Nat) : Discipline.Lenient (Op.Tidy pool : Discipline P) := by
  intro drivers known op _ _ hcommand
  cases op with
  | registry command => exact absurd rfl (hcommand command)
  | _ => trivial

lemma lenient_loads {P : Type} : Discipline.Lenient (Op.Loads : Discipline P) := by
  intro drivers known op _ _ hcommand
  cases op with
  | registry command => exact absurd rfl (hcommand command)
  | _ => trivial

lemma lenient_installs {P : Type} : Discipline.Lenient (Op.Installs : Discipline P) := by
  intro drivers known op _ _ hcommand
  cases op with
  | registry command => exact absurd rfl (hcommand command)
  | _ => trivial

namespace TestDriver

variable {known : Set TimerId}

/-- A script in a slot keeps to what its commands keep to. -/
lemma keepsTo_scripted {discipline : Discipline TestDriver} (hlenient : discipline.Lenient)
    {s : Script (Occupant TestDriver)} (hs : s.Keeps discipline known) :
    (Occupant.loaded (TestDriver.scripted s)).KeepsTo discipline known := by
  refine ⟨fun known d => ∃ s, d = .loaded (TestDriver.scripted s) ∧ s.Keeps discipline known,
    ⟨s, rfl, hs⟩, ?_⟩
  rintro known _ ⟨s, rfl, hs⟩ c
  refine Program.follows_bind (Program.follows_bind ?_)
  refine (Script.respond_follows hlenient hs c).mono (fun _ _ => id) ?_
  intro known result hresult
  exact ⟨result.2, rfl, hresult⟩

/-- A script is careful in a slot if its rules change no lock. -/
lemma careful_scripted {s : Script (Occupant TestDriver)} (hs : s.Careful known) :
    (Occupant.loaded (TestDriver.scripted s)).Careful known :=
  keepsTo_scripted lenient_careful hs.keeps

/-- The silent driver looks at its slot at most. -/
lemma modest_silent : (Occupant.loaded TestDriver.silent).Modest := by
  refine ⟨∅, fun _ d => d = .loaded .silent, rfl, ?_⟩
  rintro known _ rfl c
  cases c with
  | request => exact ⟨trivial, fun _ => rfl⟩
  | _ => exact rfl

end TestDriver

end BoardLink
