import BoardLink.Proofs.Host.Assigned
import BoardLink.Proofs.Host.Turns

/-!
# Nothing left to load

Drivers that fill no slots, and the enumerator once it has no assignment left, fill slots at most when
a packet comes. So all other calls of them come to an end, and every slot keeps its name.
-/

namespace BoardLink

/-! ### Drivers that have nothing to load -/

section Drivers

variable {P : Type}

/-- The enumerator is modest in the calls in which it fills no slots. -/
lemma Op.Asks.modest {drivers : Set TimerId → Occupant P → Prop} {known : Set TimerId} {op : Op P}
    (h : Op.Asks known op) : Op.Modest drivers known op := by
  obtain ⟨henumerates, hfills⟩ := h
  cases op with
  | installDriver => cases hfills
  | registry command =>
    cases command with
    | setDriver => cases henumerates
    | _ => exact hfills
  | _ => trivial

namespace Enumerator

/-- Without assignments the enumerator fills slots only when a packet comes. -/
lemma respond_asks_of_nil {e : Enumerator} {c : Callback} (hnil : e.overloads = [])
    (hc : ∀ p, c ≠ .packet p) :
    (e.respond c : Program P _).Follows Op.Asks (fun _ result => result.2.overloads = [])
      {id | e.ackTimer = some id} := by
  -- the timeout is the one callback that loads, and here nothing is left to load
  cases htimeout : timesOut c with
  | false =>
    have hnone : answer? c = none := by
      cases c with
      | packet p => exact absurd rfl (hc p)
      | _ => rfl
    have hknows : e.Knows {id | e.ackTimer = some id} := fun id hid => hid
    exact (respond_asks hknows (.inl hnone) htimeout).mono (fun _ _ => id)
      fun _ _ hwaits => hwaits.overloads.trans hnil
  | true =>
    cases c with
    | timer token =>
      have htoken : token = ackToken := by simpa [timesOut] using htimeout
      apply Program.follows_bind
      rw [timer, if_pos htoken, loadRemaining, hnil]
      exact rfl
    | _ => cases htimeout

end Enumerator

variable [Driver P]

/-- The driver fills no slots at all, or it is the enumerator with no assignment left. -/
def Occupant.Spent (d : Occupant P) : Prop :=
  d.Modest ∨ ∃ e, d = .enumerator e ∧ e.overloads = []

/-- A driver that has nothing to load fills slots at most when a packet comes. -/
lemma Occupant.Spent.respond {d : Occupant P} (h : d.Spent) {c : Callback}
    (hc : ∀ p, c ≠ .packet p) :
    ∃ known, (d.respond c).Follows (Op.Modest (Occupant.KeepsTo Op.Modest))
      (fun _ result => result.2.Spent) known := by
  rcases h with ⟨known, hmodest⟩ | ⟨e, rfl, hnil⟩
  · exact ⟨known, (hmodest.respond modest_monotone c).mono (fun _ _ => id)
      fun known _ hkeeps => .inl ⟨known, hkeeps⟩⟩
  · have hasks : (e.respond c : Program P _).Follows Op.Asks _ _ :=
      Enumerator.respond_asks_of_nil hnil hc
    refine ⟨_, Program.follows_bind (hasks.mono (fun _ _ => Op.Asks.modest) ?_)⟩
    exact fun _ result hrest => .inr ⟨result.2, rfl, hrest⟩

end Drivers

/-! ### Slots -/

namespace Registry

variable {P : Type} [Driver P] {r r' r'' : Registry (Instance P)} {id : SlotId}
  {s s' : Slot (Instance P)}

/-- Nobody has anything to load. -/
def Spent (r : Registry (Instance P)) : Prop :=
  ∀ id s inst, r.slot? id = some s → s.driver = some inst → inst.driver.Spent

/-- All slots keep their names, and nobody comes into them who has anything to load. -/
structure Rests (r r' : Registry (Instance P)) : Prop where
  names : SameNames r r'
  hires : Hires (fun inst => inst.driver.Spent) r r'

lemma Rests.trans (h : Rests r r') (h' : Rests r' r'') : Rests r r'' :=
  ⟨h.names.trans h'.names, h.hires.trans h'.hires⟩

lemma Rests.refl (r : Registry (Instance P)) : Rests r r := ⟨.refl r, (Unchanged.refl r).hires⟩

lemma Rests.spent (h : Rests r r') (hspent : r.Spent) : r'.Spent := by
  intro id s inst hs hinst
  rcases h.hires id s inst hs hinst with ⟨s', hs', hinst'⟩ | hnew
  · exact hspent id s' inst hs' hinst'
  · exact hnew

end Registry

namespace Host

open Registry

variable {L P : Type} [Link L] [Driver P] {setting : Setting P} {slot : SlotId} {h h' : Host L P}

/-! ### Calls -/

/-- A program that fills no slots leaves none to be initialised, and all slots keep their names. -/
private lemma run_rests {α : Type} {known : Set TimerId} {post : Set TimerId → α → Prop}
    {p : Program P α} (setting : Setting P) (slot : SlotId)
    (hp : p.Follows (Op.Modest (Occupant.KeepsTo Op.Modest)) post known) (h : Host L P) :
    ((run setting slot p h).2.2 = [] ∧ Rests h.registry (run setting slot p h).2.1.registry) ∧
      ∃ known', post known' (run setting slot p h).1 := by
  refine run_follows (R := fun h h' slots => slots = [] ∧ Rests h.registry h'.registry)
    (fun h => ⟨rfl, .refl _⟩) ?_ (fun {h known op} hop => ⟨?_, ?_⟩) hp h
  · rintro h h' h'' _ _ ⟨rfl, hrests⟩ ⟨rfl, hrests'⟩
    exact ⟨rfl, hrests.trans hrests'⟩
  · exact spawned_eq_nil (by rintro _ _ _ rfl; cases hop) _
  · have hstaffs : Staffs (fun inst => inst.driver.Spent) h (h.perform setting slot op).2 :=
      perform_staffs fun driver _ _ hbrings => .inl (modest_of_brings driver hop hbrings)
    exact ⟨perform_sameNames hop.fills, hstaffs.hires⟩

/-- Where nobody has anything to load, a call that is not for a packet fills no slot. -/
lemma call_rests (hspent : h.registry.Spent) {c : Callback} (hc : ∀ p, c ≠ .packet p)
    {result : c.Result} {slots : List SlotId}
    (hcall : h.call setting slot c = some (result, h', slots)) :
    slots = [] ∧ Rests h.registry h'.registry := by
  obtain ⟨inst, generation, taken, driver, h₁, htake, hrun, rfl⟩ := call_eq_some hcall
  obtain ⟨s, hs, hinst, hupdated⟩ := takeDriver_cases htake
  obtain ⟨known, hfollows⟩ := (hspent slot s inst hs hinst).respond hc
  have hduring := run_rests setting slot hfollows
    ({ h with registry := taken }.record (.called slot inst.serial c))
  rw [hrun] at hduring
  obtain ⟨⟨hslots, hrests⟩, _, hdriver⟩ := hduring
  have htaken : Rests h.registry taken := ⟨hupdated.sameNames hs rfl, hupdated.hires_of_none rfl⟩
  -- the spent enumerator comes back spent, or its slot was given to another meanwhile
  refine ⟨hslots, (htaken.trans hrests).trans ?_⟩
  rcases restoreDriver_cases h₁.registry slot { inst with driver } generation with
      heq | ⟨s₁, hs₁, _, hback⟩
  · rw [heq]
    exact .refl _
  · refine ⟨hback.sameNames hs₁ rfl, hback.hires fun inst' hinst' => ?_⟩
    cases hinst'
    exact .inr hdriver

/-- Such drivers are initialised one after the other, and then no slot is left. -/
lemma initialise_rests (setting : Setting P) {limit : Nat} {slots : List SlotId}
    (hspent : h.registry.Spent) (hlimit : slots.length ≤ limit) :
    ∃ h', initialise setting limit slots h = some h' ∧ Rests h.registry h'.registry := by
  induction slots generalizing limit h with
  | nil => exact ⟨h, initialise_nil setting limit h, .refl _⟩
  | cons slot slots ih =>
    obtain ⟨limit, rfl⟩ := Nat.exists_eq_succ_of_ne_zero (Nat.ne_zero_of_lt hlimit)
    have hlimit : slots.length ≤ limit := Nat.le_of_succ_le_succ hlimit
    simp only [initialise]
    cases hcall : h.call setting slot .init with
    | none => exact ih hspent hlimit
    | some called =>
      obtain ⟨result, h₁, _⟩ := called
      obtain ⟨rfl, hfirst⟩ := call_rests hspent (fun _ => Callback.noConfusion) hcall
      obtain ⟨h', hinit, hrest⟩ := ih (hfirst.spent hspent) hlimit
      exact ⟨h', hinit, hfirst.trans hrest⟩

omit [Link L] in
/-- The end of a wait is nothing to names and drivers. -/
lemma rung_rests (h : Host L P) (timers : TimerTable) (id : TimerId) (owner : SlotId) :
    Rests h.registry (h.rung timers id owner).registry := by
  let fired : Host L P := { h with timers }.record (.fired id owner)
  have hstaffs : Staffs (fun inst => inst.driver.Spent) fired (fired.expireReplies owner id) :=
    expireReplies_staffs fired owner id
  exact ⟨expireReplies_sameNames fired owner id, hstaffs.hires⟩

end Host

end BoardLink
