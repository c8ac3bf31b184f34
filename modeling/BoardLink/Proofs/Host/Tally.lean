import BoardLink.Proofs.Host.Roster

/-!
# How often instances are initialised

The slots that wait to be initialised are given by their numbers, and a number may stand there more
than once. What is kept from one stage of a host to the next is the number of times that an instance
was initialised together with the number of times that its slot waits.
-/

namespace BoardLink.Host

variable {L P : Type} {h h' h'' : Host L P} {c c' c'' : Stage L P} {slot : SlotId} {n : Nat}
  {slots waiting rest : List SlotId}

/-! ### Tallies -/

/-- What becomes of the instances from one stage of a host to another: none comes back, and each is
initialised as often as its slot goes from the slots that wait. -/
structure Tally (c c' : Stage L P) : Prop where
  stays : ∀ slot n, n < c.1.nextSerial → c'.1.Holds slot n → c.1.Holds slot n
  comes : ∀ slot n, c.1.nextSerial ≤ n → c'.1.Holds slot n → slot ∈ c'.2
  fresh : ∀ n, c.1.nextSerial ≤ n → c'.1.journal.inits n = 0
  keeps : ∀ slot n, c.1.Holds slot n → c'.1.Holds slot n →
    c'.1.journal.inits n + c'.2.count slot = c.1.journal.inits n + c.2.count slot
  leaves : ∀ slot n, c.1.Holds slot n →
    c.1.journal.inits n ≤ c'.1.journal.inits n ∧
      c'.1.journal.inits n ≤ c.1.journal.inits n + c.2.count slot ∧
      c.1.journal.inits n + c.2.count slot ≤ c'.1.journal.inits n + c'.2.count slot
  gone : ∀ n, (∀ slot, ¬ c.1.Holds slot n) → c'.1.journal.inits n = c.1.journal.inits n

variable [Driver P]

/-- Some slots that waited had their turn and left others to be initialised before the rest. -/
structure Served (c c' : Stage L P) (served slots rest : List SlotId) : Prop where
  before : c.2 = served ++ rest
  after : c'.2 = slots ++ rest
  shifts : Shifts c.1 c'.1 slots
  holds : ∀ slot n, c.1.Holds slot n →
    c'.1.journal.inits n = c.1.journal.inits n + served.count slot
  gone : ∀ n, (∀ slot, ¬ c.1.Holds slot n) → c'.1.journal.inits n = c.1.journal.inits n

/-- Slots are manned, and nobody is called. -/
lemma Mans.served (hm : Mans h h' slots) (hr : h.Roster) (rest : List SlotId) :
    Served (h, rest) (h', slots ++ rest) [] slots rest :=
  ⟨rfl, rfl, hm.shifts hr, fun _ n _ => hm.journal.inits_eq n, fun n _ => hm.journal.inits_eq n⟩

lemma Served.tally {served : List SlotId} (hs : Served c c' served slots rest) (hr : c.1.Roster)
    (hunwrapped : c.1.Unwrapped c'.1) : Tally c c' := by
  have hholds := hs.shifts.holds hunwrapped
  have hnew (n : Nat) (hn : c.1.nextSerial ≤ n) (slot : SlotId) : ¬ c.1.Holds slot n := fun hold =>
    absurd (hr.seated.lt slot n hold) (Nat.not_lt_of_le hn)
  refine ⟨fun slot n hn hold => ?_, fun slot n hn hold => ?_, fun n hn => ?_,
    fun slot n hold hold' => ?_, fun slot n hold => ?_, hs.gone⟩
  · exact (hholds slot n hold).elim And.left fun hcome => absurd hn (Nat.not_lt_of_le hcome.1)
  · rw [hs.after]
    rcases hholds slot n hold with ⟨hold, _⟩ | ⟨_, _, hmem⟩
    · exact absurd hold (hnew n hn slot)
    · exact List.mem_append_left rest hmem
  · rw [hs.gone n (hnew n hn), Journal.inits, hr.calls n hn]
    rfl
  · -- a slot in which somebody stays was not filled
    have hnot : slot ∉ slots := by
      rcases hholds slot n hold' with ⟨_, hnot⟩ | ⟨hn, _⟩
      · exact hnot
      · exact absurd hold (hnew n hn slot)
    rw [hs.holds slot n hold, hs.before, hs.after, List.count_append, List.count_append,
      List.count_eq_zero_of_not_mem hnot]
    omega
  · rw [hs.holds slot n hold, hs.before, hs.after, List.count_append, List.count_append]
    omega

/-! ### Moves -/

variable [Link L] {s : Setting P}

/-- One turn of a host, or the start of its engine. -/
inductive Move (s : Setting P) : Stage L P → Stage L P → Prop
  | turn {c c' : Stage L P} (hturn : Turn s c c') : Move s c c'
  /-- The enumerator comes into its slot. -/
  | start {h h' h'' : Host L P} {name : String} {overloads : Overloads}
      (hfresh : h.installFresh .enumerator name = .ok h')
      (hset : h'.setDriver .enumerator (.enumerator (.ofOverloads overloads)) = .ok h'') :
      Move s (h, []) (h'', [.enumerator])

/-- Any number of moves in one setting. -/
abbrev Moves (s : Setting P) : Stage L P → Stage L P → Prop := Relation.ReflTransGen (Move s)

lemma Turns.moves (hturns : Turns s c c') : Moves s c c' :=
  Relation.ReflTransGen.mono (fun _ _ => Move.turn) _ _ hturns

omit [Link L] in
lemma start_mans {name : String} {overloads : Overloads}
    (hfresh : h.installFresh .enumerator name = .ok h')
    (hset : h'.setDriver .enumerator (.enumerator (.ofOverloads overloads)) = .ok h'') :
    Mans h h'' [.enumerator] := by
  obtain ⟨registry, hinstall, rfl⟩ := except_map_eq_ok.mp hfresh
  have hfilled : Mans h ({ h with registry }.record (.installed .enumerator (h.holders .enumerator)))
      [.enumerator] := .install hinstall (Nat.le_refl _) rfl fun _ => List.mem_singleton.mp
  exact hfilled.setDriver List.mem_cons_self hset (loads_enumerator overloads)

omit [Link L] in
lemma rung_mans (h : Host L P) (timers : TimerTable) (id : TimerId) (owner : SlotId) :
    Mans h (h.rung timers id owner) [] :=
  (Mans.record h timers (fun _ => rfl) fun _ => rfl).trans (.minor (expireReplies_minor _ owner id))

/-- Whoever is called in a slot that had its turn is initialised. -/
private lemma init_served {result : Except Error Unit}
    (hfactory : ∀ name driver, s.factory.create name = some driver → driver.Loads) (hr : h.Roster)
    (hcall : h.call s slot .init = some (result, h', slots)) (rest : List SlotId) :
    Served (h, slot :: rest) (h', slots ++ rest) [slot] slots rest := by
  obtain ⟨hshifts, m, hm, hcalls⟩ := call_shifts hfactory hr hcall
  refine ⟨rfl, rfl, hshifts, fun slot' n hn => ?_, fun n hn => ?_⟩
  · show (h'.journal.calls n).count .init = (h.journal.calls n).count .init + _
    rw [hcalls, List.count_append]
    -- the call is one more `init` for the instance in this slot and for nobody else
    by_cases heq : slot = slot'
    · subst heq
      rw [if_pos (hm.eq hn), List.count_singleton_self, List.count_singleton_self]
    · have hne : m ≠ n := by
        rintro rfl
        exact heq (hr.seated.unique _ _ m hm hn)
      rw [if_neg hne, List.count_nil, List.count_singleton, if_neg (by simpa using heq)]
  · have hne : m ≠ n := by
      rintro rfl
      exact hn slot hm
    rw [Journal.inits, hcalls, if_neg hne, List.append_nil]
    rfl

/-- A call for another reason initialises nobody. -/
private lemma call_served {cb : Callback} {result : cb.Result}
    (hfactory : ∀ name driver, s.factory.create name = some driver → driver.Loads) (hr : h.Roster)
    (hcall : h.call s slot cb = some (result, h', slots)) (hcb : cb ≠ .init) :
    Served (h, []) (h', slots) [] slots [] := by
  obtain ⟨hshifts, m, _, hcalls⟩ := call_shifts hfactory hr hcall
  have hinits (n : Nat) : h'.journal.inits n = h.journal.inits n := by
    rw [Journal.inits, hcalls, List.count_append]
    split_ifs
    · rw [List.count_singleton, if_neg (by simpa using hcb)]
      rfl
    · rfl
  exact ⟨rfl, (List.append_nil _).symm, hshifts, fun _ n _ => hinits n, fun n _ => hinits n⟩

omit [Link L] in
/-- Nobody came in before a call. -/
private lemma Served.of_mans (hm : Mans h h' []) (hs : Served (h', []) c [] slots []) :
    Served (h, []) c [] slots [] := by
  have hinits (n : Nat) : c.1.journal.inits n = h.journal.inits n := by
    rw [← hm.journal.inits_eq]
    by_cases hn : ∃ slot, h'.Holds slot n
    · obtain ⟨slot, hn⟩ := hn
      exact hs.holds slot n hn
    · exact hs.gone n (not_exists.mp hn)
  refine ⟨rfl, hs.after, ⟨⟨hs.shifts.roster, Nat.le_trans hm.nextSerial hs.shifts.nextSerial,
    fun slot => Nat.le_trans (hm.fills slot) (hs.shifts.fills slot)⟩,
    fun hunwrapped slot n hn => ?_⟩, fun _ n _ => hinits n, fun n _ => hinits n⟩
  have hunwrapped' : h'.Unwrapped c.1 := fun slot =>
    Nat.lt_of_lt_of_le (hunwrapped slot) (Nat.add_le_add_right (hm.fills slot) _)
  rcases hs.shifts.holds hunwrapped' slot n hn with ⟨hn, hnot⟩ | ⟨hle, hlt, hmem⟩
  · rcases hm.holds slot n hn with ⟨hn, _⟩ | ⟨_, _, hmem⟩
    · exact .inl ⟨hn, hnot⟩
    · cases hmem
  · exact .inr ⟨Nat.le_trans hm.nextSerial hle, hlt, hmem⟩

/-- Every turn serves slots that waited. -/
private lemma Turn.served (hturn : Turn s c c')
    (hfactory : ∀ name driver, s.factory.create name = some driver → driver.Loads)
    (hr : c.1.Roster) : ∃ served slots rest, Served c c' served slots rest := by
  -- where nobody comes in, no slot has its turn
  have hminor {h h' : Host L P} (hr : h.Roster) (hminor : Minor h h') (rest : List SlotId) :
      ∃ served slots rest', Served (h, rest) (h', rest) served slots rest' :=
    ⟨[], [], rest, (Mans.minor hminor).served hr rest⟩
  cases hturn with
  | @skip h slot rest hcall =>
    refine ⟨[slot], [], rest, rfl, rfl, (Mans.refl h).shifts hr, fun slot' n hn => ?_, fun _ _ => rfl⟩
    have hne : slot ≠ slot' := by
      rintro rfl
      obtain ⟨s', inst, hs, hinst, _⟩ := hn
      obtain ⟨_, _, htake⟩ := Registry.exists_takeDriver hs hinst
      simp only [Host.call, htake] at hcall
      cases hcall
    rw [List.count_singleton, if_neg (by simpa using hne)]
    rfl
  | @init h h' slot rest slots result hcall =>
    exact ⟨[slot], slots, rest, init_served hfactory hr hcall rest⟩
  | call hinit _ hcall => exact ⟨[], _, [], call_served hfactory hr hcall hinit⟩
  | @ring h h' id expiry timers _ slots _ hcall =>
    have hrung := rung_mans h timers id expiry.owner
    have hcalled := call_served hfactory (hrung.roster hr) hcall (by simp)
    exact ⟨[], slots, [], hcalled.of_mans hrung⟩
  | @lapse h id expiry timers =>
    exact ⟨[], [], [], (rung_mans h timers id expiry.owner).served hr []⟩
  | @load h h' slot name core hload =>
    have hmans := installDriver_mans hfactory h slot name core
    rw [hload] at hmans
    exact ⟨[], [slot], [], hmans.served hr []⟩
  | @refuse h h' slot name core err hload =>
    have hmans := installDriver_mans hfactory h slot name core
    rw [hload] at hmans
    exact ⟨[], [], [], hmans.served hr []⟩
  | transmit h transmitter slots =>
    have hsame : Minor h { h with transmitter } := .of_eq rfl rfl rfl rfl
    exact hminor hr hsame slots
  | tell h outbox =>
    have hsame : Minor h { h with outbox } := .of_eq rfl rfl rfl rfl
    exact hminor hr hsame []
  | arm h slot i session timeout token =>
    rcases armReply_minor h slot i session timeout token s.now with hunarmed | harms
    · exact hminor hr hunarmed []
    · exact ⟨[], [], [], (Mans.arms harms).served hr []⟩
  | abandon h slot i session => exact hminor hr (abandonReply_minor h slot i session) []
  | subscribe broadcast _ => exact hminor hr (.setResource _ _ _ _) []

private lemma Move.served (hmove : Move s c c')
    (hfactory : ∀ name driver, s.factory.create name = some driver → driver.Loads)
    (hr : c.1.Roster) : ∃ served slots rest, Served c c' served slots rest := by
  cases hmove with
  | turn hturn => exact hturn.served hfactory hr
  | start hfresh hset =>
    exact ⟨[], [.enumerator], [], (start_mans hfresh hset).served hr []⟩

/-! ### Many moves -/

omit [Link L] in
lemma Grows.unwrapped_left (hgrows : Grows h' h'') (hunwrapped : h.Unwrapped h'') : h.Unwrapped h' :=
  fun slot => Nat.lt_of_le_of_lt (hgrows.fills slot) (hunwrapped slot)

omit [Link L] in
lemma Grows.unwrapped_right (hgrows : Grows h h') (hunwrapped : h.Unwrapped h'') :
    h'.Unwrapped h'' :=
  fun slot => Nat.lt_of_lt_of_le (hunwrapped slot) (Nat.add_le_add_right (hgrows.fills slot) _)

variable (hfactory : ∀ name driver, s.factory.create name = some driver → driver.Loads)

include hfactory

lemma Move.grows (hmove : Move s c c') (hr : c.1.Roster) : Grows c.1 c'.1 := by
  obtain ⟨_, _, _, hserved⟩ := hmove.served hfactory hr
  exact hserved.shifts.toGrows

lemma Move.tally (hmove : Move s c c') (hr : c.1.Roster) (hunwrapped : c.1.Unwrapped c'.1) :
    Tally c c' := by
  obtain ⟨_, _, _, hserved⟩ := hmove.served hfactory hr
  exact hserved.tally hr hunwrapped

lemma Moves.grows (hmoves : Moves s c c') (hr : c.1.Roster) : Grows c.1 c'.1 := by
  induction hmoves with
  | refl => exact ⟨hr, Nat.le_refl _, fun _ => Nat.le_refl _⟩
  | tail _ hmove ih =>
    have hgrows := hmove.grows hfactory ih.roster
    exact ⟨hgrows.roster, Nat.le_trans ih.nextSerial hgrows.nextSerial,
      fun slot => Nat.le_trans (ih.fills slot) (hgrows.fills slot)⟩

/-- An instance that is gone stays away and is not initialised any more. -/
lemma Moves.gone (hmoves : Moves s c c') (hr : c.1.Roster) (hunwrapped : c.1.Unwrapped c'.1)
    (hn : n < c.1.nextSerial) (hgone : ∀ slot, ¬ c.1.Holds slot n) :
    (∀ slot, ¬ c'.1.Holds slot n) ∧ c'.1.journal.inits n = c.1.journal.inits n := by
  induction hmoves with
  | refl => exact ⟨hgone, rfl⟩
  | tail hmoves hmove ih =>
    have hgrows := Moves.grows hfactory hmoves hr
    have hgrows' := hmove.grows hfactory hgrows.roster
    obtain ⟨hgone', hinits⟩ := ih (hgrows'.unwrapped_left hunwrapped)
    have htally := hmove.tally hfactory hgrows.roster (hgrows.unwrapped_right hunwrapped)
    refine ⟨fun slot hold => ?_, (htally.gone n hgone').trans hinits⟩
    exact hgone' slot (htally.stays slot n (Nat.lt_of_lt_of_le hn hgrows.nextSerial) hold)

/-- As long as an instance is in its slot, each turn of the slot initialises it. If it leaves, it does
so at some stage, up to which the slot had so many turns. -/
lemma Moves.tally (hmoves : Moves s c c') (hr : c.1.Roster) (hunwrapped : c.1.Unwrapped c'.1)
    (hold : c.1.Holds slot n) :
    c.1.journal.inits n ≤ c'.1.journal.inits n ∧
    (c'.1.Holds slot n ∧
        c'.1.journal.inits n + c'.2.count slot = c.1.journal.inits n + c.2.count slot ∨
      ∃ d, Moves s c d ∧ Moves s d c' ∧ (∀ slot, ¬ d.1.Holds slot n) ∧
        d.1.journal.inits n = c'.1.journal.inits n ∧
        d.1.journal.inits n ≤ c.1.journal.inits n + c.2.count slot ∧
        c.1.journal.inits n + c.2.count slot ≤ d.1.journal.inits n + d.2.count slot) := by
  induction hmoves with
  | refl => exact ⟨Nat.le_refl _, .inl ⟨hold, rfl⟩⟩
  | @tail b c' hmoves hmove ih =>
    have hgrows := Moves.grows hfactory hmoves hr
    have hgrows' := hmove.grows hfactory hgrows.roster
    have htally := hmove.tally hfactory hgrows.roster (hgrows.unwrapped_right hunwrapped)
    have hn := Nat.lt_of_lt_of_le (hr.seated.lt slot n hold) hgrows.nextSerial
    -- two situations: the instance is still seated, or it left at `d` and its count stands since
    obtain ⟨hle, ⟨hheld, heq⟩ | ⟨d, hbefore, hafter, hgone, hsame, hupper, hlower⟩⟩ :=
      ih (hgrows'.unwrapped_left hunwrapped)
    · obtain ⟨hmore, hupper, hlower⟩ := htally.leaves slot n hheld
      refine ⟨Nat.le_trans hle hmore, ?_⟩
      -- this move may be the one in which it leaves
      by_cases hheld' : c'.1.Holds slot n
      · exact .inl ⟨hheld', (htally.keeps slot n hheld hheld').trans heq⟩
      · refine .inr ⟨c', hmoves.tail hmove, .refl, fun slot' hold' => ?_, rfl, heq ▸ hupper,
          heq ▸ hlower⟩
        have hslot := hgrows.roster.seated.unique slot' slot n (htally.stays slot' n hn hold') hheld
        exact hheld' (hslot ▸ hold')
    · have hgrows₀ := Moves.grows hfactory hbefore hr
      have hn₀ := Nat.lt_of_lt_of_le (hr.seated.lt slot n hold) hgrows₀.nextSerial
      -- an instance that has left never comes back
      have hgone' := Moves.gone hfactory (hafter.tail hmove) hgrows₀.roster
        (hgrows₀.unwrapped_right hunwrapped) hn₀ hgone
      have hinits := hgone'.2
      rw [hsame] at hinits
      exact ⟨hinits ▸ hle, .inr ⟨d, hbefore, hafter.tail hmove, hgone, hgone'.2.symm, hupper, hlower⟩⟩

omit hfactory in
/-- Every instance that came during moves came in one of them. -/
lemma Moves.exists_move (hmoves : Moves s c c') (hle : c.1.nextSerial ≤ n)
    (hlt : n < c'.1.nextSerial) : ∃ b d, Moves s c b ∧ Move s b d ∧ Moves s d c' ∧
      b.1.nextSerial ≤ n ∧ n < d.1.nextSerial := by
  induction hmoves with
  | refl => exact absurd hlt (Nat.not_lt_of_le hle)
  | @tail b d hmoves hmove ih =>
    rcases Nat.lt_or_ge n b.1.nextSerial with hb | hb
    · obtain ⟨b', d', hbefore, hmove', hafter, hle', hlt'⟩ := ih hb
      exact ⟨b', d', hbefore, hmove', hafter.tail hmove, hle', hlt'⟩
    · exact ⟨b, d, hmoves, hmove, .refl, hb, hlt⟩

/-! ### From one action to the next -/

/-- Where no slot waits at first, nobody who was there is initialised again. -/
lemma Moves.inits_older (hmoves : Moves s (h, []) c) (hr : h.Roster) (hunwrapped : h.Unwrapped c.1)
    (hn : n < h.nextSerial) : c.1.journal.inits n = h.journal.inits n := by
  by_cases hold : ∃ slot, h.Holds slot n
  · obtain ⟨slot, hold⟩ := hold
    obtain ⟨hle, hcases⟩ := Moves.tally hfactory hmoves hr hunwrapped hold
    refine Nat.le_antisymm ?_ hle
    rcases hcases with ⟨_, heq⟩ | ⟨d, _, _, _, hsame, hupper, _⟩
    · exact Nat.le_trans (Nat.le_add_right _ _) (Nat.le_of_eq heq)
    · exact hsame ▸ hupper
  · exact (Moves.gone hfactory hmoves hr hunwrapped hn (not_exists.mp hold)).2

/-- Who came in a move and did not stay is never initialised. -/
lemma Move.inits_replaced (hmove : Move s c c') (hmoves : Moves s c' c'') (hr : c.1.Roster)
    (hunwrapped : c.1.Unwrapped c''.1) (hle : c.1.nextSerial ≤ n) (hlt : n < c'.1.nextSerial)
    (hgone : ∀ slot, ¬ c'.1.Holds slot n) : c''.1.journal.inits n = 0 := by
  have hgrows := hmove.grows hfactory hr
  have hgrows' := Moves.grows hfactory hmoves hgrows.roster
  have htally := hmove.tally hfactory hr (hgrows'.unwrapped_left hunwrapped)
  have hgone := Moves.gone hfactory hmoves hgrows.roster (hgrows.unwrapped_right hunwrapped) hlt hgone
  exact hgone.2.trans (htally.fresh n hle)

/-- Who came in a move and stayed is initialised as often as its slot waits then, or another comes
into the slot while it still waits. -/
lemma Move.inits_stayed (hmove : Move s c c') (hmoves : Moves s c' (h, [])) (hr : c.1.Roster)
    (hunwrapped : c.1.Unwrapped h) (hle : c.1.nextSerial ≤ n) (hold : c'.1.Holds slot n) :
    slot ∈ c'.2 ∧ h.journal.inits n ≤ c'.2.count slot ∧
      (h.journal.inits n = c'.2.count slot ∨
        ∃ d, Moves s c' d ∧ Moves s d (h, []) ∧ slot ∈ d.2 ∧ ¬ d.1.Holds slot n) := by
  have hgrows := hmove.grows hfactory hr
  have hgrows' := Moves.grows hfactory hmoves hgrows.roster
  have htally := hmove.tally hfactory hr (hgrows'.unwrapped_left hunwrapped)
  obtain ⟨_, hcases⟩ := Moves.tally hfactory hmoves hgrows.roster
    (hgrows.unwrapped_right hunwrapped) hold
  rw [htally.fresh n hle, Nat.zero_add] at hcases
  refine ⟨htally.comes slot n hle hold, ?_⟩
  rcases hcases with ⟨_, heq⟩ | ⟨d, hbefore, hafter, hgone, hsame, hupper, hlower⟩
  · have heq : h.journal.inits n = c'.2.count slot := heq
    exact ⟨Nat.le_of_eq heq, .inl heq⟩
  · have hsame : d.1.journal.inits n = h.journal.inits n := hsame
    rw [hsame] at hupper hlower
    refine ⟨hupper, (Nat.eq_or_lt_of_le hupper).imp_right fun hlt => ?_⟩
    refine ⟨d, hbefore, hafter, List.count_pos_iff.mp ?_, hgone slot⟩
    omega

/-- If no slot ever waits twice, nobody is initialised twice of those who came. -/
lemma Moves.inits_le_one (hmoves : Moves s c (h, [])) (hr : c.1.Roster) (hunwrapped : c.1.Unwrapped h)
    (hnodup : ∀ d, Moves s c d → Moves s d (h, []) → d.2.Nodup) (hle : c.1.nextSerial ≤ n) :
    h.journal.inits n ≤ 1 := by
  have hroster : h.Roster := (Moves.grows hfactory hmoves hr).roster
  rcases Nat.lt_or_ge n h.nextSerial with hlt | hge
  · obtain ⟨b, d, hbefore, hmove, hafter, hb, hd⟩ := Moves.exists_move hmoves hle hlt
    have hgrows := Moves.grows hfactory hbefore hr
    have hunwrapped := hgrows.unwrapped_right hunwrapped
    by_cases hold : ∃ slot, d.1.Holds slot n
    · obtain ⟨slot, hold⟩ := hold
      obtain ⟨_, hcount, _⟩ :=
        hmove.inits_stayed hfactory hafter hgrows.roster hunwrapped hb hold
      have hwaits := hnodup d (hbefore.tail hmove) hafter
      exact Nat.le_trans hcount (List.nodup_iff_count.mp hwaits slot)
    · have hnever := hmove.inits_replaced hfactory hafter hgrows.roster hunwrapped hb hd
        (not_exists.mp hold)
      have hnever : h.journal.inits n = 0 := hnever
      exact hnever ▸ Nat.zero_le 1
  · rw [Journal.inits, hroster.calls n hge]
    exact Nat.zero_le 1

end BoardLink.Host
