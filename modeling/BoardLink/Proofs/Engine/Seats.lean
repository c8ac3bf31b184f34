import BoardLink.Link.Memory
import BoardLink.Proofs.Driver.Script
import BoardLink.Proofs.Engine.Initialisation
import BoardLink.Proofs.Host.Crew

/-!
# Nobody is lost and nobody comes back

With drivers that change who is in a slot only by loading drivers, an action leaves everybody in place
whose slot it did not fill. A slot that it did fill has whoever was loaded into it last, and those
that were there before, be it while they were called, are gone for good.
-/

namespace BoardLink.Engine

open Host (Moves Seats loads_of_installs)

variable {L P : Type} [Link L] [Driver P] {options : EngineOptions} {factory : Factory P}
  {e e' : Engine L P} {now : Nat}

/-- In every run with drivers that change who is in a slot only by loading drivers, nobody else is in
a slot. -/
lemma Reachable.crew (he : Reachable options factory e)
    (hfactory : ∀ name driver, factory.create name = some driver → driver.Installs) :
    e.host.Crew := by
  induction he with
  | create link limit =>
    intro slot s inst hs
    cases (Registry.slot?_empty options.maxSlots options.maxResources slot).symm.trans hs
  | act now a he hact ih =>
    have hr := he.roster (loads_of_installs hfactory)
    have hfactory' := he.fixed.factory.symm ▸ hfactory
    exact (Moves.reseats (act_moves hact) hfactory' hr ih).crew

omit [Link L] in
/-- At the start the enumerator has come into its slot if nobody came after it, whoever is known by
its name. -/
private lemma start_known {h h' h'' : Host L P} {dropped : List SessionId} {n : Nat}
    {entries : Journal}
    (hstart : Seats factory (· = .enumerator) h h'
      (.installed .enumerator dropped :: Journal.coming .enumerator (some n)))
    (hs : Seats factory (fun _ => False) h' h'' entries) :
    let all := .installed .enumerator dropped :: Journal.coming .enumerator (some n) ++ entries
    ∀ slot name held, Journal.fills all slot ≠ 0 → h''.seat slot = some (name, held) →
      (held.isSome ↔ (factory.create name).isSome ∨
        slot = .enumerator ∧ Journal.fills all slot = 1) := by
  intro all slot name held hfilled hheld
  -- the start itself fills the first slot once
  have hall : Journal.fills all slot = (if slot = .enumerator then 1 else 0) + entries.fills slot := by
    rw [Journal.fills_append, Journal.fills_cons, Journal.fills_coming, Entry.fills, Nat.zero_add]
    simp only [decide_eq_true_eq, @eq_comm _ SlotId.enumerator]
  -- without a later load the enumerator is still there
  by_cases hlater : entries.fills slot = 0
  · have hslot : slot = .enumerator := by
      by_contra hslot
      rw [hall, if_neg hslot, hlater] at hfilled
      exact hfilled rfl
    subst hslot
    obtain ⟨_, held', hseat, hcome⟩ :=
      hstart.comes .enumerator [] dropped _ rfl (Journal.fills_coming _ _ _)
    cases ((hs.stays _ hlater).1.trans hseat).symm.trans hheld
    rw [Journal.comers_coming, if_pos rfl] at hcome
    refine iff_of_true ?_ (.inr ⟨rfl, by rw [hall, if_pos rfl, hlater]⟩)
    cases held with
    | none => cases hcome
    | some m => rfl
  -- a later load fills the slot once more
  · rw [hs.known slot name held hlater not_false hheld]
    refine (or_iff_left ?_).symm
    rintro ⟨hslot, hone⟩
    rw [hall, if_pos hslot] at hone
    omega

/-- Who is in which slot after an action. -/
private lemma act_seats (hr : e.host.Roster) (hc : e.host.Crew)
    (hfactory : ∀ name driver, e.factory.create name = some driver → driver.Installs)
    {a : Action L} (hact : e.act now a = some e') (hunwrapped : e.host.Unwrapped e'.host) :
    ∃ entries, Seats e.factory (· = .enumerator) e.host e'.host entries ∧
      ∀ slot name held, entries.fills slot ≠ 0 → e'.host.seat slot = some (name, held) →
        (held.isSome ↔ (e.factory.create name).isSome ∨
          a = .start ∧ slot = .enumerator ∧ entries.fills slot = 1) := by
  by_cases hstart : a = .start
  · subst hstart
    simp only [true_and]
    obtain ⟨⟨r, e₁⟩, hstart, rfl⟩ := Option.map_eq_some_iff.mp hact
    rcases start_turns hstart with ⟨_, rfl⟩ | ⟨host, host', hfresh, hset, hturns⟩
    · exact ⟨[], .refl _, fun slot _ _ hfilled => absurd rfl hfilled⟩
    · have hcome : Seats e.factory (· = .enumerator) e.host host'
          (.installed .enumerator (e.host.holders .enumerator) ::
            Journal.coming .enumerator (some e.host.nextSerial)) := Host.start_seats hfresh hset
      have hgrows := ((Host.start_mans hfresh hset).shifts hr).toGrows
      obtain ⟨entries, hs⟩ := (hturns.reseats hfactory hgrows.roster (hc.of_hires hcome.hires)).seats
        (hgrows.unwrapped_right hunwrapped)
      exact ⟨_, hcome.trans (hs.mono fun _ => False.elim), start_known hcome hs⟩
  · obtain ⟨entries, hs⟩ := ((act_turns hact hstart).reseats hfactory hr hc).seats hunwrapped
    refine ⟨entries, hs.mono fun _ => False.elim, fun slot name held hfilled hheld => ?_⟩
    rw [hs.known slot name held hfilled not_false hheld]
    exact (or_iff_left fun h => hstart h.1).symm

/-- With drivers that change who is in a slot only by loading drivers, an action leaves a slot that it
did not fill to the instance that was there before, if there was one, and a slot that it filled to the
instance that came into it since it was filled for the last time. One came just when the factory knows
the name that was asked for, or when it was the enumerator at its start. At all stages on the way an
instance that was in a slot, or came into it, before the slot was filled is in no slot any more, nor
is one that was in no slot before. -/
theorem Reachable.seats_last_loaded (he : Reachable options factory e)
    (hfactory : ∀ name driver, factory.create name = some driver → driver.Installs)
    {a : Action L} (hact : e.act now a = some e') (hunwrapped : e.host.Unwrapped e'.host) :
    (∃ entries : Journal, e'.host.journal = e.host.journal ++ entries ∧
      (∀ slot, entries.fills slot = 0 → e'.host.seat slot = e.host.seat slot) ∧
      ∀ slot before dropped after, entries = before ++ .installed slot dropped :: after →
        Journal.fills after slot = 0 →
          ∃ name held, e'.host.seat slot = some (name, held) ∧
            held.toList = Journal.comers after slot ∧ (∀ n ∈ held, e.host.nextSerial ≤ n) ∧
            (held.isSome ↔ (factory.create name).isSome ∨
              a = .start ∧ slot = .enumerator ∧ entries.fills slot = 1)) ∧
    Moves (e.setting now) (e.host, []) (e'.host, []) ∧
    ∀ b c, Moves (e.setting now) (e.host, []) b → Moves (e.setting now) b c →
      Moves (e.setting now) c (e'.host, []) →
        ∃ entries, c.1.journal = b.1.journal ++ entries ∧
          (∀ n, b.1.Replaces entries n → ∀ slot, ¬ c.1.Holds slot n) ∧
          ∀ n < b.1.nextSerial, (∀ slot, ¬ b.1.Holds slot n) → ∀ slot, ¬ c.1.Holds slot n := by
  have hr := he.roster (loads_of_installs hfactory)
  have hc := he.crew hfactory
  rw [← he.fixed.factory] at hfactory
  have hmoves := act_moves hact
  refine ⟨?_, hmoves, fun b c hbefore hmid hafter => ?_⟩
  · obtain ⟨entries, hs, hknown⟩ := act_seats hr hc hfactory hact hunwrapped
    refine ⟨entries, hs.journal, fun slot hfills => (hs.stays slot hfills).1, ?_⟩
    intro slot before dropped after heq hlast
    obtain ⟨name, held, hseat, hheld⟩ := hs.comes slot before dropped after heq hlast
    have hmem (entry : Entry) (hentry : entry ∈ .installed slot dropped :: after) :
        entry ∈ entries := by
      rw [heq]
      exact List.mem_append_right before hentry
    have hfilled := Journal.fills_ne_zero (hmem _ List.mem_cons_self)
    rw [← he.fixed.factory]
    -- who comes into the slot after its last load came in this action
    refine ⟨name, held, hseat, hheld, fun n hn => ?_, hknown slot name held hfilled hseat⟩
    have hcome : .created n slot ∈ after := by
      rw [← Journal.mem_comers, ← hheld]
      exact Option.mem_toList.mpr hn
    exact (hs.range n (Journal.mem_serials (hmem _ (List.mem_cons_of_mem _ hcome)))).1
  · have hloads := loads_of_installs hfactory
    have hb := Moves.reseats hbefore hfactory hr hc
    have hunwrapped := hb.toGrows.unwrapped_right hunwrapped
    have hmid' := Moves.reseats hmid hfactory hb.roster hb.crew
    have hunwrapped := (Moves.grows hloads hafter hmid'.roster).unwrapped_left hunwrapped
    obtain ⟨entries, hs⟩ := hmid'.seats hunwrapped
    refine ⟨entries, hs.journal, fun n hn => hs.gone hb.roster.seated hn, fun n hn hgone => ?_⟩
    exact (Moves.gone hloads hmid hb.roster hunwrapped hn hgone).1

/-- A driver loads another one, which loads a third one, and puts itself out by a name that nobody
knows. The slot of the first is empty then, the others have come, and a bystander has stayed. -/
theorem seats_last_loaded_self :
    let child : Script (Occupant TestDriver) := { rules := [
      { kind := .init, conditions := [], steps := [⟨.install ⟨3⟩ "leaf" (.ok none), false⟩] }] }
    let parent : Script (Occupant TestDriver) := { rules := [
      { kind := .init, conditions := [], steps := [⟨.addResource "go" 1, false⟩] },
      { kind := .request, conditions := []
        steps := [⟨.install ⟨2⟩ "child" (.ok none), false⟩, ⟨.install ⟨1⟩ "nobody" (.ok none), false⟩]
        reply := some (.text "gone") }] }
    let factory : Factory TestDriver :=
      { drivers := [("child", .loaded (.scripted child)), ("leaf", .loaded (.scripted { rules := [] })),
          ("parent", .loaded (.scripted parent))] }
    let options : EngineOptions :=
      { bufferSize := 1, maxSlots := 4, maxResources := 1, maxTimers := 0, ackTimeout := 100
        tracePackets := false, overloads := [] }
    ∃ e e' : Engine MemoryLink TestDriver, Reachable options factory e ∧
      (∀ name driver, factory.create name = some driver → driver.Installs) ∧
      e.act 0 (.request ⟨1⟩ "go" ⟨7⟩ .get) = some e' ∧ e.host.Unwrapped e'.host ∧
      e.host.seat ⟨1⟩ = some ("parent", some 1) ∧ e'.host.seat ⟨1⟩ = some ("nobody", none) ∧
      (∀ slot, ¬ e'.host.Holds slot 1) ∧ e'.host.seat ⟨0⟩ = some ("leaf", some 0) ∧
      (∃ n ≥ 2, e'.host.seat ⟨2⟩ = some ("child", some n)) ∧
      ∃ n ≥ 2, e'.host.seat ⟨3⟩ = some ("leaf", some n) := by
  intro child parent factory options
  have hfactory : ∀ name driver, factory.create name = some driver → driver.Installs := by
    intro name driver hcreate
    have hscript (script : Script (Occupant TestDriver)) (hkeeps : script.Keeps Op.Installs ∅) :
        (Occupant.loaded (TestDriver.scripted script)).Installs :=
      ⟨∅, TestDriver.keepsTo_scripted lenient_installs hkeeps⟩
    simp only [factory, Factory.create, List.lookup_cons, List.lookup_nil] at hcreate
    split at hcreate
    · cases hcreate
      exact hscript child ⟨by simp [child], List.forall_mem_nil _⟩
    · split at hcreate
      · cases hcreate
        exact hscript _ ⟨List.forall_mem_nil _, List.forall_mem_nil _⟩
      · split at hcreate
        · cases hcreate
          exact hscript parent ⟨by simp [parent], List.forall_mem_nil _⟩
        · cases hcreate
  let new : Engine MemoryLink TestDriver := { create options {} factory with initLimit := 3 }
  let run := (new.act 0 (.install ⟨0⟩ "leaf" none)).bind fun e₁ =>
    (e₁.act 0 (.install ⟨1⟩ "parent" none)).bind fun e =>
      (e.act 0 (.request ⟨1⟩ "go" ⟨7⟩ .get)).map fun e' => (e, e')
  have hbefore : run.map (fun r => (r.1.host.seat ⟨0⟩, r.1.host.seat ⟨1⟩, r.1.host.nextSerial)) =
      some (some ("leaf", some 0), some ("parent", some 1), 2) := by
    decide +kernel
  have hafter : run.map (fun r => (r.2.host.journal.length, [0, 1, 2, 3].map fun i =>
      (r.2.host.journal.fills ⟨i⟩ - r.1.host.journal.fills ⟨i⟩,
        (r.2.host.seat ⟨i⟩).map Prod.fst))) =
      some (23, [(0, some "leaf"), (1, some "nobody"), (1, some "child"), (1, some "leaf")]) := by
    decide +kernel
  obtain ⟨⟨e, e'⟩, hrun, hbefore⟩ := Option.map_eq_some_iff.mp hbefore
  rw [hrun] at hafter
  simp only [Option.map_some, Option.some.injEq, Prod.mk.injEq, List.map_cons, List.map_nil,
    List.cons.injEq, and_true] at hbefore hafter
  obtain ⟨hbystander, hcaller, hserial⟩ := hbefore
  obtain ⟨hlength, ⟨hfills₀, _⟩, ⟨hfills₁, hname₁⟩, ⟨hfills₂, hname₂⟩, hfills₃, hname₃⟩ := hafter
  obtain ⟨e₁, hleaf, hrun⟩ := Option.bind_eq_some_iff.mp hrun
  obtain ⟨_, hparent, hrun⟩ := Option.bind_eq_some_iff.mp hrun
  obtain ⟨_, hrequest, hrun⟩ := Option.map_eq_some_iff.mp hrun
  cases hrun
  have hnew : Reachable options factory new := .create ({} : MemoryLink) 3
  have he : Reachable options factory e := .act 0 _ (.act 0 _ hnew hleaf) hparent
  have hunwrapped : e.host.Unwrapped e'.host := by
    intro slot
    have hle : e'.host.journal.fills slot ≤ e'.host.journal.length := List.countP_le_length
    rw [hlength] at hle
    exact Nat.lt_of_le_of_lt hle (Nat.lt_of_lt_of_le (by decide) (Nat.le_add_left _ _))
  obtain ⟨⟨entries, hjournal, hstays, hcomes⟩, hmoves, hgone⟩ :=
    he.seats_last_loaded hfactory hrequest hunwrapped
  have hfills (slot : SlotId) :
      e'.host.journal.fills slot - e.host.journal.fills slot = entries.fills slot := by
    rw [hjournal, Journal.fills_append, Nat.add_sub_cancel_left]
  rw [hfills] at hfills₀ hfills₁ hfills₂ hfills₃
  -- who is in a slot that was filled
  have hlast {slot : SlotId} {name : String} (hfilled : entries.fills slot = 1)
      (hname : (e'.host.seat slot).map Prod.fst = some name) :
      ∃ held, e'.host.seat slot = some (name, held) ∧ (∀ n ∈ held, n ≥ 2) ∧
        (held.isSome ↔ (factory.create name).isSome) := by
    obtain ⟨before, dropped, after, heq, hafter⟩ := Journal.exists_last_fill (hfilled ▸ one_ne_zero)
    obtain ⟨name', held, hseat, _, hnew, hknown⟩ := hcomes slot before dropped after heq hafter
    rw [hseat] at hname
    cases hname
    rw [hserial] at hnew
    exact ⟨held, hseat, hnew, hknown.trans (or_iff_left (by simp))⟩
  have hcame {slot : SlotId} {name : String} (hfilled : entries.fills slot = 1)
      (hname : (e'.host.seat slot).map Prod.fst = some name) (hknown : (factory.create name).isSome) :
      ∃ n ≥ 2, e'.host.seat slot = some (name, some n) := by
    obtain ⟨held, hseat, hnew, hiff⟩ := hlast hfilled hname
    obtain ⟨n, rfl⟩ := Option.isSome_iff_exists.mp (hiff.mpr hknown)
    exact ⟨n, hnew n rfl, hseat⟩
  refine ⟨e, e', he, hfactory, hrequest, hunwrapped, hcaller, ?_, ?_, (hstays _ hfills₀).trans hbystander,
    hcame hfills₂ hname₂ rfl, hcame hfills₃ hname₃ rfl⟩
  · obtain ⟨held, hseat, _, hiff⟩ := hlast hfills₁ hname₁
    cases held with
    | none => exact hseat
    | some n => cases hiff.mp rfl
  · obtain ⟨entries', hjournal', hreplaced, _⟩ := hgone _ _ .refl hmoves .refl
    cases List.append_cancel_left (hjournal'.symm.trans hjournal)
    exact hreplaced 1 ⟨⟨1⟩, .inl ⟨Host.holds_iff_seat.mpr ⟨_, hcaller⟩, hfills₁ ▸ one_ne_zero⟩⟩

end BoardLink.Engine
