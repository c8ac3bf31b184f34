import BoardLink.Proofs.Host.Run
import BoardLink.Proofs.Timer.Releases

/-!
# Timers that are armed anew

A driver that cancels its timer and arms another one gets the same entry in its next generation. So when
it does this 2³² times in one call, the timer has the identifier again under which it was cancelled first.
-/

namespace BoardLink

variable {L P : Type}

/-- Cancels a timer and arms another one instead, so many times. -/
def Program.rearm (period token : Nat) : Nat → TimerId → Program P TimerId
  | 0, id => return id
  | rounds + 1, id => do
    let _ ← Program.perform (.cancelTimer id)
    match ← Program.perform (.addTimer .oneShot period token) with
    | .ok id => rearm period token rounds id
    | .error _ => return id

namespace Host

variable [Link L] (s : Setting P) (slot : SlotId) (period token : Nat) {h : Host L P} {id : TimerId}
  {timer : Timer}

/-- The first round arms the timer in the next generation, and then the rounds after it run. -/
private lemma run_rearm_succ (hwell : h.timers.WellFormed)
    (hget : h.timers.get? id = some timer) (rounds : Nat) :
    ∃ timers : TimerTable,
      run s slot (.rearm period token (rounds + 1) id) h =
        run s slot (.rearm period token rounds ⟨id.entry, id.generation + 1⟩)
          ({ h with timers }.record (.armed ⟨id.entry, id.generation + 1⟩ slot)) ∧
      timers.WellFormed ∧
      timers.get? ⟨id.entry, id.generation + 1⟩ =
        some { kind := .oneShot, deadline := s.now + period, period, owner := slot, token } := by
  obtain ⟨timers, hadd⟩ := TimerTable.add_of_cancel hget period slot token s.now
  have harmed := TimerTable.armed_add (TimerTable.thinned_cancel hwell id).wellFormed hadd
  refine ⟨timers, ?_, harmed.wellFormed, (harmed.get? _).trans (if_pos rfl)⟩
  have hcancel : h.perform s slot (.cancelTimer id) =
      ((h.timers.cancel id).1, { h with timers := (h.timers.cancel id).2 }) := rfl
  have harm : { h with timers := (h.timers.cancel id).2 }.perform s slot
      (.addTimer .oneShot period token) =
        (.ok ⟨id.entry, id.generation + 1⟩,
          { h with timers }.record (.armed ⟨id.entry, id.generation + 1⟩ slot)) := by
    simp only [perform, hadd]
  -- the rest of the run stays unopened; only this round is executed
  rcases hrest : run s slot (.rearm period token rounds ⟨id.entry, id.generation + 1⟩)
    ({ h with timers }.record (.armed ⟨id.entry, id.generation + 1⟩ slot)) with ⟨r, h', slots⟩
  rw [hrest]
  exact run_bind (run_perform hcancel) (run_bind (run_perform harm) hrest)

/-- After so many rounds the timer is in the same entry, so many generations later. -/
lemma run_rearm (hwell : h.timers.WellFormed) (hget : h.timers.get? id = some timer)
    (rounds : Nat) :
    ∃ timers entries,
      run s slot (.rearm period token (rounds + 1) id) h =
        (⟨id.entry, id.generation + .ofNat (rounds + 1)⟩,
          { h with timers, journal := h.journal ++ entries }, []) ∧
      timers.get? ⟨id.entry, id.generation + .ofNat (rounds + 1)⟩ =
        some { kind := .oneShot, deadline := s.now + period, period, owner := slot, token } ∧
      .armed ⟨id.entry, id.generation + .ofNat (rounds + 1)⟩ slot ∈ entries := by
  induction rounds generalizing h id timer with
  | zero =>
    obtain ⟨timers, hround, _, hnew⟩ := run_rearm_succ s slot period token hwell hget 0
    exact ⟨timers, _, hround, hnew, List.mem_singleton_self _⟩
  | succ rounds ih =>
    obtain ⟨timers, hround, hwell', hnew⟩ := run_rearm_succ s slot period token hwell hget
      (rounds + 1)
    obtain ⟨timers', entries, hrun, hlast, hmem⟩ := ih (h := { h with timers }.record
      (.armed ⟨id.entry, id.generation + 1⟩ slot)) hwell' hnew
    -- the generation counts modulo 2 ^ 32, so the two sums agree without any bound on `rounds`
    have hgeneration : id.generation + 1 + .ofNat (rounds + 1) =
        id.generation + .ofNat (rounds + 1 + 1) := by
      rw [UInt32.ofNat_add (rounds + 1) 1, UInt32.add_comm _ (UInt32.ofNat 1), UInt32.add_assoc]
      rfl
    rw [hgeneration] at hrun hlast hmem
    refine ⟨timers', .armed ⟨id.entry, id.generation + 1⟩ slot :: entries, ?_, hlast,
      List.mem_cons_of_mem _ hmem⟩
    rw [hround, hrun]
    simp [record]

end Host

end BoardLink
