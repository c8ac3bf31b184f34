import BoardLink.Proofs.Host.Balance
import BoardLink.Proofs.Host.Turns

/-!
# Waits that time out

When a timer fires, the waits that it ends are over in the slot of its owner: the resource is free again,
and the session that waited is told. In other slots nothing happens, whatever resource names the timer
there.
-/

namespace BoardLink.Host

variable {L P : Type} {h : Host L P} {owner : SlotId} {id : TimerId}

/-- The wait of a session is over without an answer: the resource is free, and the session is told. -/
structure TimesOut (h h' : Host L P) (slot : SlotId) (i : Nat) (res : Resource)
    (session : SessionId) : Prop where
  freed : h'.registry.resource? slot i = some { res with lock := none, pendingTimer := none }
  told : ∃ before after, h'.outbox.events =
    h.outbox.events ++ before ++ [.send session noAck, .prompt session] ++ after

/-- Every wait that a timer guards is over once it fired. -/
lemma rung_timesOut {i : Nat} {res : Resource} {session : SessionId} (timers : TimerTable)
    (hres : h.registry.resource? owner i = some res)
    (htimer : res.pendingTimer = some id) (hlock : res.lock = some session) :
    TimesOut h (h.rung timers id owner) owner i res session := by
  obtain ⟨slot, hslot, hfound⟩ := Registry.resource?_eq_some.mp hres
  constructor
  · have hexpired : (Registry.expired slot id).resource? i = some res.settle := by
      have hmap : (Registry.expired slot id).resource? i =
          (slot.resource? i).map fun r => if r.pendingTimer = some id then r.settle else r :=
        List.getElem?_map
      rw [hmap, hfound, Option.map_some, if_pos htimer]
    have hslot' := (Registry.updated_setSlot hslot (Registry.expired slot id)).slot? owner
    rw [if_pos rfl] at hslot'
    simp only [rung, expireReplies, record, hslot]
    exact Registry.resource?_eq_some.mpr ⟨_, hslot', hexpired⟩
  · have hwaiting : (i, session) ∈
        ({ h with timers }.record (.fired id owner)).waitingFor owner id := by
      rw [mem_waitingFor]
      show h.registry.wait owner i = _
      rw [Registry.wait_of_slot? hslot, Slot.wait_of_resource? hfound, hlock, htimer]
    -- the event of this resource stands somewhere among those of the slot; the rest goes before and after
    obtain ⟨before, after, hsplit⟩ := List.append_of_mem hwaiting
    have hevents := events_expireReplies ({ h with timers }.record (.fired id owner)) owner id
    rw [hsplit, List.flatMap_append, List.flatMap_cons, ← List.append_assoc, ← List.append_assoc]
      at hevents
    exact ⟨_, _, hevents⟩

/-- A timer that fires frees resources in the slot of its owner only. -/
lemma resource?_rung {slot : SlotId} (timers : TimerTable) (hslot : slot ≠ owner) (i : Nat) :
    (h.rung timers id owner).registry.resource? slot i = h.registry.resource? slot i := by
  simp only [rung, expireReplies]
  split
  · rfl
  · rename_i s hs
    have hother := (Registry.updated_setSlot hs (Registry.expired s id)).slot? slot
    rw [if_neg hslot] at hother
    exact congrArg (·.bind fun s => s.resource? i) hother

/-- What comes of the waits when a timer of this owner fires. -/
structure Rings (h h' : Host L P) (owner : SlotId) (id : TimerId) : Prop where
  timesOut : ∀ i res session, h.registry.resource? owner i = some res →
    res.pendingTimer = some id → res.lock = some session → TimesOut h h' owner i res session
  elsewhere : ∀ slot ≠ owner, ∀ i, h'.registry.resource? slot i = h.registry.resource? slot i

lemma rings_rung (timers : TimerTable) : Rings h (h.rung timers id owner) owner id where
  timesOut _ _ _ hres htimer hlock := rung_timesOut timers hres htimer hlock
  elsewhere _ hslot i := resource?_rung timers hslot i

end BoardLink.Host
