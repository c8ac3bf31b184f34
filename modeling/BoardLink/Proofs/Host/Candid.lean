import BoardLink.Proofs.Host.Balance

/-!
# What becomes of waits is told

The journal says of every wait how it began and how it ended, and the users are told of answers and of
those that did not come.
-/

namespace BoardLink.Host

variable {L P : Type} {h h' : Host L P}

private lemma Idle.tally (hidle : Idle h h') : h'.journal.tally = h.journal.tally := by
  obtain ⟨entries, hjournal, hentries⟩ := hidle.journal
  rw [hjournal]
  exact Journal.tally_append fun entry hentry => .inl (hentries entry hentry)

private lemma installDriver_tally (h : Host L P) (factory : Factory P) (slot : SlotId)
    (name : String) (core : Option CoreId) :
    (h.installDriver factory slot name core).2.journal.tally = h.journal.tally := by
  refine installDriver_rel (R := fun h h' => h'.journal.tally = h.journal.tally)
    (fun hfirst hsecond => hsecond.trans hfirst) (vacate_idle h slot core).tally ?_ ?_ ?_
  · intro h h' hinstall
    obtain ⟨registry, _, rfl⟩ := except_map_eq_ok.mp hinstall
    exact Journal.tally_append fun entry hentry => .inr ⟨_, _, List.mem_singleton.mp hentry⟩
  · intro h h' hbind
    exact (bindTo_idle hbind).tally
  · intro h h' hload
    exact (loadDriver_idle hload).tally

private lemma command_tally (h : Host L P) (c : Registry.Command (Occupant P)) :
    (h.command c).2.journal.tally = h.journal.tally := by
  simp only [command]
  split
  · rfl
  · apply Journal.tally_append
    intro entry hentry
    simp only [commandEntries] at hentry
    split at hentry
    · exact .inr ⟨_, _, List.mem_singleton.mp hentry⟩
    · exact .inr ⟨_, _, List.mem_singleton.mp hentry⟩
    · rw [List.mem_singleton.mp hentry]
      exact .inl rfl
    · cases hentry

variable [Link L]

/-- The journal counts the beginnings and the ends of waits, and the users are told of each end that
they are to be told of: with one text and then a prompt, for the session that waited. -/
structure Candid (h : Host L P) : Prop where
  /-- A wait begins just when a lock and a timer for it can be had. -/
  arm : ∀ slot i session timeout token now,
    (∃ e, h.armReply slot i session timeout token now = (.error e, h)) ∨
      ∃ timer h', h.armReply slot i session timeout token now = (.ok (), h') ∧
        (h.registry.resource? slot i).bind Resource.lock = none ∧
        (h'.registry.resource? slot i).bind Resource.lock = some session ∧
        h'.journal = h.journal ++ [.armed timer slot, .locked slot i session] ∧ h'.outbox = h.outbox
  /-- An answer goes to the session that waits, if there is one. -/
  complete : ∀ slot i text, ∃ h',
    h.completeReply slot i text = ((h.registry.resource? slot i).bind Resource.lock, h') ∧
      match (h.registry.resource? slot i).bind Resource.lock with
      | none => h'.journal = h.journal ∧ h'.outbox = h.outbox
      | some session => h'.journal = h.journal ++ [.answered slot i session] ∧
        h'.outbox.events = h.outbox.events ++ [.send session text, .prompt session]
  /-- A failed request gives up the lock of its own session. -/
  abandon : ∀ slot i session,
    (h.abandonReply slot i session).outbox = h.outbox ∧
      (h.abandonReply slot i session).journal =
        if (h.registry.resource? slot i).bind Resource.lock = some session then
          h.journal ++ [.abandoned slot i session]
        else h.journal
  /-- When a timer fires, all whose wait it was to end are told that no answer came. -/
  expire : ∀ owner timer, ∃ waiting : List (Nat × SessionId), waiting.Nodup ∧
    (∀ i session, (i, session) ∈ waiting ↔ ∃ r, h.registry.resource? owner i = some r ∧
      r.pendingTimer = some timer ∧ r.lock = some session) ∧
    (h.expireReplies owner timer).journal =
      h.journal ++ waiting.map (fun (i, session) => .expired owner i session) ∧
    (h.expireReplies owner timer).outbox.events =
      h.outbox.events ++ waiting.flatMap fun (_, session) => [.send session noAck, .prompt session]
  /-- Nothing else that drivers can do is counted. -/
  others : ∀ setting slot op, (∀ i session token, op ≠ .awaitReply i session token) →
    (∀ i text, op ≠ .completeReply i text) →
    (h.perform setting slot op).2.journal.tally = h.journal.tally

lemma candid (h : Host L P) : h.Candid where
  arm slot i session timeout token now := by
    rcases armReply_cases h slot i session timeout token now with
        herror | ⟨r, timer, timers, hr, hlock, _, heq⟩
    · exact .inl herror
    · refine .inr ⟨timer, _, heq, ?_, ?_, List.append_assoc .., rfl⟩
      · rw [hr, Option.bind_some, hlock]
      · have hwait := Registry.wait_setResource hr
          { r with lock := some session, pendingTimer := some timer } slot i
        rw [if_pos ⟨rfl, rfl⟩] at hwait
        exact congrArg Prod.fst hwait
  complete slot i text := by
    refine ⟨(h.completeReply slot i text).2, ?_⟩
    rcases completeReply_cases h slot i text with
        ⟨hnone, heq⟩ | ⟨r, hsettled, hresult, hjournal, houtbox⟩
    · rw [hnone, heq]
      exact ⟨rfl, rfl, rfl⟩
    -- the text goes out to the session whose lock was held, and to nobody when none was
    · rw [hsettled.resource, Option.bind_some]
      refine ⟨Prod.ext hresult rfl, ?_⟩
      cases hlock : r.lock with
      | none =>
        rw [hlock] at hjournal houtbox
        exact ⟨hjournal.trans (List.append_nil _), houtbox⟩
      | some session =>
        rw [hlock] at hjournal houtbox
        refine ⟨hjournal, ?_⟩
        rw [houtbox]
        exact List.append_assoc ..
  abandon slot i session := by
    rcases abandonReply_cases h slot i session with
        ⟨hne, heq⟩ | ⟨r, hsettled, hlock, hjournal, houtbox⟩
    · rw [heq, if_neg hne]
      exact ⟨rfl, rfl⟩
    · rw [hsettled.resource, Option.bind_some, if_pos hlock]
      exact ⟨houtbox, hjournal⟩
  expire owner timer := by
    refine ⟨h.waitingFor owner timer, nodup_waitingFor h owner timer, ?_,
      journal_expireReplies h owner timer, events_expireReplies h owner timer⟩
    -- the sessions told are read off the registry before the locks are cleared
    intro i session
    rw [mem_waitingFor, Registry.wait]
    cases h.registry.resource? owner i with
    | none => simp
    | some r => simp [and_comm]
  -- of what is left only an installation, a new resource or a command can touch a wait
  others setting slot op hawait hcomplete := by
    cases hposts : op.posts with
    | false => exact (perform_idle hposts).tally
    | true =>
      cases op with
      | awaitReply i session token => exact absurd rfl (hawait i session token)
      | completeReply i text => exact absurd rfl (hcomplete i text)
      | installDriver target name core => exact installDriver_tally h _ target name core
      | addResource => exact congrArg Journal.tally (onSlot_journal ..)
      | registry command => exact command_tally h command
      | _ => cases hposts

end BoardLink.Host
