import BoardLink.Proofs.Host.Idle

/-!
# Balanced books

As long as nobody changes a lock directly, the journal is a proper ledger whose open waits are the
locks held, and the answers that were found missing are the waits that expired.
-/

namespace BoardLink.Host

variable {L P : Type} {h h' : Host L P} {slot : SlotId} {i : Nat} {session : SessionId}

/-- The waits that the journal leaves open are those of all who hold locks, each lock has a timer
beside it, and every answer found missing is a wait that expired. -/
structure Balanced (h : Host L P) : Prop where
  held : ∃ ws, h.journal.waits? = some ws ∧ h.registry.Held ws
  paired : h.registry.Paired
  missingAcks : h.transmitter.stats.missingAcks = h.journal.expiries

/-- The books are kept when the entries that come in say what becomes of the open waits. -/
lemma Balanced.post {entries : Journal} (hb : h.Balanced)
    (hjournal : h'.journal = h.journal ++ entries)
    (hbook : ∀ ws, h.registry.Held ws →
      ∃ ws', entries.foldlM Entry.book ws = some ws' ∧ h'.registry.Held ws')
    (hpaired : h'.registry.Paired)
    (hacks : h'.transmitter.stats.missingAcks =
      h.transmitter.stats.missingAcks + entries.expiries) : h'.Balanced := by
  obtain ⟨ws, hws, hheld⟩ := hb.held
  obtain ⟨ws', hws', hheld'⟩ := hbook ws hheld
  refine ⟨⟨ws', ?_, hheld'⟩, hpaired, ?_⟩
  · rw [hjournal, Journal.waits?_append, hws]
    exact hws'
  · rw [hacks, hb.missingAcks, hjournal, Journal.expiries_append]

lemma Idle.balanced (hidle : Idle h h') (hb : h.Balanced) : h'.Balanced := by
  obtain ⟨entries, hjournal, hentries⟩ := hidle.journal
  refine hb.post hjournal ?_ ?_ ?_
  · intro ws hheld
    refine ⟨ws, Journal.foldlM_of_isIdle hentries ws, hheld.nodup, ?_⟩
    rw [hidle.wait]
    exact hheld.mem
  · rw [Registry.Paired, hidle.wait]
    exact hb.paired
  · rw [hidle.missingAcks, Journal.expiries_of_isIdle hentries]
    rfl

/-! ### Where waits begin and end -/

/-- A lock is taken, with a timer beside it. -/
private lemma awaiting_balanced {r : Resource} {timer : TimerId} {timers : TimerTable}
    (hb : h.Balanced) (hr : h.registry.resource? slot i = some r) (hlock : r.lock = none) :
    (h.awaiting slot i session r timer timers).Balanced := by
  have hwait : ∀ slot' j, (h.awaiting slot i session r timer timers).registry.wait slot' j =
      if slot' = slot ∧ j = i then (some session, some timer) else h.registry.wait slot' j :=
    Registry.wait_setResource hr _
  have hfree : (h.registry.wait slot i).1 = none := by
    rw [Registry.wait_of_resource? hr, hlock]
  have hjournal : (h.awaiting slot i session r timer timers).journal =
      h.journal ++ [.armed timer slot, .locked slot i session] := List.append_assoc ..
  refine hb.post hjournal ?_ (hb.paired.of_ite hwait rfl) rfl
  intro ws hheld
  obtain ⟨hnew, hheld'⟩ := hheld.take hfree hwait
  refine ⟨_, ?_, hheld'⟩
  have hnone : ¬ ∃ w ∈ ws, w.slot = slot ∧ w.resource = i := fun ⟨w, hw, hplace⟩ => hnew w hw hplace
  simp [Entry.book, if_neg hnone]

lemma armReply_balanced (hb : h.Balanced) (slot : SlotId) (i : Nat) (session : SessionId)
    (timeout token now : Nat) : (h.armReply slot i session timeout token now).2.Balanced := by
  rcases armReply_cases h slot i session timeout token now with
      ⟨_, heq⟩ | ⟨r, timer, timers, hr, hlock, _, heq⟩
  · rw [heq]
    exact hb
  · rw [heq]
    exact awaiting_balanced hb hr hlock

/-- A lock is given up together with its timer, and one entry says how the wait ended. -/
private lemma Settled.balanced {r : Resource} {entry : SessionId → Entry}
    (hsettled : Settled h slot i r h') (hb : h.Balanced)
    (hjournal : h'.journal = h.journal ++ (r.lock.map entry).toList)
    (hentry : ∀ session, entry session = .answered slot i session ∨
      entry session = .abandoned slot i session) : h'.Balanced := by
  have hwait : ∀ slot' j, h'.registry.wait slot' j =
      if slot' = slot ∧ j = i then (none, none) else h.registry.wait slot' j := by
    rw [hsettled.registry]
    exact Registry.wait_setResource hsettled.resource r.settle
  have hheld := Registry.wait_of_resource? hsettled.resource
  have hacks : h'.transmitter.stats.missingAcks = h.transmitter.stats.missingAcks := by
    rw [hsettled.transmitter]
  cases hlock : r.lock with
  | none =>
    -- whoever does not wait has no timer either, so nothing changes
    have htimer : r.pendingTimer = none := by
      have hpaired := hb.paired slot i
      simpa [hheld, hlock] using hpaired
    refine Idle.balanced (.of_journal_eq ?_ ?_ hacks) hb
    · funext slot' j
      rw [hwait]
      split_ifs with hplace
      · rw [hplace.1, hplace.2, hheld, hlock, htimer]
      · rfl
    · rw [hjournal, hlock]
      exact List.append_nil _
  | some session =>
    rw [hlock] at hjournal hheld
    refine hb.post hjournal ?_ (hb.paired.of_ite hwait rfl) ?_
    · intro ws hws
      obtain ⟨hopen, hws'⟩ := hws.release (congrArg Prod.fst hheld) hwait
      refine ⟨_, ?_, hws'⟩
      rcases hentry session with heq | heq
      all_goals simp [heq, Entry.book, if_pos hopen]
    · rw [hacks]
      rcases hentry session with heq | heq <;> simp [heq, Journal.expiries]

lemma completeReply_balanced (hb : h.Balanced) (slot : SlotId) (i : Nat) (text : String) :
    (h.completeReply slot i text).2.Balanced := by
  rcases completeReply_cases h slot i text with ⟨_, heq⟩ | ⟨r, hsettled, _, hjournal, _⟩
  · rw [heq]
    exact hb
  · exact hsettled.balanced hb hjournal fun _ => .inl rfl

lemma abandonReply_balanced (hb : h.Balanced) (slot : SlotId) (i : Nat) (session : SessionId) :
    (h.abandonReply slot i session).Balanced := by
  rcases abandonReply_cases h slot i session with ⟨_, heq⟩ | ⟨r, hsettled, hlock, hjournal, _⟩
  · rw [heq]
    exact hb
  · have hgiven : (h.abandonReply slot i session).journal =
        h.journal ++ (r.lock.map fun session => .abandoned slot i session).toList := by
      rw [hjournal, hlock]
      rfl
    exact hsettled.balanced hb hgiven fun _ => .inr rfl

/-- The sessions that wait for a timer of a slot, with the numbers of the resources. -/
def waitingFor (h : Host L P) (owner : SlotId) (timer : TimerId) : List (Nat × SessionId) :=
  match h.registry.slot? owner with
  | none => []
  | some s => s.waiting fun r => r.pendingTimer = some timer

lemma mem_waitingFor {timer : TimerId} :
    (i, session) ∈ h.waitingFor slot timer ↔ h.registry.wait slot i = (some session, some timer) := by
  simp only [waitingFor, Registry.wait, Registry.resource?]
  split
  · rename_i hs
    simp [hs]
  · rename_i s hs
    rw [hs, Slot.mem_waiting, Option.bind_some]
    cases s.resource? i with
    | none => simp
    | some r => simp [and_comm]

lemma nodup_waitingFor (h : Host L P) (owner : SlotId) (timer : TimerId) :
    (h.waitingFor owner timer).Nodup := by
  simp only [waitingFor]
  split
  · exact .nil
  · exact Slot.nodup_waiting _ _

/-- Every session that waited for the timer is told, in the order of the resources. -/
lemma events_expireReplies (h : Host L P) (owner : SlotId) (timer : TimerId) :
    (h.expireReplies owner timer).outbox.events = h.outbox.events ++
      (h.waitingFor owner timer).flatMap fun (_, session) =>
        [.send session noAck, .prompt session] := by
  have htold (waiting : List (Nat × SessionId)) (o : Outbox) :
      (waiting.foldl (fun o (_, session) => o.answer session noAck) o).events =
        o.events ++ waiting.flatMap fun (_, session) => [.send session noAck, .prompt session] := by
    induction waiting generalizing o with
    | nil => exact (List.append_nil _).symm
    | cons p waiting ih =>
      rw [List.foldl_cons, ih]
      simp [Outbox.answer, Outbox.send, Outbox.prompt]
  cases hs : h.registry.slot? owner with
  | none =>
    simp only [expireReplies, waitingFor, hs]
    exact (List.append_nil _).symm
  | some s =>
    simp only [expireReplies, waitingFor, hs]
    exact htold _ _

lemma journal_expireReplies (h : Host L P) (owner : SlotId) (timer : TimerId) :
    (h.expireReplies owner timer).journal = h.journal ++
      (h.waitingFor owner timer).map fun (i, session) => .expired owner i session := by
  cases hs : h.registry.slot? owner with
  | none =>
    simp only [expireReplies, waitingFor, hs]
    exact (List.append_nil _).symm
  | some s =>
    simp only [expireReplies, waitingFor, hs]
    rfl

private lemma wait_expireReplies (h : Host L P) (owner : SlotId) (timer : TimerId) (slot : SlotId)
    (i : Nat) : (h.expireReplies owner timer).registry.wait slot i =
      if slot = owner ∧ (h.registry.wait slot i).2 = some timer then (none, none)
      else h.registry.wait slot i := by
  simp only [expireReplies]
  split
  · rename_i hs
    rw [if_neg]
    rintro ⟨rfl, htimer⟩
    rw [Registry.wait_of_free hs] at htimer
    cases htimer
  · rename_i s hs
    show (h.registry.setSlot owner (Registry.expired s timer)).wait slot i = _
    rw [(Registry.updated_setSlot hs _).wait]
    by_cases hslot : slot = owner
    · rw [if_pos hslot, Registry.wait_expired, hslot, Registry.wait_of_slot? hs]
      simp
    · rw [if_neg hslot, if_neg fun h => hslot h.1]

/-- Where every timer beside a resource has a lock, all that expire are told. -/
private lemma missingAcks_expireReplies (hb : h.Balanced) (owner : SlotId) (timer : TimerId) :
    (h.expireReplies owner timer).transmitter.stats.missingAcks =
      h.transmitter.stats.missingAcks + (h.waitingFor owner timer).length := by
  cases hs : h.registry.slot? owner with
  | none => simp only [expireReplies, waitingFor, hs, List.length_nil, Nat.add_zero]
  | some s =>
    simp only [expireReplies, waitingFor, hs, Slot.waiting]
    congr 1
    refine (List.filterMap_length_eq_length.mpr ?_).symm
    rintro ⟨r, i⟩ hmem
    obtain ⟨hmem, htimer⟩ := List.mem_filter.mp hmem
    have hr : s.resource? i = some r := List.mem_zipIdx_iff_getElem?.mp hmem
    have hpaired := hb.paired owner i
    rw [Registry.wait_of_slot? hs, Slot.wait_of_resource? hr, of_decide_eq_true htimer] at hpaired
    rw [Option.isSome_map]
    exact hpaired

lemma expireReplies_balanced (hb : h.Balanced) (owner : SlotId) (timer : TimerId) :
    (h.expireReplies owner timer).Balanced := by
  have hwait := wait_expireReplies h owner timer
  refine hb.post (journal_expireReplies h owner timer) ?_ (hb.paired.of_ite hwait rfl) ?_
  · intro ws hheld
    -- each wait this timer ends is on the book, so the whole batch of expiries can be written down at once
    have hopen : ∀ p ∈ h.waitingFor owner timer, ⟨owner, p.1, p.2⟩ ∈ ws := by
      intro p hp
      rw [hheld.mem, mem_waitingFor.mp hp]
    obtain ⟨ws', hbook, hnodup', hws'⟩ :=
      Journal.foldlM_expired hheld.nodup (nodup_waitingFor h owner timer) hopen
    refine ⟨ws', hbook, hnodup', ?_⟩
    rintro ⟨slot, i, session⟩
    rw [hws', hheld.mem, mem_waitingFor, hwait]
    dsimp only
    split_ifs with hgone
    · obtain ⟨rfl, htimer⟩ := hgone
      simp [Prod.ext_iff, htimer]
    · refine and_iff_left ?_
      rintro ⟨rfl, hwait⟩
      exact hgone ⟨rfl, congrArg Prod.snd hwait⟩
  · rw [missingAcks_expireReplies hb, Journal.expiries, List.countP_map]
    congr 1
    exact (List.countP_eq_length.mpr fun _ _ => rfl).symm

/-! ### Filling slots -/

/-- The sessions that lose their locks are those whose waits in the slot are open. -/
private lemma holders_perm {ws : List Wait} (hheld : h.registry.Held ws) (slot : SlotId) :
    (h.holders slot).Perm ((ws.filter fun w => w.slot = slot).map Wait.session) := by
  cases hs : h.registry.slot? slot with
  | none =>
    rw [holders, hs, hheld.filter_of_free hs]
    exact .nil
  | some s =>
    rw [holders, hs]
    exact hheld.holders_perm hs

/-- All waits in a slot end when it is filled anew. -/
private lemma install_balanced {name : String} {registry : Registry (Instance P)} (hb : h.Balanced)
    (hinstall : h.registry.install slot name = .ok registry) (hregistry : h'.registry = registry)
    (hjournal : h'.journal = h.journal ++ [.installed slot (h.holders slot)])
    (htransmitter : h'.transmitter = h.transmitter) : h'.Balanced := by
  have hwait : ∀ slot' i, h'.registry.wait slot' i =
      if slot' = slot then (none, none) else h.registry.wait slot' i := by
    rw [hregistry]
    exact Registry.wait_install hinstall
  refine hb.post hjournal ?_ (hb.paired.of_ite hwait rfl) ?_
  · intro ws hheld
    refine ⟨_, ?_, hheld.vacate hwait⟩
    simp [Entry.book, holders_perm hheld slot]
  · rw [htransmitter]
    rfl

lemma installFresh_balanced {name : String} (hinstall : h.installFresh slot name = .ok h')
    (hb : h.Balanced) : h'.Balanced := by
  obtain ⟨registry, hregistry, rfl⟩ := except_map_eq_ok.mp hinstall
  exact install_balanced hb hregistry rfl rfl rfl

lemma installDriver_balanced (hb : h.Balanced) (factory : Factory P) (slot : SlotId) (name : String)
    (core : Option CoreId) : (h.installDriver factory slot name core).2.Balanced := by
  refine installDriver_rel (R := fun h h' => h.Balanced → h'.Balanced)
    (fun hfirst hsecond hb => hsecond (hfirst hb)) (vacate_idle h slot core).balanced ?_ ?_ ?_ hb
  · exact installFresh_balanced
  · intro h h' hbind
    exact (bindTo_idle hbind).balanced
  · intro h h' hload
    exact (loadDriver_idle hload).balanced

/-- A command that changes no lock keeps the books. -/
private lemma command_balanced {c : Registry.Command (Occupant P)} (hb : h.Balanced)
    (hc : c.locks = false) : (h.command c).2.Balanced := by
  simp only [command]
  split
  · exact hb
  · rename_i answer registry hperform
    -- a fresh slot drops its waits; every other permitted command leaves all waits alone
    cases hfills : c.fills with
    | true =>
      cases c with
      | allocate name =>
        obtain ⟨⟨slot, registry⟩, hallocate, heq⟩ := except_map_eq_ok.mp hperform
        cases heq
        exact install_balanced hb (Registry.install_of_allocate hallocate) rfl rfl rfl
      | install slot name =>
        obtain ⟨registry, hinstall, heq⟩ := except_map_eq_ok.mp hperform
        cases heq
        exact install_balanced hb hinstall rfl rfl rfl
      | _ => cases hfills
    | false =>
      refine Idle.balanced ⟨?_, ⟨_, rfl, ?_⟩, rfl⟩ hb
      · apply Registry.wait_perform hperform
        · exact (Registry.Command.locks_map _ c).trans hc
        · cases c <;> first | rfl | cases hfills
      · intro entry hentry
        cases c with
        | allocate | install => cases hfills
        | setDriver slot driver =>
          cases List.mem_singleton.mp hentry
          rfl
        | _ => cases hentry

/-! ### Operations -/

variable [Link L] {setting : Setting P}

/-- An operation that changes no lock directly keeps the books. -/
lemma perform_balanced {op : Op P} (hb : h.Balanced) (hop : op.locks = false) :
    (h.perform setting slot op).2.Balanced := by
  cases hposts : op.posts with
  | false => exact (perform_idle hposts).balanced hb
  | true =>
    cases op with
    | awaitReply resource session token => exact armReply_balanced hb slot resource session _ token _
    | completeReply resource text => exact completeReply_balanced hb slot resource text
    | installDriver target name core => exact installDriver_balanced hb _ target name core
    | addResource => cases hop.symm.trans hposts
    | registry command => exact command_balanced hb hop
    | _ => cases hposts

end BoardLink.Host
