import BoardLink.Proofs.Engine.Run
import BoardLink.Proofs.Host.Turns

/-!
# Turns of an engine

Every action of an engine is a sequence of turns of its host, at whose beginning and end no slot
waits to be initialised. Only the start fills the enumerator's slot before the first turn.
-/

namespace BoardLink.Engine

open Host (Turns)

variable {L P : Type} [Link L] [Driver P] {e e' e'' : Engine L P} {now : Nat}

/-! ### Calls of drivers -/

lemma initialise_turns {slots : List SlotId} (h : e.initialise now slots = some e') :
    Turns (e.setting now) (e.host, slots) (e'.host, []) := by
  obtain ⟨host, hhost, rfl⟩ := initialise_eq_some h
  exact (Host.initialise_turns hhost).transmit _

/-- A driver is called and then all slots are initialised. -/
private lemma withHost_turns {c : Host.Stage L P} {host : Host L P} {slots : List SlotId}
    (hfirst : Host.Turn (e.setting now) c (host, slots))
    (h : (e.withHost host).initialise now slots = some e') :
    Turns (e.setting now) c (e'.host, []) :=
  (Turns.transmit (.single hfirst) _).trans (initialise_turns h)

/-- Two parts of an action are turns in the same setting. -/
private lemma turns_trans {c : Host.Stage L P}
    (h : Turns (e.setting now) c (e'.host, [])) (hsetting : e'.setting now = e.setting now)
    (h' : Turns (e'.setting now) (e'.host, []) (e''.host, [])) :
    Turns (e.setting now) c (e''.host, []) :=
  h.trans (hsetting ▸ h')

private lemma mapStats_turns (e : Engine L P) (f : LinkStats Nat → LinkStats Nat) :
    Turns (e.setting now) (e.host, []) ((e.mapStats f).host, []) :=
  Turns.transmit .refl _

lemma call_turns {slot : SlotId} {c : Callback} {r : Option c.Result} (hinit : c ≠ .init)
    (htimer : ∀ token, c ≠ .timer token) (h : e.call now slot c = some (r, e')) :
    Turns (e.setting now) (e.host, []) (e'.host, []) := by
  rcases call_eq_some h with ⟨_, _, rfl⟩ | ⟨result, host, slots, hcall, _, hslots⟩
  · exact .refl
  · exact withHost_turns (.call hinit htimer hcall) hslots

/-- A timer has its turn: it cannot fire and nothing happens, or it fires, and its owner is called
when the waits that it guards are over. -/
lemma fireTimer_cases {id : TimerId} {b : Bool} (h : e.fireTimer now id = some (b, e')) :
    (b = false ∧ e.host.timers.fire id now = none ∧ e' = e) ∨
      ∃ expiry timers r, b = true ∧ e.host.timers.fire id now = some (expiry, timers) ∧
        { e with host := e.host.rung timers id expiry.owner }.call now expiry.owner
          (.timer expiry.token) = some (r, e') := by
  simp only [fireTimer] at h
  split at h
  · cases h
    exact .inl ⟨rfl, ‹_›, rfl⟩
  · split at h
    · cases h
    · cases h
      exact .inr ⟨_, _, _, rfl, ‹_›, ‹_›⟩

/-- A timer fires, and its owner is called. -/
lemma fireTimer_of_call {id : TimerId} {expiry : Expiry} {timers : TimerTable}
    {result : Option Unit} (hfire : e.host.timers.fire id now = some (expiry, timers))
    (hcall : { e with host := e.host.rung timers id expiry.owner }.call now expiry.owner
      (.timer expiry.token) = some (result, e')) : e.fireTimer now id = some (true, e') := by
  simp only [fireTimer, hfire]
  rw [show Host.expireReplies _ _ _ = e.host.rung timers id expiry.owner from rfl, hcall]

/-- A timer fires and its owner, if there is one, is called. -/
lemma fireTimer_turns {id : TimerId} {b : Bool} (h : e.fireTimer now id = some (b, e')) :
    Turns (e.setting now) (e.host, []) (e'.host, []) := by
  rcases fireTimer_cases h with ⟨_, _, rfl⟩ | ⟨expiry, timers, r, _, hfire, hcall⟩
  · exact .refl
  · rcases call_eq_some hcall with ⟨hnone, _, rfl⟩ | ⟨result, host, slots, hsome, _, hslots⟩
    · exact .single (.lapse hfire hnone)
    · exact withHost_turns (.ring hfire hsome) hslots

lemma fireTimers_turns {ids : List TimerId} {n : Nat} (h : e.fireTimers now ids = some (n, e')) :
    Turns (e.setting now) (e.host, []) (e'.host, []) := by
  induction ids generalizing e n with
  | nil =>
    cases h
    exact .refl
  | cons id ids ih =>
    simp only [fireTimers, Option.bind_eq_bind, Option.bind_eq_some_iff] at h
    obtain ⟨⟨b, e₁⟩, h₁, ⟨m, e₂⟩, h₂, h⟩ := h
    cases h
    exact turns_trans (fireTimer_turns h₁) (fireTimer_advance h₁).progress.setting_eq (ih h₂)

/-! ### Frames -/

lemma route_turns {core : CoreId} {packet : Packet} {s : RouteStatus}
    (h : e.route now core packet = some (s, e')) :
    Turns (e.setting now) (e.host, []) (e'.host, []) := by
  rcases route_eq_some h with ⟨f, g, _, _, ⟨_, rfl⟩ | ⟨slot, r, e₁, _, hcall, rfl⟩⟩
  · exact turns_trans (mapStats_turns e f) rfl (mapStats_turns _ g)
  · have hcalled := call_turns (c := .packet packet) nofun nofun hcall
    exact (turns_trans (mapStats_turns e f) rfl hcalled).transmit _

private lemma reject_turns (e : Engine L P) (frame : Bytes) (err : PacketError) :
    Turns (e.setting now) (e.host, []) ((e.reject frame err).2.host, []) := by
  simp only [reject]
  split_ifs
  · exact mapStats_turns (e.dump (.rejected frame)) _
  · exact mapStats_turns e _

lemma dispatch_turns {frame : Bytes} {s : RouteStatus} (h : e.dispatch now frame = some (s, e')) :
    Turns (e.setting now) (e.host, []) (e'.host, []) := by
  simp only [dispatch] at h
  split at h
  · cases h
    exact reject_turns e frame _
  · -- what is shown on the trace is nothing to the host
    obtain ⟨shown, hshown, hhost, hsetting⟩ :
        ∃ shown, (if e.host.transmitter.trace then e.dump (.accepted frame) else e) = shown ∧
          shown.host = e.host ∧ shown.setting now = e.setting now := by
      split_ifs
      · exact ⟨_, rfl, rfl, rfl⟩
      · exact ⟨_, rfl, rfl, rfl⟩
    rw [hshown] at h
    rw [← hhost, ← hsetting]
    split at h
    · cases h
      exact reject_turns shown frame _
    · exact route_turns h

lemma dispatchAll_turns {frames : List Bytes} {ss : List RouteStatus}
    (h : e.dispatchAll now frames = some (ss, e')) :
    Turns (e.setting now) (e.host, []) (e'.host, []) := by
  induction frames generalizing e ss with
  | nil =>
    cases h
    exact .refl
  | cons frame frames ih =>
    simp only [dispatchAll, Option.bind_eq_bind, Option.bind_eq_some_iff] at h
    obtain ⟨⟨s, e₁⟩, h₁, ⟨ss, e₂⟩, h₂, h⟩ := h
    cases h
    exact turns_trans (dispatch_turns h₁) (dispatch_advance h₁).progress.setting_eq (ih h₂)

private lemma decoded_turns {decoder : Decoder} {es : List Emission} {ss : List RouteStatus}
    (h : e.decoded now decoder es = some (ss, e')) :
    Turns (e.setting now) (e.host, []) (e'.host, []) := by
  have hturns := dispatchAll_turns h
  exact hturns

lemma feed_turns {bytes : Bytes} {ss : List RouteStatus} (h : e.feed now bytes = some (ss, e')) :
    Turns (e.setting now) (e.host, []) (e'.host, []) :=
  turns_trans (mapStats_turns e _) rfl (decoded_turns h)

/-! ### Reading -/

private lemma drain_turns (h : e.drain now = some e') :
    Turns (e.setting now) (e.host, []) (e'.host, []) := by
  obtain ⟨⟨ss, e₁⟩, hdecoded, rfl⟩ := Option.map_eq_some_iff.mp h
  have hturns := decoded_turns hdecoded
  exact hturns

omit [Driver P] in
/-- A read is nothing to the drivers. -/
private lemma host_readLink {r : Except IoError Nat} (h : e.readLink = (r, e')) :
    (∃ transmitter, e'.host = { e.host with transmitter }) ∧ e'.setting now = e.setting now := by
  obtain ⟨transmitter, buffer, rfl, _⟩ := readLink_eq h
  exact ⟨⟨transmitter, rfl⟩, rfl⟩

private lemma readLink_turns (now : Nat) {r : Except IoError Nat} (h : e.readLink = (r, e')) :
    Turns (e.setting now) (e.host, []) (e'.host, []) ∧ e'.setting now = e.setting now := by
  obtain ⟨⟨transmitter, hhost⟩, hsetting⟩ := host_readLink h
  exact ⟨hhost ▸ Turns.transmit .refl transmitter, hsetting⟩

private lemma setting_drain (h : e.drain now = some e') : e'.setting now = e.setting now :=
  (drain_advance h).2.2.progress.setting_eq

lemma pollReads_turns {reads total : Nat} {r : Except LinkError Nat}
    (h : pollReads now reads total e = some (r, e')) :
    Turns (e.setting now) (e.host, []) (e'.host, []) := by
  induction reads generalizing e total with
  | zero => cases h
  | succ reads ih =>
    simp only [pollReads] at h
    split at h
    · cases h
      exact (readLink_turns now ‹_›).1
    · rename_i n e₁ _ hread
      obtain ⟨e₂, hdrain, h⟩ := Option.bind_eq_some_iff.mp h
      obtain ⟨hread, hsetting⟩ := readLink_turns now hread
      have hcounted := turns_trans hread hsetting
        (mapStats_turns e₁ fun s => { s with bytesRead := s.bytesRead + n })
      have hdrained := turns_trans hcounted hsetting (drain_turns hdrain)
      exact turns_trans hdrained ((setting_drain hdrain).trans hsetting) (ih h)
    · rename_i err e₁ hread
      obtain ⟨hread, hsetting⟩ := readLink_turns now hread
      split_ifs at h
      · cases h
        exact hread
      · exact turns_trans hread hsetting (ih h)
      · cases h
        exact hread

/-! ### Users -/

private lemma settle_turns (e : Engine L P) (now : Nat) (slot : SlotId) (i : Nat)
    (session : SessionId) (answer : Except Error Outcome) :
    Turns (e.setting now) (e.host, []) ((e.settle now slot i session answer).2.host, []) := by
  match answer with
  | .ok (.reply text) => exact .single (.tell e.host _)
  | .ok .pending =>
    have harm : Host.Turn (e.setting now) (e.host, [])
        ((e.host.armReply slot i session e.ackTimeout i now).2, []) :=
      .arm e.host slot i session _ i
    simp only [settle]
    split_ifs
    · exact .refl
    · split <;> rename_i heq <;> rw [heq] at harm <;> exact .single harm
  | .error err => exact .single (.abandon e.host slot i session)

lemma request_turns {slot : SlotId} {name : String} {session : SessionId} {request : Request}
    {r : Except Error Outcome} (h : e.request now slot name session request = some (r, e')) :
    Turns (e.setting now) (e.host, []) (e'.host, []) := by
  simp only [Engine.request] at h
  split at h
  · cases h
    exact .refl
  · rename_i i resource _
    split at h
    · cases h
      exact .refl
    · split at h
      · cases h
      · rename_i e₁ hcall
        cases h
        exact call_turns (c := .request i session request) (by simp) (by simp) hcall
      · rename_i result e₁ hcall
        have hcalled := call_turns (c := .request i session request) (by simp) (by simp) hcall
        have hsettled := settle_turns e₁ now slot i session result
        rw [Option.some.inj h] at hsettled
        exact turns_trans hcalled (call_advance hcall).progress.setting_eq hsettled

lemma subscribe_turns {slot : SlotId} {name : String} {handle : Handle}
    (h : e.subscribe slot name handle = .ok e') :
    Turns (e.setting now) (e.host, []) (e'.host, []) := by
  obtain ⟨⟨i, r⟩, hfind, h⟩ := except_bind_eq_ok.mp h
  obtain ⟨r', hr', h⟩ := except_bind_eq_ok.mp h
  obtain ⟨broadcast, rfl⟩ := Registry.subscribe_cases hr'
  cases h
  exact .single (.subscribe broadcast (resource?_of_findResource hfind))

lemma unsubscribe_turns {slot : SlotId} {name : String} {r : Option Handle}
    (h : e.unsubscribe slot name = .ok (r, e')) :
    Turns (e.setting now) (e.host, []) (e'.host, []) := by
  obtain ⟨⟨i, r⟩, hfind, h⟩ := except_bind_eq_ok.mp h
  cases h
  exact .single (.subscribe none (resource?_of_findResource hfind))

/-! ### Filling slots from outside -/

/-- A driver is loaded and its slot initialised, or it cannot be loaded. -/
lemma install_turns {slot : SlotId} {name : String} {core : Option CoreId}
    {r : Except RegistryError Unit} (h : e.install now slot name core = some (r, e')) :
    Turns (e.setting now) (e.host, []) (e'.host, []) := by
  simp only [install] at h
  split at h
  · rename_i err host hload
    cases h
    exact .single (.refuse hload)
  · rename_i host hload
    obtain ⟨e₁, hslots, h⟩ := Option.map_eq_some_iff.mp h
    cases h
    exact .head (.load hload) (initialise_turns hslots)

omit [Link L] [Driver P] in
/-- A slot that was just filled can get a driver. -/
private lemma exists_setDriver {host : Host L P} {slot : SlotId} {name : String}
    (hfresh : e.host.installFresh slot name = .ok host) (driver : Occupant P) :
    ∃ host', host.setDriver slot driver = .ok host' := by
  obtain ⟨registry, hinstall, rfl⟩ := except_map_eq_ok.mp hfresh
  have hslot := (Registry.updated_install hinstall).slot? slot
  rw [if_pos rfl] at hslot
  simp only [Host.setDriver, Registry.setDriver, Registry.getSlot, Host.record, hslot]
  exact ⟨_, rfl⟩

/-- At the start the enumerator comes into its slot and is initialised, if there is such a slot. -/
lemma start_turns {r : Except Error Unit} (h : e.start now = some (r, e')) :
    ((∃ err, e.host.installFresh .enumerator Enumerator.name = .error err) ∧ e' = e) ∨
      ∃ host host', e.host.installFresh .enumerator Enumerator.name = .ok host ∧
        host.setDriver .enumerator (.enumerator (.ofOverloads e.overloads)) = .ok host' ∧
        Turns (e.setting now) (host', [.enumerator]) (e'.host, []) := by
  simp only [start] at h
  split at h
  · rename_i err hfresh
    cases h
    exact .inl ⟨⟨err, hfresh⟩, rfl⟩
  · rename_i host hfresh
    obtain ⟨host', hset⟩ := exists_setDriver hfresh (.enumerator (.ofOverloads e.overloads))
    refine .inr ⟨host, host', hfresh, hset, ?_⟩
    -- the enumerator is called as the first of the slots that wait
    have hcalls {r : Option (Except Error Unit)}
        (hcall : ({ e with host := host', overloads := [] } : Engine L P).call now .enumerator
          .init = some (r, e')) :
        Turns (e.setting now) (host', [.enumerator]) (e'.host, []) := by
      rcases call_eq_some hcall with ⟨hnone, _, rfl⟩ | ⟨result, host, slots, hsome, _, hslots⟩
      · exact .single (.skip hnone)
      · rw [← List.append_nil slots] at hslots
        have hturns := withHost_turns (.init hsome) hslots
        exact hturns
    rw [hset] at h
    dsimp only at h
    split at h
    · cases h
    · rename_i hcall
      cases h
      exact hcalls hcall
    · rename_i hcall
      cases h
      exact hcalls hcall

/-! ### Actions -/

/-- Every action but the start is a sequence of turns. -/
theorem act_turns {a : Action L} (hact : e.act now a = some e') (hstart : a ≠ .start) :
    Turns (e.setting now) (e.host, []) (e'.host, []) := by
  cases a with
  | start => exact absurd rfl hstart
  | install slot name core =>
    obtain ⟨⟨_, _⟩, h, rfl⟩ := Option.map_eq_some_iff.mp hact
    exact install_turns h
  | feed bytes =>
    obtain ⟨⟨_, _⟩, h, rfl⟩ := Option.map_eq_some_iff.mp hact
    exact feed_turns h
  | dispatch frame =>
    obtain ⟨⟨_, _⟩, h, rfl⟩ := Option.map_eq_some_iff.mp hact
    exact dispatch_turns h
  | pollLink =>
    obtain ⟨⟨_, _⟩, h, rfl⟩ := Option.map_eq_some_iff.mp hact
    exact pollReads_turns h
  | pollTimers =>
    obtain ⟨⟨_, _⟩, h, rfl⟩ := Option.map_eq_some_iff.mp hact
    exact fireTimers_turns h
  | request slot name session request =>
    obtain ⟨⟨_, _⟩, h, rfl⟩ := Option.map_eq_some_iff.mp hact
    exact request_turns h
  | subscribe slot name handle =>
    simp only [act] at hact
    split at hact <;> cases hact
    · exact subscribe_turns ‹_›
    · exact .refl
  | unsubscribe slot name =>
    simp only [act] at hact
    split at hact <;> cases hact
    · exact unsubscribe_turns ‹_›
    · exact .refl
  | send core packet =>
    cases hact
    exact Turns.transmit .refl _
  -- the link is another one, and then the outbox
  | outside link outbox =>
    cases hact
    exact (Turns.transmit .refl { e.host.transmitter with link }).tail (.tell _ outbox)

end BoardLink.Engine
