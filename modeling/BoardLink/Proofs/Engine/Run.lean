import BoardLink.Engine
import BoardLink.Proofs.Decoder.Stream
import BoardLink.Proofs.Host.Step
import BoardLink.Proofs.Registry.Slots

/-!
# Runs of an engine

What can be asked of an engine from outside, as data, and the engines that any run of it leads to.
Between two actions the board and the users go on by themselves: other bytes wait on the link, and
what was told to users has been taken.
-/

namespace BoardLink.Engine

/-! ### Actions -/

/-- One thing that happens to an engine with a link of type `L`. -/
inductive Action (L : Type) where
  | start
  | install (slot : SlotId) (name : String) (core : Option CoreId)
  | feed (bytes : Bytes)
  | dispatch (frame : Bytes)
  | pollLink
  | pollTimers
  | request (slot : SlotId) (name : String) (session : SessionId) (request : Request)
  | subscribe (slot : SlotId) (name : String) (handle : Handle)
  | unsubscribe (slot : SlotId) (name : String)
  | send (core : CoreId) (packet : Packet)
  /-- The board and the users leave the link and the outbox like this. -/
  | outside (link : L) (outbox : Outbox)

variable {L P : Type}

/-- The engine with the link and the outbox that others left. -/
def withOutside (e : Engine L P) (link : L) (outbox : Outbox) : Engine L P :=
  { e with host := { e.host with transmitter := { e.host.transmitter with link }, outbox } }

variable [Link L] [Driver P]

/-- The engine after an action, if the action ends. -/
def act (e : Engine L P) (now : Nat) : Action L → Option (Engine L P)
  | .start => (e.start now).map Prod.snd
  | .install slot name core => (e.install now slot name core).map Prod.snd
  | .feed bytes => (e.feed now bytes).map Prod.snd
  | .dispatch frame => (e.dispatch now frame).map Prod.snd
  | .pollLink => (e.pollLink now).map Prod.snd
  | .pollTimers => (e.pollTimers now).map Prod.snd
  | .request slot name session request => (e.request now slot name session request).map Prod.snd
  | .subscribe slot name handle =>
    match e.subscribe slot name handle with
    | .ok e => some e
    | .error _ => some e
  | .unsubscribe slot name =>
    match e.unsubscribe slot name with
    | .ok (_, e) => some e
    | .error _ => some e
  | .send core packet => some (e.send core packet).2
  | .outside link outbox => some (e.withOutside link outbox)

/-- The engines that runs lead to, from a new engine with these options and drivers, whatever the
number of initialisations that one call may lead to. -/
inductive Reachable (options : EngineOptions) (factory : Factory P) : Engine L P → Prop
  | create (link : L) (limit : Nat) :
    Reachable options factory { create options link factory with initLimit := limit }
  | act {e e' : Engine L P} (now : Nat) (a : Action L) (he : Reachable options factory e)
    (h : e.act now a = some e') : Reachable options factory e'

/-! ### Inversion -/

section Inversion

variable {e e' : Engine L P} {now : Nat}

lemma initialise_eq_some {slots : List SlotId} (h : e.initialise now slots = some e') :
    ∃ host, Host.initialise (e.setting now) e.initLimit slots e.host = some host ∧
      e' = e.withHost host := by
  obtain ⟨host, hhost, rfl⟩ := Option.map_eq_some_iff.mp h
  exact ⟨host, hhost, rfl⟩

/-- A call finds no driver, or the driver is called and the slots that it filled are initialised. -/
lemma call_eq_some {slot : SlotId} {c : Callback} {r : Option c.Result}
    (h : e.call now slot c = some (r, e')) :
    (e.host.call (e.setting now) slot c = none ∧ r = none ∧ e' = e) ∨
      ∃ result host slots, e.host.call (e.setting now) slot c = some (result, host, slots) ∧
        r = some result ∧ (e.withHost host).initialise now slots = some e' := by
  simp only [call] at h
  split at h
  · cases h
    exact .inl ⟨‹_›, rfl, rfl⟩
  · obtain ⟨e₁, h₁, hr⟩ := Option.map_eq_some_iff.mp h
    cases hr
    exact .inr ⟨_, _, _, ‹_›, rfl, h₁⟩

/-- A driver that is called, and then the slots that it filled. -/
lemma call_of_host {slot : SlotId} {c : Callback} {result : c.Result} {host host' : Host L P}
    {slots : List SlotId} (hcall : e.host.call (e.setting now) slot c = some (result, host, slots))
    (hinit : Host.initialise (e.setting now) e.initLimit slots (e.withHost host).host = some host') :
    e.call now slot c = some (some result, (e.withHost host).withHost host') := by
  have hinit' : (e.withHost host).initialise now slots = some ((e.withHost host).withHost host') :=
    Option.map_eq_some_iff.mpr ⟨host', hinit, rfl⟩
  simp only [call, hcall, hinit', Option.map_some]

/-- A packet finds no slot, or the driver in the slot of its core is called. -/
lemma route_eq_some {core : CoreId} {packet : Packet} {s : RouteStatus}
    (h : e.route now core packet = some (s, e')) :
    ∃ f g : LinkStats Nat → LinkStats Nat, (∀ t, (f t).missingAcks = t.missingAcks) ∧
      (∀ t, (g t).missingAcks = t.missingAcks) ∧
      ((s = .unrouted core ∧ e' = (e.mapStats f).mapStats g) ∨
      ∃ slot r e₁, s = .delivered slot ∧
        (e.mapStats f).call now slot (.packet packet) = some (r, e₁) ∧ e' = e₁.mapStats g) := by
  simp only [route] at h
  split at h
  · cases h
    refine ⟨_, _, ?_, ?_, .inl ⟨rfl, rfl⟩⟩
    · exact fun _ => rfl
    · exact fun _ => rfl
  · obtain ⟨⟨r, e₁⟩, h₁, hr⟩ := Option.map_eq_some_iff.mp h
    cases hr
    refine ⟨_, _, ?_, ?_, .inr ⟨_, _, _, rfl, h₁, rfl⟩⟩
    · exact fun _ => rfl
    · exact fun _ => rfl

/-- A timer cannot fire, or it fires and its owner is called. -/
lemma fireTimer_eq_some {id : TimerId} {b : Bool} (h : e.fireTimer now id = some (b, e')) :
    (e.host.timers.fire id now = none ∧ e' = e) ∨
      ∃ expiry timers host r, e.host.timers.fire id now = some (expiry, timers) ∧
        host.timers = timers ∧ Host.Step (e.setting now) e.host host ∧
        { e with host }.call now expiry.owner (.timer expiry.token) = some (r, e') := by
  simp only [fireTimer] at h
  split at h
  · cases h
    exact .inl ⟨‹_›, rfl⟩
  · rename_i expiry timers hfire
    split at h
    · cases h
    · rename_i r e₁ hcall
      cases h
      exact .inr ⟨expiry, timers, _, r, hfire, Host.expireReplies_timers _ _ _, .fire hfire, hcall⟩

end Inversion

/-! ### What calls of drivers lead to -/

/-- An engine without its host and without what it shows on the trace. -/
structure Shell (P : Type) where
  buffer : ReceiveBuffer
  decoder : Decoder
  factory : Factory P
  overloads : Overloads
  ackTimeout : Nat
  initLimit : Nat

omit [Link L] [Driver P] in
/-- The part of an engine that calls of drivers leave alone. -/
def shell (e : Engine L P) : Shell P where
  buffer := e.buffer
  decoder := e.decoder
  factory := e.factory
  overloads := e.overloads
  ackTimeout := e.ackTimeout
  initLimit := e.initLimit

/-- The host went on by steps, and nothing else changed but the trace. -/
structure Advance (now : Nat) (e e' : Engine L P) : Prop where
  shell : e'.shell = e.shell
  steps : Host.Steps (e.setting now) e.host e'.host

section Advance

variable {e e' e'' : Engine L P} {now : Nat}

omit [Link L] [Driver P] in
lemma setting_eq_of_shell (h : e'.shell = e.shell) : e'.setting now = e.setting now := by
  have hfactory : e'.factory = e.factory := congrArg Shell.factory h
  have htimeout : e'.ackTimeout = e.ackTimeout := congrArg Shell.ackTimeout h
  simp only [setting, hfactory, htimeout]

namespace Advance

lemma refl (e : Engine L P) : Advance now e e := ⟨rfl, .refl⟩

lemma trans (h : Advance now e e') (h' : Advance now e' e'') : Advance now e e'' :=
  ⟨h'.shell.trans h.shell, h.steps.trans (setting_eq_of_shell h.shell ▸ h'.steps)⟩

lemma step {host : Host L P} (h : Host.Step (e.setting now) e.host host) :
    Advance now e { e with host } :=
  ⟨rfl, .single h⟩

lemma mapStats (e : Engine L P) {f : LinkStats Nat → LinkStats Nat}
    (hf : ∀ t, (f t).missingAcks = t.missingAcks) : Advance now e (e.mapStats f) :=
  step (.transmit e.host _ (hf e.host.transmitter.stats))

lemma dump (e : Engine L P) (d : Dump) : Advance now e (e.dump d) := ⟨rfl, .refl⟩

lemma withHost {host : Host L P} (h : Host.Steps (e.setting now) e.host host) :
    Advance now e (e.withHost host) :=
  ⟨rfl, h.tail (.transmit host _ rfl)⟩

end Advance

lemma initialise_advance {slots : List SlotId} (h : e.initialise now slots = some e') :
    Advance now e e' := by
  obtain ⟨host, hhost, rfl⟩ := initialise_eq_some h
  exact .withHost (Host.initialise_steps hhost)

lemma call_advance {slot : SlotId} {c : Callback} {r : Option c.Result}
    (h : e.call now slot c = some (r, e')) : Advance now e e' := by
  rcases call_eq_some h with ⟨_, _, rfl⟩ | ⟨_, host, _, hcall, _, hinit⟩
  · exact .refl _
  · exact (Advance.withHost (.single (.call hcall))).trans (initialise_advance hinit)

lemma route_advance {core : CoreId} {packet : Packet} {s : RouteStatus}
    (h : e.route now core packet = some (s, e')) : Advance now e e' := by
  rcases route_eq_some h with ⟨f, g, hf, hg, ⟨_, rfl⟩ | ⟨_, _, e₁, _, hcall, rfl⟩⟩
  · exact (Advance.mapStats e hf).trans (.mapStats _ hg)
  · exact ((Advance.mapStats e hf).trans (call_advance hcall)).trans (.mapStats e₁ hg)

omit [Link L] [Driver P] in
private lemma missingAcks_recordRejection (err : PacketError) (t : LinkStats Nat) :
    (t.recordRejection err).missingAcks = t.missingAcks := by
  cases err <;> rfl

private lemma reject_advance (e : Engine L P) (frame : Bytes) (err : PacketError) :
    Advance now e (e.reject frame err).2 := by
  by_cases htrace : e.host.transmitter.trace <;> simp only [reject, htrace, if_true]
  · exact (Advance.dump e _).trans (.mapStats _ (missingAcks_recordRejection err))
  · exact .mapStats e (missingAcks_recordRejection err)

lemma dispatch_advance {frame : Bytes} {s : RouteStatus}
    (h : e.dispatch now frame = some (s, e')) : Advance now e e' := by
  simp only [dispatch] at h
  split at h
  · cases h
    exact reject_advance e frame _
  · -- the frame is shown, if frames are, before the packet in it is looked at
    obtain ⟨shown, hshown, hadvance⟩ :
        ∃ shown, (if e.host.transmitter.trace then e.dump (.accepted frame) else e) = shown ∧
          Advance now e shown := by
      split_ifs
      · exact ⟨_, rfl, .dump e _⟩
      · exact ⟨_, rfl, .refl e⟩
    rw [hshown] at h
    split at h
    · cases h
      exact hadvance.trans (reject_advance shown frame _)
    · exact hadvance.trans (route_advance h)

lemma dispatchAll_advance {frames : List Bytes} {ss : List RouteStatus}
    (h : e.dispatchAll now frames = some (ss, e')) : Advance now e e' := by
  induction frames generalizing e ss with
  | nil =>
    cases h
    exact .refl _
  | cons frame frames ih =>
    simp only [dispatchAll, Option.bind_eq_bind, Option.bind_eq_some_iff] at h
    obtain ⟨⟨s, e₁⟩, h₁, ⟨ss, e₂⟩, h₂, h⟩ := h
    cases h
    exact (dispatch_advance h₁).trans (ih h₂)

lemma fireTimer_advance {id : TimerId} {b : Bool} (h : e.fireTimer now id = some (b, e')) :
    Advance now e e' := by
  rcases fireTimer_eq_some h with ⟨_, rfl⟩ | ⟨_, _, _, _, _, _, hstep, hcall⟩
  · exact .refl _
  · exact (Advance.step hstep).trans (call_advance hcall)

lemma fireTimers_advance {ids : List TimerId} {n : Nat}
    (h : e.fireTimers now ids = some (n, e')) : Advance now e e' := by
  induction ids generalizing e n with
  | nil =>
    cases h
    exact .refl _
  | cons id ids ih =>
    simp only [fireTimers, Option.bind_eq_bind, Option.bind_eq_some_iff] at h
    obtain ⟨⟨b, e₁⟩, h₁, ⟨m, e₂⟩, h₂, h⟩ := h
    cases h
    exact (fireTimer_advance h₁).trans (ih h₂)

end Advance

/-! ### What actions lead to -/

/-- The host went on by steps with the same drivers and assignments at hand. The decoder took bytes
of any kind, but nothing came to wait in an empty buffer. -/
structure Progress (now : Nat) (e e' : Engine L P) : Prop where
  buffer : e.buffer.contents = [] → e'.buffer = e.buffer
  decoder : e.decoder.WellFormed → e'.decoder.WellFormed
  factory : e'.factory = e.factory
  overloads : e'.overloads = e.overloads
  ackTimeout : e'.ackTimeout = e.ackTimeout
  initLimit : e'.initLimit = e.initLimit
  steps : Host.Steps (e.setting now) e.host e'.host

section Progress

variable {e e' e'' : Engine L P} {now : Nat}

lemma Advance.progress (h : Advance now e e') : Progress now e e' where
  buffer _ := congrArg Shell.buffer h.shell
  decoder hd :=
    have hdecoder : e'.decoder = e.decoder := congrArg Shell.decoder h.shell
    hdecoder ▸ hd
  factory := congrArg Shell.factory h.shell
  overloads := congrArg Shell.overloads h.shell
  ackTimeout := congrArg Shell.ackTimeout h.shell
  initLimit := congrArg Shell.initLimit h.shell
  steps := h.steps

namespace Progress

lemma refl (e : Engine L P) : Progress now e e := (Advance.refl e).progress

lemma setting_eq (h : Progress now e e') : e'.setting now = e.setting now := by
  simp only [setting, h.factory, h.ackTimeout]

lemma trans (h : Progress now e e') (h' : Progress now e' e'') : Progress now e e'' where
  buffer hempty :=
    have hbuffer := h.buffer hempty
    (h'.buffer (hbuffer ▸ hempty)).trans hbuffer
  decoder hd := h'.decoder (h.decoder hd)
  factory := h'.factory.trans h.factory
  overloads := h'.overloads.trans h.overloads
  ackTimeout := h'.ackTimeout.trans h.ackTimeout
  initLimit := h'.initLimit.trans h.initLimit
  steps := h.steps.trans (h.setting_eq ▸ h'.steps)

lemma step {host : Host L P} (h : Host.Step (e.setting now) e.host host) :
    Progress now e { e with host } :=
  (Advance.step h).progress

end Progress

private lemma decoded_progress {decoder : Decoder} {es : List Emission} {ss : List RouteStatus}
    (h : e.decoded now decoder es = some (ss, e'))
    (hdecoder : e.decoder.WellFormed → decoder.WellFormed) : Progress now e e' :=
  let h := (dispatchAll_advance h).progress
  ⟨h.buffer, fun hd => h.decoder (hdecoder hd), h.factory, h.overloads, h.ackTimeout, h.initLimit,
    h.steps⟩

lemma feed_progress {bytes : Bytes} {ss : List RouteStatus}
    (h : e.feed now bytes = some (ss, e')) : Progress now e e' := by
  have hdecoded := decoded_progress h fun hd => hd.feed bytes
  refine (Advance.mapStats e ?_).progress.trans hdecoded
  exact fun _ => rfl

omit [Driver P] in
/-- A read brings bytes into the buffer, unless it fails or is the last one. -/
lemma readLink_eq {r : Except IoError Nat} (h : e.readLink = (r, e')) :
    ∃ transmitter buffer,
      e' = { e with host := { e.host with transmitter }, buffer } ∧
      transmitter.stats = e.host.transmitter.stats ∧
      buffer.capacity = e.buffer.capacity ∧ (buffer = e.buffer ∨ ∃ n, r = .ok (n + 1)) := by
  simp only [readLink] at h
  obtain ⟨rfl, rfl⟩ := Prod.mk.inj h
  refine ⟨_, _, rfl, rfl, ?_⟩
  match (Link.read e.host.transmitter.link e.buffer.spare).2 with
  | .error err => exact ⟨rfl, .inl rfl⟩
  | .ok [] => exact ⟨rfl, .inl (by simp [ReceiveBuffer.receive, Except.map])⟩
  | .ok (b :: bs) => exact ⟨rfl, .inr ⟨bs.length, rfl⟩⟩

/-- After a drain nothing waits, and drivers were called. -/
lemma drain_advance (h : e.drain now = some e') :
    e'.buffer = { e.buffer with contents := [] } ∧
      e'.decoder = (e.decoder.feed e.buffer.contents).1 ∧
      Advance now { e with buffer := e'.buffer, decoder := e'.decoder } e' := by
  obtain ⟨⟨ss, e₁⟩, h₁, rfl⟩ := Option.map_eq_some_iff.mp h
  have hadvance := dispatchAll_advance h₁
  have hbuffer : e₁.buffer = e.buffer.consume e.buffer.length := congrArg Shell.buffer hadvance.shell
  have hdecoder : e₁.decoder = (e.decoder.feed e.buffer.contents).1 :=
    congrArg Shell.decoder hadvance.shell
  refine ⟨?_, hdecoder, ?_⟩
  · rw [hbuffer, ReceiveBuffer.consume, ReceiveBuffer.length, List.drop_length]
  · rw [hbuffer, hdecoder]
    exact ⟨hadvance.shell, hadvance.steps⟩

/-- A read that brings bytes, and what the bytes lead to. -/
private lemma readLink_drain_progress {r : Except IoError Nat} {f : LinkStats Nat → LinkStats Nat}
    (hread : e.readLink = (r, e')) (hf : ∀ t, (f t).missingAcks = t.missingAcks)
    (hdrain : (e'.mapStats f).drain now = some e'') : Progress now e e'' := by
  obtain ⟨transmitter, buffer, rfl, hstats, hcapacity, _⟩ := readLink_eq hread
  obtain ⟨hbuffer, hdecoder, hadvance⟩ := drain_advance hdrain
  have hprogress := hadvance.progress
  refine ⟨fun hempty => ?_, fun hd => hdecoder ▸ hd.feed _, hprogress.factory, hprogress.overloads,
    hprogress.ackTimeout, hprogress.initLimit, .head (.transmit e.host _ ?_) hprogress.steps⟩
  · rw [hbuffer, ← hempty]
    exact congrArg (ReceiveBuffer.mk e.buffer.contents) hcapacity
  · exact (hf transmitter.stats).trans (congrArg LinkStats.missingAcks hstats)

/-- A read that brings nothing. -/
private lemma readLink_progress {r : Except IoError Nat} (hread : e.readLink = (r, e'))
    (hr : ∀ n, r ≠ .ok (n + 1)) : Progress now e e' := by
  rcases readLink_eq hread with ⟨transmitter, buffer, rfl, hstats, _, rfl | ⟨n, hn⟩⟩
  · exact .step (.transmit e.host transmitter (congrArg LinkStats.missingAcks hstats))
  · exact absurd hn (hr n)

lemma pollReads_progress {reads total : Nat} {r : Except LinkError Nat}
    (h : pollReads now reads total e = some (r, e')) : Progress now e e' := by
  induction reads generalizing e total with
  | zero => cases h
  | succ reads ih =>
    simp only [pollReads] at h
    split at h
    · cases h
      exact readLink_progress ‹_› fun n h => Nat.succ_ne_zero n (Except.ok.inj h).symm
    · obtain ⟨e₂, hdrain, h⟩ := Option.bind_eq_some_iff.mp h
      refine (readLink_drain_progress ‹_› ?_ hdrain).trans (ih h)
      exact fun _ => rfl
    · rename_i err e₁ hread
      have hprogress : Progress now e e₁ := readLink_progress hread nofun
      split_ifs at h
      · cases h
        exact hprogress
      · exact hprogress.trans (ih h)
      · cases h
        exact hprogress

private lemma settle_progress (e : Engine L P) (slot : SlotId) (i : Nat) (session : SessionId)
    (answer : Except Error Outcome) :
    Progress now e (e.settle now slot i session answer).2 := by
  match answer with
  | .ok (.reply text) => exact .step (.tell e.host _)
  | .ok .pending =>
    have harm : Host.Step (e.setting now) e.host
        (e.host.armReply slot i session e.ackTimeout i now).2 := .arm e.host slot i session _ i
    simp only [settle]
    split_ifs
    · exact .refl e
    · split <;> rename_i heq <;> rw [heq] at harm <;> exact .step harm
  | .error err => exact .step (.abandon e.host slot i session)

lemma request_progress {slot : SlotId} {name : String} {session : SessionId} {request : Request}
    {r : Except Error Outcome} (h : e.request now slot name session request = some (r, e')) :
    Progress now e e' := by
  simp only [Engine.request] at h
  split at h
  · cases h
    exact .refl _
  · rename_i i resource _
    split at h
    · cases h
      exact .refl _
    · split at h
      · cases h
      · rename_i e₁ hcall
        cases h
        exact (call_advance hcall).progress
      · rename_i result e₁ hcall
        have hsettle : Progress now e₁ (e₁.settle now slot i session result).2 :=
          settle_progress e₁ slot i session result
        rw [Option.some.inj h] at hsettle
        exact (call_advance hcall).progress.trans hsettle

omit [Link L] [Driver P] in
lemma resource?_of_findResource {slot : SlotId} {name : String} {i : Nat} {r : Resource}
    (h : e.findResource slot name = .ok (i, r)) : e.host.registry.resource? slot i = some r := by
  obtain ⟨s, hs, h⟩ := except_bind_eq_ok.mp h
  have hs := Registry.slot?_of_getSlot hs
  split at h
  · cases h
  · split at h
    · cases h
    · cases h
      simp only [Registry.resource?, *, Option.bind_some]

lemma subscribe_progress {slot : SlotId} {name : String} {handle : Handle}
    (h : e.subscribe slot name handle = .ok e') : Progress now e e' := by
  obtain ⟨⟨i, r⟩, hfind, h⟩ := except_bind_eq_ok.mp h
  obtain ⟨r', hr', h⟩ := except_bind_eq_ok.mp h
  obtain ⟨broadcast, rfl⟩ := Registry.subscribe_cases hr'
  cases h
  exact .step (.subscribe broadcast (resource?_of_findResource hfind))

lemma unsubscribe_progress {slot : SlotId} {name : String} {r : Option Handle}
    (h : e.unsubscribe slot name = .ok (r, e')) : Progress now e e' := by
  obtain ⟨⟨i, r⟩, hfind, h⟩ := except_bind_eq_ok.mp h
  cases h
  exact .step (.subscribe none (resource?_of_findResource hfind))

lemma send_progress (e : Engine L P) (core : CoreId) (packet : Packet) :
    Progress now e (e.send core packet).2 :=
  (Advance.withHost (.single (.transmit e.host _
    (Transmitter.missingAcks_sendBytes e.host.transmitter core packet.toBytes)))).progress

/-- Every action but the two that fill slots lets the host go on by steps. -/
lemma act_progress {a : Action L} (hact : e.act now a = some e') (hstart : a ≠ .start)
    (hinstall : ∀ slot name core, a ≠ .install slot name core) : Progress now e e' := by
  cases a with
  | start => exact absurd rfl hstart
  | install slot name core => exact absurd rfl (hinstall slot name core)
  | feed bytes =>
    obtain ⟨⟨_, _⟩, h, rfl⟩ := Option.map_eq_some_iff.mp hact
    exact feed_progress h
  | dispatch frame =>
    obtain ⟨⟨_, _⟩, h, rfl⟩ := Option.map_eq_some_iff.mp hact
    exact (dispatch_advance h).progress
  | pollLink =>
    obtain ⟨⟨_, _⟩, h, rfl⟩ := Option.map_eq_some_iff.mp hact
    exact pollReads_progress h
  | pollTimers =>
    obtain ⟨⟨_, _⟩, h, rfl⟩ := Option.map_eq_some_iff.mp hact
    exact (fireTimers_advance h).progress
  | request slot name session request =>
    obtain ⟨⟨_, _⟩, h, rfl⟩ := Option.map_eq_some_iff.mp hact
    exact request_progress h
  | subscribe slot name handle =>
    simp only [act] at hact
    split at hact <;> cases hact
    · exact subscribe_progress ‹_›
    · exact .refl _
  | unsubscribe slot name =>
    simp only [act] at hact
    split at hact <;> cases hact
    · exact unsubscribe_progress ‹_›
    · exact .refl _
  | send core packet =>
    cases hact
    exact send_progress e core packet
  | outside link outbox =>
    cases hact
    have hlink : Progress now e (e.withOutside link e.host.outbox) := .step (.transmit e.host _ rfl)
    exact hlink.trans (.step (.tell (e.withOutside link e.host.outbox).host outbox))

/-- Loading a driver fills a slot, and the host goes on by steps. -/
lemma install_progress {slot : SlotId} {name : String} {core : Option CoreId}
    {r : Except RegistryError Unit} (h : e.install now slot name core = some (r, e')) :
    Progress now { e with host := (e.host.installDriver e.factory slot name core).2 } e' := by
  simp only [install] at h
  split at h
  · rename_i err host heq
    cases h
    rw [heq]
    exact .refl _
  · rename_i host heq
    obtain ⟨e₁, h₁, h⟩ := Option.map_eq_some_iff.mp h
    cases h
    rw [heq]
    exact (initialise_advance h₁).progress

/-- At the start the enumerator comes into its slot, and the host goes on by steps. -/
lemma start_progress {r : Except Error Unit} (h : e.start now = some (r, e')) :
    (r ≠ .ok () ∧ e' = e) ∨ ∃ host, e.host.installFresh .enumerator Enumerator.name = .ok host ∧
      ((r ≠ .ok () ∧ e' = { e with host, overloads := [] }) ∨
        ∃ host', host.setDriver .enumerator (.enumerator (.ofOverloads e.overloads)) = .ok host' ∧
          Progress now { e with host := host', overloads := [] } e') := by
  simp only [start] at h
  split at h
  · cases h
    exact .inl ⟨nofun, rfl⟩
  · refine .inr ⟨_, ‹_›, ?_⟩
    split at h
    · cases h
      exact .inl ⟨nofun, rfl⟩
    · refine .inr ⟨_, ‹_›, ?_⟩
      split at h
      · cases h
      · cases h
        exact (call_advance ‹_›).progress
      · cases h
        exact (call_advance ‹_›).progress

/-- What progress does to an engine, and slots filled from outside do, every action does. -/
lemma act_rel {R : Engine L P → Engine L P → Prop} {a : Action L} (hact : e.act now a = some e')
    (hrefl : R e e) (htrans : ∀ {e e' e''}, R e e' → R e' e'' → R e e'')
    (hprogress : ∀ {e e'}, Progress now e e' → R e e')
    (hinstall : ∀ slot name core,
      R e { e with host := (e.host.installDriver e.factory slot name core).2 })
    (hfresh : ∀ host, e.host.installFresh .enumerator Enumerator.name = .ok host →
      R e { e with host, overloads := [] })
    (hset : ∀ host host', e.host.installFresh .enumerator Enumerator.name = .ok host →
      host.setDriver .enumerator (.enumerator (.ofOverloads e.overloads)) = .ok host' →
      R e { e with host := host', overloads := [] }) : R e e' := by
  cases a with
  | start =>
    obtain ⟨⟨r, e₁⟩, hstart, rfl⟩ := Option.map_eq_some_iff.mp hact
    rcases start_progress hstart with ⟨_, rfl⟩ | ⟨host, hfilled, ⟨_, rfl⟩ | ⟨host', hmanned, hgoes⟩⟩
    · exact hrefl
    · exact hfresh host hfilled
    · exact htrans (hset host host' hfilled hmanned) (hprogress hgoes)
  | install slot name core =>
    obtain ⟨⟨r, e₁⟩, hfilled, rfl⟩ := Option.map_eq_some_iff.mp hact
    exact htrans (hinstall slot name core) (hprogress (install_progress hfilled))
  | _ => exact hprogress (act_progress hact nofun nofun)

end Progress

/-! ### Reachable engines -/

/-- What holds throughout a run. -/
structure Fixed (options : EngineOptions) (factory : Factory P) (e : Engine L P) : Prop where
  factory : e.factory = factory
  ackTimeout : e.ackTimeout = options.ackTimeout
  decoder : e.decoder.WellFormed
  /-- Between two actions nothing waits in the buffer. -/
  buffer : e.buffer = .empty options.bufferSize

omit [Link L] [Driver P] in
private lemma Fixed.congr {options : EngineOptions} {factory : Factory P} {e e' : Engine L P}
    (h : Fixed options factory e) (hfactory : e'.factory = e.factory)
    (htimeout : e'.ackTimeout = e.ackTimeout) (hdecoder : e.decoder.WellFormed → e'.decoder.WellFormed)
    (hbuffer : e.buffer.contents = [] → e'.buffer = e.buffer) : Fixed options factory e' where
  factory := hfactory.trans h.factory
  ackTimeout := htimeout.trans h.ackTimeout
  decoder := hdecoder h.decoder
  buffer := (hbuffer (h.buffer ▸ rfl)).trans h.buffer

lemma Progress.fixed {options : EngineOptions} {factory : Factory P} {now : Nat}
    {e e' : Engine L P} (h : Progress now e e') (he : Fixed options factory e) :
    Fixed options factory e' :=
  he.congr h.factory h.ackTimeout h.decoder h.buffer

/-- The factory, the timeout and the empty buffer stay for the whole run. -/
lemma Reachable.fixed {options : EngineOptions} {factory : Factory P} {e : Engine L P}
    (h : Reachable options factory e) : Fixed options factory e := by
  induction h with
  | create link limit => exact ⟨rfl, rfl, .fresh, rfl⟩
  | act now a _ hact ih =>
    refine act_rel (R := fun e e' => Fixed options factory e → Fixed options factory e') hact id
      (fun hfirst hsecond he => hsecond (hfirst he)) Progress.fixed ?_ ?_ ?_ ih
    · exact fun _ _ _ he => he.congr rfl rfl id fun _ => rfl
    · exact fun _ _ he => he.congr rfl rfl id fun _ => rfl
    · exact fun _ _ _ _ he => he.congr rfl rfl id fun _ => rfl

end BoardLink.Engine
