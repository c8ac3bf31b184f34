import Mathlib.Tactic.Common
import BoardLink.Link.Memory
import BoardLink.Proofs.Engine.Run
import BoardLink.Proofs.Host.Receipts

/-!
# Every received frame is counted once

The decoder counts the frames that it gives out, and the engine counts what becomes of each frame.
Whatever drivers do meanwhile, and however a poll ends, both counts agree between any two actions.
-/

namespace BoardLink

namespace Receipts

/-- The counters after one frame more. -/
def after (r : Receipts) : RouteStatus → Receipts
  | .rejected _ => { r with rejected := r.rejected + 1 }
  | .unrouted _ => { r with accepted := r.accepted + 1, missed := r.missed + 1 }
  | .delivered _ => { r with accepted := r.accepted + 1, routed := r.routed + 1 }

lemma judged_after (r : Receipts) (status : RouteStatus) :
    (r.after status).judged = r.judged + 1 := by
  cases status with
  | delivered | unrouted =>
    simp only [after, judged]
    omega
  | rejected => rfl

lemma Balanced.after {r : Receipts} (h : r.Balanced) (status : RouteStatus) :
    (r.after status).Balanced := by
  cases status with
  | delivered | unrouted =>
    simp only [Receipts.after, Balanced] at h ⊢
    omega
  | rejected => exact h

end Receipts

lemma LinkStats.receipts_recordRejection (s : LinkStats Nat) (err : PacketError) :
    (s.recordRejection err).receipts = s.receipts.after (.rejected err) := by
  cases err <;> simp only [receipts, recordRejection, packetsRejected, Receipts.after,
    Receipts.mk.injEq, true_and, and_true] <;> omega

namespace Engine

variable {L P : Type} {e e' e'' : Engine L P} {now : Nat}

/-- The counters of received frames. -/
def receipts (e : Engine L P) : Receipts := e.host.receipts

/-! ### Where nothing is received -/

/-- Neither the decoder nor the counters of received frames change. -/
structure ReceivesNothing (e e' : Engine L P) : Prop where
  receipts : e'.receipts = e.receipts
  decoder : e'.decoder = e.decoder

namespace ReceivesNothing

lemma refl (e : Engine L P) : ReceivesNothing e e := ⟨rfl, rfl⟩

lemma trans (h : ReceivesNothing e e') (h' : ReceivesNothing e' e'') : ReceivesNothing e e'' :=
  ⟨h'.receipts.trans h.receipts, h'.decoder.trans h.decoder⟩

lemma of_transmitter (h : e'.host.transmitter = e.host.transmitter)
    (hdecoder : e'.decoder = e.decoder) : ReceivesNothing e e' :=
  ⟨congrArg (fun t => t.stats.receipts) h, hdecoder⟩

/-- Another host that counted as much, from which the packets it showed are taken over. -/
lemma withHost {host : Host L P} (h : host.receipts = e.host.receipts) :
    ReceivesNothing e (e.withHost host) :=
  ⟨h, rfl⟩

end ReceivesNothing

variable [Link L] [Driver P]

lemma initialise_receives {slots : List SlotId} (h : e.initialise now slots = some e') :
    ReceivesNothing e e' := by
  obtain ⟨host, hhost, rfl⟩ := initialise_eq_some h
  exact .withHost (Host.initialise_receipts hhost)

lemma call_receives {slot : SlotId} {c : Callback} {r : Option c.Result}
    (h : e.call now slot c = some (r, e')) : ReceivesNothing e e' := by
  rcases call_eq_some h with ⟨_, _, rfl⟩ | ⟨_, host, _, hcall, _, hinit⟩
  · exact .refl _
  · exact (ReceivesNothing.withHost (Host.call_receipts hcall)).trans (initialise_receives hinit)

lemma start_receives {r : Except Error Unit} (h : e.start now = some (r, e')) :
    ReceivesNothing e e' := by
  simp only [start] at h
  split at h
  · cases h
    exact .refl _
  · rename_i host hfresh
    have hfilled : ReceivesNothing e { e with host, overloads := [] } :=
      .of_transmitter (Host.installFresh_transmitter hfresh) rfl
    split at h
    · cases h
      exact hfilled
    · rename_i host' hset
      have hmanned : ReceivesNothing e { e with host := host', overloads := [] } :=
        hfilled.trans (.of_transmitter (Host.setDriver_transmitter hset) rfl)
      split at h
      · cases h
      · cases h
        exact hmanned.trans (call_receives ‹_›)
      · cases h
        exact hmanned.trans (call_receives ‹_›)

lemma install_receives {slot : SlotId} {name : String} {core : Option CoreId}
    {r : Except RegistryError Unit} (h : e.install now slot name core = some (r, e')) :
    ReceivesNothing e e' := by
  have hload := Host.installDriver_transmitter e.host e.factory slot name core
  simp only [install] at h
  split at h
  · rename_i heq
    rw [heq] at hload
    cases h
    exact .of_transmitter hload rfl
  · rename_i host heq
    rw [heq] at hload
    obtain ⟨e₁, hinit, h⟩ := Option.map_eq_some_iff.mp h
    cases h
    have hloaded : ReceivesNothing e { e with host } := .of_transmitter hload rfl
    exact hloaded.trans (initialise_receives hinit)

lemma fireTimer_receives {id : TimerId} {b : Bool} (h : e.fireTimer now id = some (b, e')) :
    ReceivesNothing e e' := by
  simp only [fireTimer] at h
  split at h
  · cases h
    exact .refl _
  · rename_i expiry timers _
    split at h
    · cases h
    · rename_i hcall
      cases h
      have hfired : ReceivesNothing e { e with
          host := (({ e.host with timers } : Host L P).record
            (.fired id expiry.owner)).expireReplies expiry.owner id } :=
        ⟨Host.receipts_expireReplies _ expiry.owner id, rfl⟩
      exact hfired.trans (call_receives hcall)

lemma fireTimers_receives {ids : List TimerId} {n : Nat}
    (h : e.fireTimers now ids = some (n, e')) : ReceivesNothing e e' := by
  induction ids generalizing e n with
  | nil =>
    cases h
    exact .refl _
  | cons id ids ih =>
    simp only [fireTimers, Option.bind_eq_bind, Option.bind_eq_some_iff] at h
    obtain ⟨⟨b, e₁⟩, h₁, ⟨m, e₂⟩, h₂, h⟩ := h
    cases h
    exact (fireTimer_receives h₁).trans (ih h₂)

omit [Link L] [Driver P] in
private lemma settle_receives (e : Engine L P) (slot : SlotId) (i : Nat) (session : SessionId)
    (answer : Except Error Outcome) : ReceivesNothing e (e.settle now slot i session answer).2 := by
  match answer with
  | .ok (.reply text) => exact .of_transmitter rfl rfl
  | .ok .pending =>
    have harm := Host.armReply_transmitter e.host slot i session e.ackTimeout i now
    simp only [settle]
    split_ifs
    · exact .refl e
    · split <;> rename_i heq <;> rw [heq] at harm <;> exact .of_transmitter harm rfl
  | .error err => exact .of_transmitter (Host.abandonReply_transmitter e.host slot i session) rfl

lemma request_receives {slot : SlotId} {name : String} {session : SessionId} {request : Request}
    {r : Except Error Outcome} (h : e.request now slot name session request = some (r, e')) :
    ReceivesNothing e e' := by
  simp only [Engine.request] at h
  split at h
  · cases h
    exact .refl _
  · rename_i i resource _
    split at h
    · cases h
      exact .refl _
    · split at h
      · cases h
      · rename_i hcall
        cases h
        exact call_receives hcall
      · rename_i result e₁ hcall
        have hsettle : ReceivesNothing e₁ (e₁.settle now slot i session result).2 :=
          settle_receives e₁ slot i session result
        rw [Option.some.inj h] at hsettle
        exact (call_receives hcall).trans hsettle

omit [Driver P] in
lemma send_receives (e : Engine L P) (core : CoreId) (packet : Packet) :
    ReceivesNothing e (e.send core packet).2 := by
  have hkept := (Host.unseen_credit e.host.transmitter.stats).send (t := e.host.transmitter) rfl
    core packet
  exact .withHost (congrArg (fun t => t.stats.receipts) hkept).symm

/-! ### Frames -/

omit [Link L] [Driver P] in
lemma reject_receipts (e : Engine L P) (frame : Bytes) (err : PacketError) :
    (e.reject frame err).2.receipts = e.receipts.after (e.reject frame err).1 ∧
      (e.reject frame err).2.decoder = e.decoder := by
  have hcounted := LinkStats.receipts_recordRejection e.host.transmitter.stats err
  simp only [reject]
  split_ifs
  · exact ⟨hcounted, rfl⟩
  · exact ⟨hcounted, rfl⟩

/-- An accepted frame is counted once more by what becomes of its packet. -/
lemma route_receipts {core : CoreId} {packet : Packet} {status : RouteStatus}
    (h : e.route now core packet = some (status, e')) :
    e'.receipts = e.receipts.after status ∧ e'.decoder = e.decoder := by
  simp only [route] at h
  split at h
  · cases h
    exact ⟨rfl, rfl⟩
  · obtain ⟨⟨r, e₁⟩, hcall, h⟩ := Option.map_eq_some_iff.mp h
    cases h
    have hcalled := call_receives hcall
    refine ⟨?_, hcalled.decoder⟩
    show { e₁.receipts with routed := e₁.receipts.routed + 1 } = _
    rw [hcalled.receipts]
    rfl

/-- The status of a frame tells how it was counted. -/
lemma dispatch_receipts {frame : Bytes} {status : RouteStatus}
    (h : e.dispatch now frame = some (status, e')) :
    e'.receipts = e.receipts.after status ∧ e'.decoder = e.decoder := by
  simp only [dispatch] at h
  split at h
  · cases h
    exact reject_receipts e frame _
  · -- what is shown on the trace is not counted
    obtain ⟨shown, hshown, hreceipts, hdecoder⟩ :
        ∃ shown, (if e.host.transmitter.trace then e.dump (.accepted frame) else e) = shown ∧
          shown.receipts = e.receipts ∧ shown.decoder = e.decoder := by
      split_ifs
      · exact ⟨_, rfl, rfl, rfl⟩
      · exact ⟨_, rfl, rfl, rfl⟩
    rw [hshown] at h
    rw [← hreceipts, ← hdecoder]
    split at h
    · cases h
      exact reject_receipts shown frame _
    · exact route_receipts h

/-- What was counted of frames, and what the decoder counted, grew by the same number, but for
`direct` frames that did not come from the decoder. Accepted frames stay those routed and missed. -/
structure Judges (direct : Nat) (e e' : Engine L P) : Prop where
  judged : e'.receipts.judged + e.decoder.stats.frames =
    e.receipts.judged + e'.decoder.stats.frames + direct
  balanced : e.receipts.Balanced → e'.receipts.Balanced

namespace Judges

variable {m n : Nat}

omit [Link L] [Driver P] in
lemma refl (e : Engine L P) : Judges 0 e e := ⟨rfl, id⟩

omit [Link L] [Driver P] in
lemma trans (h : Judges m e e') (h' : Judges n e' e'') : Judges (m + n) e e'' := by
  refine ⟨?_, fun hbalanced => h'.balanced (h.balanced hbalanced)⟩
  have hjudged := h.judged
  have hjudged' := h'.judged
  omega

end Judges

omit [Link L] [Driver P] in
lemma ReceivesNothing.judges (h : ReceivesNothing e e') : Judges 0 e e' := by
  refine ⟨?_, fun hbalanced => h.receipts ▸ hbalanced⟩
  rw [h.receipts, h.decoder]
  rfl

lemma dispatch_judges {frame : Bytes} {status : RouteStatus}
    (h : e.dispatch now frame = some (status, e')) : Judges 1 e e' := by
  obtain ⟨hreceipts, hdecoder⟩ := dispatch_receipts h
  constructor
  · rw [hreceipts, hdecoder, Receipts.judged_after]
    exact Nat.add_right_comm ..
  · intro hbalanced
    rw [hreceipts]
    exact hbalanced.after status

lemma dispatchAll_judges {frames : List Bytes} {statuses : List RouteStatus}
    (h : e.dispatchAll now frames = some (statuses, e')) : Judges frames.length e e' := by
  induction frames generalizing e statuses with
  | nil =>
    cases h
    exact .refl _
  | cons frame frames ih =>
    simp only [dispatchAll, Option.bind_eq_bind, Option.bind_eq_some_iff] at h
    obtain ⟨⟨status, e₁⟩, hframe, ⟨statuses, e₂⟩, hframes, h⟩ := h
    cases h
    rw [List.length_cons, Nat.add_comm]
    exact (dispatch_judges hframe).trans (ih hframes)

/-- What the decoder counts and what is counted of its frames is the same. -/
private lemma decoded_judges {decoder : Decoder} {es : List Emission} {statuses : List RouteStatus}
    (hframes : decoder.stats.frames = e.decoder.stats.frames + (Emission.frames es).length)
    (h : e.decoded now decoder es = some (statuses, e')) : Judges 0 e e' := by
  have hdispatched := dispatchAll_judges h
  refine ⟨?_, hdispatched.balanced⟩
  have hjudged : e'.receipts.judged + decoder.stats.frames =
      e.receipts.judged + e'.decoder.stats.frames + (Emission.frames es).length :=
    hdispatched.judged
  omega

lemma feed_judges {bytes : Bytes} {statuses : List RouteStatus}
    (h : e.feed now bytes = some (statuses, e')) : Judges 0 e e' := by
  have hread : ReceivesNothing e
      (e.mapStats fun s => { s with bytesRead := s.bytesRead + bytes.length }) := ⟨rfl, rfl⟩
  exact hread.judges.trans (decoded_judges (e.decoder.stats_frames_feed bytes) h)

lemma drain_judges (h : e.drain now = some e') : Judges 0 e e' := by
  obtain ⟨⟨statuses, e₁⟩, hdecoded, rfl⟩ := Option.map_eq_some_iff.mp h
  have hframes := e.decoder.stats_frames_feed e.buffer.contents
  have htaken : ReceivesNothing e { e with buffer := e.buffer.consume e.buffer.length } :=
    ⟨rfl, rfl⟩
  exact htaken.judges.trans (decoded_judges hframes hdecoded)

omit [Driver P] in
private lemma readLink_receives {r : Except IoError Nat} (h : e.readLink = (r, e')) :
    ReceivesNothing e e' := by
  obtain ⟨transmitter, buffer, rfl, hstats, _⟩ := readLink_eq h
  exact ⟨congrArg LinkStats.receipts hstats, rfl⟩

/-- However a poll ends, every frame that it read was counted. -/
lemma pollReads_judges {reads total : Nat} {r : Except LinkError Nat}
    (h : pollReads now reads total e = some (r, e')) : Judges 0 e e' := by
  induction reads generalizing e total with
  | zero => cases h
  | succ reads ih =>
    simp only [pollReads] at h
    split at h
    · cases h
      exact (readLink_receives ‹_›).judges
    · rename_i n e₁ _ hread
      obtain ⟨e₂, hdrain, h⟩ := Option.bind_eq_some_iff.mp h
      have hcounted : ReceivesNothing e₁
          (e₁.mapStats fun s => { s with bytesRead := s.bytesRead + n }) := ⟨rfl, rfl⟩
      have hdrained := ((readLink_receives hread).trans hcounted).judges.trans (drain_judges hdrain)
      exact hdrained.trans (ih h)
    · rename_i hread
      have hnothing := (readLink_receives hread).judges
      split_ifs at h
      · cases h
        exact hnothing
      · exact hnothing.trans (ih h)
      · cases h
        exact hnothing

/-! ### Runs -/

/-- Is a frame given to the engine that did not come from its decoder? -/
def Action.isDispatch : Action L → Bool
  | .dispatch _ => true
  | _ => false

/-- The engines that runs lead to, each with the actions of the run. -/
inductive Course (options : EngineOptions) (factory : Factory P) :
    List (Action L) → Engine L P → Prop
  | create (link : L) (limit : Nat) :
    Course options factory [] { create options link factory with initLimit := limit }
  | act {actions : List (Action L)} {e e' : Engine L P} (now : Nat) (a : Action L)
    (he : Course options factory actions e) (h : e.act now a = some e') :
    Course options factory (actions ++ [a]) e'

/-- One action counts every frame that it leads to once. -/
lemma act_judges {a : Action L} (hact : e.act now a = some e') :
    Judges ([a].countP Action.isDispatch) e e' := by
  cases a with
  | start =>
    obtain ⟨⟨_, _⟩, h, rfl⟩ := Option.map_eq_some_iff.mp hact
    exact (start_receives h).judges
  | install slot name core =>
    obtain ⟨⟨_, _⟩, h, rfl⟩ := Option.map_eq_some_iff.mp hact
    exact (install_receives h).judges
  | feed bytes =>
    obtain ⟨⟨_, _⟩, h, rfl⟩ := Option.map_eq_some_iff.mp hact
    exact feed_judges h
  | dispatch frame =>
    obtain ⟨⟨_, _⟩, h, rfl⟩ := Option.map_eq_some_iff.mp hact
    exact dispatch_judges h
  | pollLink =>
    obtain ⟨⟨_, _⟩, h, rfl⟩ := Option.map_eq_some_iff.mp hact
    exact pollReads_judges h
  | pollTimers =>
    obtain ⟨⟨_, _⟩, h, rfl⟩ := Option.map_eq_some_iff.mp hact
    exact (fireTimers_receives h).judges
  | request slot name session request =>
    obtain ⟨⟨_, _⟩, h, rfl⟩ := Option.map_eq_some_iff.mp hact
    exact (request_receives h).judges
  | subscribe slot name handle =>
    simp only [act] at hact
    split at hact <;> cases hact
    · obtain ⟨⟨i, r⟩, _, h⟩ := except_bind_eq_ok.mp ‹_›
      obtain ⟨r', _, h⟩ := except_bind_eq_ok.mp h
      cases h
      have hnothing : ReceivesNothing e { e with host := e.host.setResource slot i r' } :=
        .of_transmitter rfl rfl
      exact hnothing.judges
    · exact .refl _
  | unsubscribe slot name =>
    simp only [act] at hact
    split at hact <;> cases hact
    · obtain ⟨⟨i, r⟩, _, h⟩ := except_bind_eq_ok.mp ‹_›
      cases h
      have hnothing : ReceivesNothing e
          { e with host := e.host.setResource slot i r.unsubscribe } :=
        .of_transmitter rfl rfl
      exact hnothing.judges
    · exact .refl _
  | send core packet =>
    cases hact
    exact (send_receives e core packet).judges
  | outside link outbox =>
    -- what others leave in the link is counted when it is read
    cases hact
    have hnothing : ReceivesNothing e (e.withOutside link outbox) := ⟨rfl, rfl⟩
    exact hnothing.judges

lemma Course.judges {options : EngineOptions} {factory : Factory P} {actions : List (Action L)}
    (h : Course options factory actions e) :
    e.receipts.judged = e.decoder.stats.frames + actions.countP Action.isDispatch ∧
      e.receipts.Balanced := by
  induction h with
  | create link limit => exact ⟨rfl, rfl⟩
  | act now a _ hact ih =>
    obtain ⟨hjudged, hbalanced⟩ := ih
    have hnext := act_judges hact
    refine ⟨?_, hnext.balanced hbalanced⟩
    have hgrown := hnext.judged
    rw [List.countP_append]
    omega

/-- In every run, with any drivers, the frames that the decoder gave out and those given to the
engine directly are the packets accepted and those rejected, and the accepted packets are those that
a driver got and those for cores without one. -/
theorem Course.receipts_balance {options : EngineOptions} {factory : Factory P}
    {actions : List (Action L)} (h : Course options factory actions e) :
    e.stats.framesDecoded + actions.countP Action.isDispatch =
        e.stats.packetsAccepted + e.stats.packetsRejected ∧
      e.stats.packetsAccepted = e.stats.packetsRouted + e.stats.routingMisses := by
  obtain ⟨hjudged, hbalanced⟩ := h.judges
  exact ⟨hjudged.symm, hbalanced⟩

/-- Of three frames that are fed, the first goes to the enumerator, the second is for a core without
driver, and the third fails its checksum. A frame that is too short is given to the engine directly.
A poll reads one frame more and then finds that the board hung up. -/
theorem receipts_balance_hungUp :
    let options : EngineOptions :=
      { bufferSize := 5, maxSlots := 2, maxResources := 2, maxTimers := 2, ackTimeout := 100
        tracePackets := false, overloads := [] }
    let bytes : Bytes := [192, 248, 224, 64, 0, 183, 115, 192, 248, 227, 64, 0, 238, 35, 192,
      248, 227, 64, 0, 183, 115, 192]
    let actions : List (Action MemoryLink) := [.start, .feed bytes, .dispatch [1, 2, 3], .pollLink]
    ∃ e e' : Engine MemoryLink Empty, Course options {} actions e' ∧
      e.pollLink 7 = some (.error .closed, e') ∧ actions.countP Action.isDispatch = 1 ∧
      e'.stats.framesDecoded = 4 ∧ e'.stats.packetsAccepted = 3 ∧ e'.stats.packetsRejected = 2 ∧
      e'.stats.packetsRouted = 2 ∧ e'.stats.routingMisses = 1 := by
  intro options bytes actions
  let link : MemoryLink := { incoming := [192, 248, 224, 64, 0, 183, 115, 192], hungUp := true }
  let new : Engine MemoryLink Empty := { create options link {} with initLimit := 1 }
  have hrun : ((new.act 0 .start).bind fun e₁ => (e₁.act 5 (.feed bytes)).bind fun e₂ =>
      (e₂.act 6 (.dispatch [1, 2, 3])).bind fun e => (e.pollLink 7).map fun (r, e') =>
        (r, e'.stats.framesDecoded, e'.stats.packetsAccepted, e'.stats.packetsRouted)) =
      some (.error .closed, 4, 3, 2) := by
    decide
  obtain ⟨e₁, hstart, hrun⟩ := Option.bind_eq_some_iff.mp hrun
  obtain ⟨e₂, hfeed, hrun⟩ := Option.bind_eq_some_iff.mp hrun
  obtain ⟨e, hdispatch, hrun⟩ := Option.bind_eq_some_iff.mp hrun
  obtain ⟨⟨_, e'⟩, hpoll, hrun⟩ := Option.map_eq_some_iff.mp hrun
  simp only [Prod.mk.injEq] at hrun
  obtain ⟨rfl, hdecoded, haccepted, hrouted⟩ := hrun
  have hact : e.act 7 .pollLink = some e' := Option.map_eq_some_iff.mpr ⟨_, hpoll, rfl⟩
  have hnew : Course options {} [] new := .create link 1
  have hcourse : Course options {} actions e' :=
    .act 7 .pollLink (.act 6 _ (.act 5 _ (.act 0 .start hnew hstart) hfeed) hdispatch) hact
  have hdirect : actions.countP Action.isDispatch = 1 := rfl
  -- judged are the frames that were decoded and the one that came directly
  obtain ⟨hjudged, hbalanced⟩ := hcourse.receipts_balance
  refine ⟨e, e', hcourse, hpoll, hdirect, hdecoded, haccepted, ?_, hrouted, ?_⟩
  · omega
  · omega

end Engine

end BoardLink
