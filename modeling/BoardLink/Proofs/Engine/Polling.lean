import BoardLink.Link.Memory
import BoardLink.Proofs.Decoder.Stream
import BoardLink.Proofs.Engine.Run
import BoardLink.Proofs.Host.Transmitter
import BoardLink.Proofs.Transmit.Counting

/-!
# Reading in pieces

An engine that polls its link reads through a bounded buffer and dispatches the frames of one piece
before it reads the next. An engine that is fed decodes all bytes and dispatches afterwards. Drivers
cannot tell the two apart: what still waits on the link and how much was read is hidden from them.
-/

namespace BoardLink.Engine

variable {P : Type}

/-! ### The receiving side of a link -/

/-- The link of an engine. -/
def link (e : Engine MemoryLink P) : MemoryLink := e.host.transmitter.link

/-- The number of bytes read so far. -/
def bytesRead (e : Engine MemoryLink P) : Nat := e.host.transmitter.stats.bytesRead

/-- The link `l` with what can be read taken from `side`. -/
def receiving (side l : MemoryLink) : MemoryLink :=
  { l with
    incoming := side.incoming
    hungUp := side.hungUp
    readChunk := side.readChunk
    readError := side.readError }

/-- The transmitter with another receiving side and another number of bytes read. -/
def intake (side : MemoryLink) (count : Nat) (t : Transmitter MemoryLink) :
    Transmitter MemoryLink :=
  { t with link := receiving side t.link, stats := { t.stats with bytesRead := count } }

variable {side : MemoryLink} {count : Nat}

private lemma write_receiving (side l : MemoryLink) (frame : Bytes) :
    (receiving side l).write frame = Prod.map (receiving side) id (l.write frame) := by
  cases hkind : l.writeError with
  | some kind => simp only [MemoryLink.write, receiving, hkind, Prod.map, id]
  | none =>
    by_cases hblocked : l.writeCapacity = some 0 ∧ frame ≠ []
    · simp only [MemoryLink.write, receiving, hkind, if_pos hblocked, Prod.map, id]
    · simp only [MemoryLink.write, receiving, hkind, if_neg hblocked, Prod.map, id]

/-- No packet shows the receiving side. -/
lemma unseen_intake (side : MemoryLink) (count : Nat) : Host.Unseen (intake side count) := by
  intro t core packet
  have hopen (l : MemoryLink) : Link.isOpen (receiving side l) = Link.isOpen l := rfl
  have hcharge (s : LinkStats Nat) (a : Toll Nat) :
      LinkStats.charge { s with bytesRead := count } a = { s.charge a with bytesRead := count } := rfl
  exact Transmitter.sendBytes_map hopen (write_receiving side) hcharge t core packet.toBytes

/-! ### Dispatching -/

/-- The engine `e` is `f` but for the receiving side of the link, the number of bytes read, the
decoder, the buffer and the trace. -/
structure Tracks (side : MemoryLink) (count : Nat) (f e : Engine MemoryLink P) : Prop where
  host : e.host = f.host.mapTransmitter (intake side count)
  factory : e.factory = f.factory
  ackTimeout : e.ackTimeout = f.ackTimeout
  initLimit : e.initLimit = f.initLimit

namespace Tracks

variable {f f' e : Engine MemoryLink P} {now : Nat}

lemma refl (e : Engine MemoryLink P) : Tracks e.link e.bytesRead e e := ⟨rfl, rfl, rfl, rfl⟩

lemma link_eq (h : Tracks side count f e) : e.link = receiving side f.link :=
  congrArg (fun host => host.transmitter.link) h.host

lemma incoming_eq (h : Tracks side count f e) : e.link.incoming = side.incoming := by
  rw [h.link_eq, receiving]

lemma hungUp_eq (h : Tracks side count f e) : e.link.hungUp = side.hungUp := by
  rw [h.link_eq, receiving]

lemma readChunk_eq (h : Tracks side count f e) : e.link.readChunk = side.readChunk := by
  rw [h.link_eq, receiving]

lemma readError_eq (h : Tracks side count f e) : e.link.readError = side.readError := by
  rw [h.link_eq, receiving]

lemma bytesRead_eq (h : Tracks side count f e) : e.bytesRead = count :=
  congrArg (fun host => host.transmitter.stats.bytesRead) h.host

lemma setting_eq (h : Tracks side count f e) : e.setting now = f.setting now := by
  simp only [setting, h.factory, h.ackTimeout]

lemma withHost (h : Tracks side count f e) (host : Host MemoryLink P) :
    Tracks side count (f.withHost host) (e.withHost (host.mapTransmitter (intake side count))) :=
  ⟨rfl, h.factory, h.ackTimeout, h.initLimit⟩

/-- The counters besides that of the bytes read change alike. -/
lemma mapStats (h : Tracks side count f e) {g : LinkStats Nat → LinkStats Nat}
    (hg : ∀ s : LinkStats Nat, g { s with bytesRead := count } = { g s with bytesRead := count }) :
    Tracks side count (f.mapStats g) (e.mapStats g) where
  host := by
    simp only [Engine.mapStats, h.host, Host.mapTransmitter, intake, hg]
  factory := h.factory
  ackTimeout := h.ackTimeout
  initLimit := h.initLimit

lemma dump (h : Tracks side count f e) (d d' : Dump) :
    Tracks side count (f.dump d) (e.dump d') :=
  ⟨h.host, h.factory, h.ackTimeout, h.initLimit⟩

lemma trace_eq (h : Tracks side count f e) :
    e.host.transmitter.trace = f.host.transmitter.trace := by
  simp only [h.host, Host.mapTransmitter_transmitter, intake]

lemma reject (h : Tracks side count f e) (frame : Bytes) (err : PacketError) :
    Tracks side count (f.reject frame err).2 (e.reject frame err).2 := by
  have hg (s : LinkStats Nat) : LinkStats.recordRejection { s with bytesRead := count } err =
      { s.recordRejection err with bytesRead := count } := by
    cases err <;> rfl
  simp only [Engine.reject, h.trace_eq]
  split_ifs
  · exact (h.dump _ _).mapStats hg
  · exact h.mapStats hg

variable [Driver P]

lemma initialise (h : Tracks side count f e) {slots : List SlotId}
    (hf : f.initialise now slots = some f') :
    ∃ e', e.initialise now slots = some e' ∧ Tracks side count f' e' := by
  obtain ⟨host, hhost, rfl⟩ := initialise_eq_some hf
  refine ⟨_, ?_, h.withHost host⟩
  simp only [Engine.initialise, h.setting_eq, h.initLimit, h.host,
    Host.initialise_mapTransmitter (unseen_intake side count), hhost, Option.map_some]

lemma call (h : Tracks side count f e) {slot : SlotId} {c : Callback} {r : Option c.Result}
    (hf : f.call now slot c = some (r, f')) :
    ∃ e', e.call now slot c = some (r, e') ∧ Tracks side count f' e' := by
  have hcall : e.host.call (e.setting now) slot c = (f.host.call (e.setting now) slot c).map
      (Prod.map id (Prod.map (Host.mapTransmitter (intake side count)) id)) := by
    rw [h.host]
    exact Host.call_mapTransmitter (unseen_intake side count) f.host slot c
  rcases call_eq_some hf with ⟨hnone, rfl, rfl⟩ | ⟨result, host, slots, hsome, rfl, hinit⟩
  · rw [← h.setting_eq] at hnone
    refine ⟨e, ?_, h⟩
    simp only [Engine.call, hcall, hnone, Option.map_none]
  · obtain ⟨e', he', htracks⟩ := (h.withHost host).initialise hinit
    rw [← h.setting_eq] at hsome
    refine ⟨e', ?_, htracks⟩
    simp only [Engine.call, hcall, hsome, Option.map_some, Prod.map, id, he']

omit [Driver P] in
private lemma mapStats_registry (e : Engine MemoryLink P) (g : LinkStats Nat → LinkStats Nat) :
    (e.mapStats g).host.registry = e.host.registry := rfl

lemma route (h : Tracks side count f e) {core : CoreId} {packet : Packet} {s : RouteStatus}
    (hf : f.route now core packet = some (s, f')) :
    ∃ e', e.route now core packet = some (s, e') ∧ Tracks side count f' e' := by
  have haccepted := h.mapStats (g := fun s => { s with packetsAccepted := s.packetsAccepted + 1 })
    fun _ => rfl
  have hroute : e.host.registry.route core = f.host.registry.route core := by rw [h.host]; rfl
  simp only [Engine.route] at hf ⊢
  cases hslot : f.host.registry.route core with
  | none =>
    simp only [mapStats_registry, hroute, hslot] at hf ⊢
    cases hf
    exact ⟨_, rfl, haccepted.mapStats fun _ => rfl⟩
  | some slot =>
    simp only [mapStats_registry, hroute, hslot] at hf ⊢
    obtain ⟨⟨r, f₁⟩, hcall, hf⟩ := Option.map_eq_some_iff.mp hf
    cases hf
    obtain ⟨e₁, he₁, htracks⟩ := haccepted.call hcall
    exact ⟨_, Option.map_eq_some_iff.mpr ⟨(r, e₁), he₁, rfl⟩, htracks.mapStats fun _ => rfl⟩

lemma dispatch (h : Tracks side count f e) {frame : Bytes} {s : RouteStatus}
    (hf : f.dispatch now frame = some (s, f')) :
    ∃ e', e.dispatch now frame = some (s, e') ∧ Tracks side count f' e' := by
  simp only [Engine.dispatch, h.trace_eq] at hf ⊢
  cases hvalid : Frame.validate frame with
  | error err =>
    simp only [hvalid] at hf
    cases hf
    exact ⟨_, rfl, h.reject frame err⟩
  | ok accepted =>
    simp only [hvalid] at hf
    have hshown : Tracks side count
        (if f.host.transmitter.trace then f.dump (.accepted frame) else f)
        (if f.host.transmitter.trace then e.dump (.accepted frame) else e) := by
      split_ifs
      · exact h.dump _ _
      · exact h
    cases hpacket : Packet.ofBytes accepted.packet with
    | error err =>
      simp only [hpacket] at hf ⊢
      cases hf
      exact ⟨_, rfl, hshown.reject frame err⟩
    | ok packet =>
      simp only [hpacket] at hf ⊢
      exact hshown.route hf

lemma dispatchAll (h : Tracks side count f e) {frames : List Bytes} {ss : List RouteStatus}
    (hf : f.dispatchAll now frames = some (ss, f')) :
    ∃ e', e.dispatchAll now frames = some (ss, e') ∧ Tracks side count f' e' := by
  induction frames generalizing f e ss with
  | nil =>
    cases hf
    exact ⟨e, rfl, h⟩
  | cons frame frames ih =>
    simp only [Engine.dispatchAll, Option.bind_eq_bind, Option.bind_eq_some_iff] at hf
    obtain ⟨⟨s, f₁⟩, h₁, ⟨ss, f₂⟩, h₂, hf⟩ := hf
    cases hf
    obtain ⟨e₁, he₁, htracks₁⟩ := h.dispatch h₁
    obtain ⟨e₂, he₂, htracks₂⟩ := ih htracks₁ h₂
    refine ⟨e₂, ?_, htracks₂⟩
    simp only [Engine.dispatchAll, Option.bind_eq_bind, he₁, he₂, Option.bind_some]
    rfl

end Tracks

/-! ### Reading -/

variable {f f' e e' : Engine MemoryLink P} {now : Nat}

/-- A read brings some of the bytes that wait, if there is room for one. -/
lemma read_of_incoming {l : MemoryLink} {space : Nat} (hread : l.readError = none)
    (hwait : l.incoming ≠ []) (hspace : 0 < space) :
    ∃ n, 0 < n ∧ n ≤ space ∧ n ≤ l.incoming.length ∧
      l.read space = ({ l with incoming := l.incoming.drop n }, .ok (l.incoming.take n)) := by
  have hlength : 0 < l.incoming.length := List.length_pos_iff.mpr hwait
  refine ⟨l.readSize space, ?_, ?_, ?_, ?_⟩
  · simp only [MemoryLink.readSize]
    split <;> omega
  · simp only [MemoryLink.readSize]
    split <;> omega
  · simp only [MemoryLink.readSize]
    split <;> omega
  · simp only [MemoryLink.read, hread, List.isEmpty_iff, hwait, if_false]

/-- The engine after a read of `n` bytes into its empty buffer. -/
def afterRead (e : Engine MemoryLink P) (n : Nat) : Engine MemoryLink P :=
  { e with
    host := e.host.mapTransmitter
      (intake { e.link with incoming := e.link.incoming.drop n } e.bytesRead)
    buffer := { e.buffer with contents := e.link.incoming.take n } }

lemma readLink_of_incoming (hread : e.link.readError = none) (hwait : e.link.incoming ≠ [])
    (hempty : e.buffer.contents = []) (hroom : 0 < e.buffer.capacity) :
    ∃ n, 0 < n ∧ n ≤ e.link.incoming.length ∧ e.readLink = (.ok n, e.afterRead n) := by
  have hspare : e.buffer.spare = e.buffer.capacity := by
    rw [ReceiveBuffer.spare, hempty, List.length_nil, Nat.sub_zero]
  obtain ⟨n, hpos, hle, hlen, hlink⟩ := read_of_incoming hread hwait (hspare ▸ hroom)
  have htake : (e.link.incoming.take n).length = n := List.length_take_of_le hlen
  refine ⟨n, hpos, hlen, ?_⟩
  have hlink : Link.read e.host.transmitter.link e.buffer.spare =
      ({ e.link with incoming := e.link.incoming.drop n }, .ok (e.link.incoming.take n)) := hlink
  have hbuffer : e.buffer.receive (e.link.incoming.take n) (.ok n : Except IoError Nat) =
      { e.buffer with contents := e.link.incoming.take n } := by
    simp only [ReceiveBuffer.receive, ReceiveBuffer.spareAfter, hempty, htake, List.nil_append]
    rw [List.take_take, Nat.min_eq_left hle, List.take_left' htake]
  simp only [readLink, hlink, Except.map, htake, Except.toOption, Option.getD_some, hbuffer]
  rfl

variable [Driver P]

lemma dispatchAll_append {frames frames' : List Bytes} {ss : List RouteStatus}
    (h : f.dispatchAll now (frames ++ frames') = some (ss, f')) :
    ∃ ss₁ f₁ ss₂, f.dispatchAll now frames = some (ss₁, f₁) ∧
      f₁.dispatchAll now frames' = some (ss₂, f') := by
  induction frames generalizing f ss with
  | nil => exact ⟨[], f, ss, rfl, h⟩
  | cons frame frames ih =>
    simp only [List.cons_append, dispatchAll, Option.bind_eq_bind, Option.bind_eq_some_iff] at h
    obtain ⟨⟨s, f₁⟩, h₁, ⟨ss, f₂⟩, h₂, h⟩ := h
    cases h
    obtain ⟨ss₁, f₂, ss₂, hfirst, hrest⟩ := ih h₂
    refine ⟨s :: ss₁, f₂, ss₂, ?_, hrest⟩
    simp only [dispatchAll, Option.bind_eq_bind, h₁, hfirst, Option.bind_some]
    rfl

/-- A drain dispatches the frames in the buffer as a feed would. -/
private lemma drain_of_dispatchAll {ss : List RouteStatus} (htracks : Tracks side count f e)
    (hf : f.dispatchAll now (Emission.frames (e.decoder.feed e.buffer.contents).2) =
      some (ss, f')) :
    ∃ e', e.drain now = some e' ∧ e'.buffer = { e.buffer with contents := [] } ∧
      e'.decoder = (e.decoder.feed e.buffer.contents).1 ∧ Tracks side count f' e' := by
  let fed := e.decoder.feed e.buffer.contents
  let e₁ : Engine MemoryLink P :=
    { e with
      buffer := e.buffer.consume e.buffer.length
      decoder := fed.1
      dumps := e.dumps ++ (Emission.discards fed.2).map Dump.rejected }
  have htracks₁ : Tracks side count f e₁ :=
    ⟨htracks.host, htracks.factory, htracks.ackTimeout, htracks.initLimit⟩
  obtain ⟨e', he', htracks'⟩ := htracks₁.dispatchAll hf
  have hdrain : e.drain now = some e' := Option.map_eq_some_iff.mpr ⟨(ss, e'), he', rfl⟩
  exact ⟨e', hdrain, (drain_advance hdrain).1,
    congrArg Shell.decoder (dispatchAll_advance he').shell, htracks'⟩

/-- Where nothing waits, a read ends the poll. -/
private lemma pollReads_of_nil (reads total : Nat) (hwait : e.link.incoming = [])
    (hread : e.link.readError = none) :
    pollReads now (reads + 1) total e =
      some (if e.link.hungUp then .error .closed else .ok total, e) := by
  have hlink : Link.read e.host.transmitter.link e.buffer.spare =
      (e.link, if e.link.hungUp then .ok [] else .error (.ofKind .wouldBlock)) := by
    show e.link.read e.buffer.spare = _
    simp only [MemoryLink.read, hread, hwait, List.isEmpty_nil, if_true]
  have hnothing : e.buffer.receive ([] : Bytes) (.ok 0 : Except IoError Nat) = e.buffer := by
    simp only [ReceiveBuffer.receive, List.take_zero, List.append_nil]
  cases hhungUp : e.link.hungUp with
  | false =>
    have hend : e.readLink = (.error (.ofKind .wouldBlock), e) := by
      simp only [readLink, hlink, hhungUp]
      rfl
    simp only [pollReads, hend, IoError.kind, if_true]
    rfl
  | true =>
    have hend : e.readLink = (.ok 0, e) := by
      simp only [readLink, hlink, hhungUp]
      simp only [if_true, Except.map, List.length_nil, Except.toOption, Option.getD_some, hnothing]
      rfl
    simp only [pollReads, hend, if_true]

/-- Whatever a feed leads to, reading in pieces leads to as well. -/
lemma pollReads_of_dispatchAll (reads total : Nat) {ss : List RouteStatus}
    (htracks : Tracks side count f e) (hreads : side.incoming.length < reads)
    (hread : side.readError = none) (hempty : e.buffer.contents = [])
    (hroom : 0 < e.buffer.capacity)
    (hf : f.dispatchAll now (Emission.frames (e.decoder.feed side.incoming).2) = some (ss, f')) :
    ∃ e', pollReads now reads total e =
        some (if side.hungUp then .error .closed else .ok (total + side.incoming.length), e') ∧
      e'.buffer = e.buffer ∧ e'.decoder = (e.decoder.feed side.incoming).1 ∧
      Tracks { side with incoming := [] } (count + side.incoming.length) f' e' := by
  induction reads generalizing side count e f ss total with
  | zero => exact absurd hreads (Nat.not_lt_zero _)
  | succ reads ih =>
    have hincoming := htracks.incoming_eq
    have herror := htracks.readError_eq.trans hread
    by_cases hwait : side.incoming = []
    · rw [hwait, Decoder.feed_nil, Emission.frames_nil] at hf
      cases hf
      have hside : side = { side with incoming := [] } := by rw [← hwait]
      rw [pollReads_of_nil reads total (hincoming.trans hwait) herror, htracks.hungUp_eq, hwait,
        Decoder.feed_nil, ← hside]
      exact ⟨e, rfl, rfl, rfl, htracks⟩
    · obtain ⟨n, hpos, hlen, hpiece⟩ :=
        readLink_of_incoming herror (hincoming ▸ hwait) hempty hroom
      rw [hincoming] at hlen
      let e₁ := (e.afterRead n).mapStats fun s => { s with bytesRead := s.bytesRead + n }
      have htracks₁ : Tracks { side with incoming := side.incoming.drop n } (count + n) f e₁ := by
        refine ⟨?_, htracks.factory, htracks.ackTimeout, htracks.initLimit⟩
        have hhost : e₁.host = e.host.mapTransmitter
          (intake { e.link with incoming := e.link.incoming.drop n } (e.bytesRead + n)) := rfl
        rw [hhost, htracks.bytesRead_eq, htracks.link_eq, htracks.host]
        rfl
      -- the decoder emits for all bytes what it emits for this piece and then for the rest
      have hsplit := e.decoder.feed_append (side.incoming.take n) (side.incoming.drop n)
      rw [List.take_append_drop] at hsplit
      rw [hsplit, Emission.frames_append] at hf
      obtain ⟨ss₁, f₁, ss₂, hf₁, hf₂⟩ := dispatchAll_append hf
      have hcontents : e₁.buffer.contents = side.incoming.take n := congrArg _ hincoming
      rw [← hcontents] at hf₁
      obtain ⟨e₂, hdrain, hbuffer, hdecoder, htracks₂⟩ := drain_of_dispatchAll htracks₁ hf₁
      have hbuffer₂ : e₂.buffer = e.buffer :=
        hbuffer.trans (congrArg (ReceiveBuffer.mk · e.buffer.capacity) hempty.symm)
      rw [hcontents] at hdecoder
      have hrest : (side.incoming.drop n).length < reads := by
        rw [List.length_drop]
        omega
      obtain ⟨e', hpoll, hbuffer', hdecoder', htracks'⟩ :=
        ih (total + n) htracks₂ hrest hread (hbuffer₂ ▸ hempty) (hbuffer₂ ▸ hroom)
          (hdecoder ▸ hf₂)
      have htotal : n + (side.incoming.drop n).length = side.incoming.length := by
        rw [List.length_drop]
        omega
      refine ⟨e', ?_, hbuffer'.trans hbuffer₂, ?_, ?_⟩
      · obtain ⟨k, rfl⟩ : ∃ k, n = k + 1 := ⟨n - 1, by omega⟩
        simp only [pollReads, hpiece]
        have hdrain' : ((e.afterRead (k + 1)).mapStats fun s =>
          { s with bytesRead := s.bytesRead + (k + 1) }).drain now = some e₂ := hdrain
        rw [hdrain', Option.bind_eq_bind, Option.bind_some, hpoll, Nat.add_assoc, htotal]
      · rw [hdecoder', hsplit, hdecoder]
        rfl
      · rw [Nat.add_assoc, htotal] at htracks'
        exact htracks'

/-- Polling the link does what feeding the bytes that wait on it does, whatever the size of the
buffer and of the reads. The link and the buffer are empty after it. -/
theorem pollLink_of_feed {options : EngineOptions} {factory : Factory P}
    {statuses : List RouteStatus} (he : Reachable options factory e)
    (hsize : 1 ≤ options.bufferSize) (hread : e.link.readError = none)
    (hfeed : e.feed now e.link.incoming = some (statuses, f)) :
    ∃ e', e.pollLink now = some
        (if e.link.hungUp then .error .closed else .ok e.link.incoming.length, e') ∧
      e'.link = { f.link with incoming := [] } ∧ e'.buffer.contents = [] ∧
      e'.host.registry = f.host.registry ∧ e'.host.timers = f.host.timers ∧
      e'.decoder = f.decoder ∧ e'.stats = f.stats ∧ e'.host.outbox = f.host.outbox ∧
      e'.host.journal = f.host.journal := by
  have hbuffer := he.fixed.buffer
  let fed : Engine MemoryLink P :=
    { e.mapStats fun s => { s with bytesRead := s.bytesRead + e.link.incoming.length } with
      decoder := (e.decoder.feed e.link.incoming).1
      dumps := e.dumps ++
        (Emission.discards (e.decoder.feed e.link.incoming).2).map Dump.rejected }
  have hfed : fed.dispatchAll now (Emission.frames (e.decoder.feed e.link.incoming).2) =
      some (statuses, f) := hfeed
  have hdecoder : f.decoder = (e.decoder.feed e.link.incoming).1 :=
    congrArg Shell.decoder (dispatchAll_advance hfed).shell
  -- feeding leaves the receiving side of the link alone
  have hself : Tracks e.link (e.bytesRead + e.link.incoming.length) f f := by
    obtain ⟨f', hf', hself⟩ := (Tracks.refl fed).dispatchAll hfed
    rw [hfed] at hf'
    cases hf'
    exact hself
  have htracks : Tracks e.link e.bytesRead fed e := ⟨rfl, rfl, rfl, rfl⟩
  obtain ⟨e', hpoll, hbuffer', hdecoder', htracks'⟩ :=
    pollReads_of_dispatchAll (Link.backlog e.link + 1) 0 htracks
      (by show _ < e.link.incoming.length + 1 + 1; omega) hread (hbuffer ▸ rfl) (hbuffer ▸ hsize)
      hfed
  rw [Nat.zero_add] at hpoll
  have hlink : e'.link = { f.link with incoming := [] } := by
    rw [htracks'.link_eq, receiving, ← hself.hungUp_eq, ← hself.readChunk_eq, ← hself.readError_eq]
  have hhost := htracks'.host
  have hstats : e'.host.transmitter.stats = f.host.transmitter.stats := by
    rw [hhost, Host.mapTransmitter_transmitter, intake, ← hself.bytesRead_eq]
    rfl
  refine ⟨e', hpoll, hlink, ?_, ?_, ?_, ?_, ?_, ?_, ?_⟩
  · rw [hbuffer', hbuffer]
    rfl
  · rw [hhost]
    rfl
  · rw [hhost]
    rfl
  · rw [hdecoder', hdecoder]
  · rw [stats, stats, hstats, hdecoder', hdecoder]
  · rw [hhost]
    rfl
  · rw [hhost]
    rfl

/-- A started engine reads an acknowledged write in pieces of two bytes from a link that hangs up
after it. The enumerator gets the packet, and its timer is gone. -/
theorem pollLink_of_feed_acknowledged :
    let options : EngineOptions :=
      { bufferSize := 3, maxSlots := 2, maxResources := 2, maxTimers := 2, ackTimeout := 100
        tracePackets := false, overloads := [] }
    ∃ e f e' : Engine MemoryLink Empty, Reachable options {} e ∧ 1 ≤ options.bufferSize ∧
      e.link.readError = none ∧
      e.feed 5 e.link.incoming = some ([.delivered .enumerator], f) ∧
      e.pollLink 5 = some (.error .closed, e') ∧ e'.host.timers = f.host.timers ∧
      e.host.timers.armed = 1 ∧ f.host.timers.armed = 0 := by
  intro options
  let link : MemoryLink :=
    { incoming := [192, 248, 224, 64, 0, 183, 115, 192], hungUp := true, readChunk := some 2 }
  let new : Engine MemoryLink Empty := { create options link {} with initLimit := 9 }
  have hrun : ((new.act 0 .start).bind fun e =>
      (e.feed 5 e.link.incoming).map fun (statuses, f) =>
        (e.link.readError, e.link.hungUp, e.host.timers.armed, statuses, f.host.timers.armed)) =
      some (none, true, 1, [.delivered .enumerator], 0) := by
    decide
  obtain ⟨e, hstart, hrun⟩ := Option.bind_eq_some_iff.mp hrun
  obtain ⟨⟨statuses, f⟩, hfeed, hrun⟩ := Option.map_eq_some_iff.mp hrun
  simp only [Prod.mk.injEq] at hrun
  obtain ⟨hread, hhungUp, harmed, rfl, hdone⟩ := hrun
  have he : Reachable options {} e := .act 0 .start (.create link 9) hstart
  obtain ⟨e', hpoll, -, -, -, htimers, -⟩ := pollLink_of_feed he (by decide) hread hfeed
  rw [hhungUp] at hpoll
  exact ⟨e, f, e', he, by decide, hread, hfeed, hpoll, htimers, harmed, hdone⟩
end BoardLink.Engine
