import BoardLink.Link.Memory
import BoardLink.Proofs.Engine.Run
import BoardLink.Proofs.Host.Waits
import BoardLink.Proofs.Registry.Bindings

/-!
# What becomes of each frame

A frame that fails a check is rejected, and one whose core has no driver is dropped; of both only the
counters tell. The packet of any other frame goes to the one driver of its core.
-/

namespace BoardLink

/-! ### The packet in a frame -/

/-- The checks cut off the checksum and nothing else. -/
lemma Frame.validate_eq_ok {frame : Bytes} {a : Accepted} (h : Frame.validate frame = .ok a) :
    Frame.minLength ≤ frame.length ∧ a.packet = frame.take (frame.length - Crc.size) := by
  simp only [Frame.validate] at h
  split_ifs at h with hshort
  refine ⟨Nat.not_lt.mp hshort, ?_⟩
  split at h
  · split_ifs at h
    · split at h <;> cases h
    · split at h
      · cases h
      · cases h
        rfl
  · cases h

/-- Bytes between a header and the longest packet are a packet. -/
lemma Packet.exists_ofBytes {bytes : Bytes} (hheader : Header.size ≤ bytes.length)
    (hlen : bytes.length ≤ Packet.maxLength) :
    ∃ packet, Packet.ofBytes bytes = .ok packet ∧ packet.toBytes = bytes := by
  match bytes, hheader with
  | command :: core :: register :: count :: data, _ =>
    have hlen : Header.size + data.length ≤ Packet.maxLength := by
      simp only [List.length_cons] at hlen
      simp only [Header.size]
      omega
    refine ⟨{ header := { command, core, register, count }, data }, ?_, rfl⟩
    rw [Packet.ofBytes, if_pos hlen]

/-- A frame of the decoder that passes the checks holds a packet. -/
lemma Frame.exists_packet {frame : Bytes} {a : Accepted} (hlen : frame.length ≤ Frame.maxDecoded)
    (h : Frame.validate frame = .ok a) :
    ∃ packet, Packet.ofBytes a.packet = .ok packet ∧
      packet.toBytes = frame.take (frame.length - 2) := by
  obtain ⟨hmin, hpacket⟩ := Frame.validate_eq_ok h
  have hlength : a.packet.length = frame.length - Crc.size := by
    rw [hpacket, List.length_take]
    omega
  rw [Frame.minLength] at hmin
  rw [Frame.maxDecoded] at hlen
  have hheader : Header.size ≤ a.packet.length := by omega
  have hfits : a.packet.length ≤ Packet.maxLength := by omega
  obtain ⟨packet, hpacket', hbytes⟩ := Packet.exists_ofBytes hheader hfits
  exact ⟨packet, hpacket', hbytes.trans hpacket⟩

/-! ### Calls in the journal -/

lemma Journal.Continues.not_called {j entries : Journal} (h : j.Continues (j ++ entries))
    {slot : SlotId} {serial : Nat} {c : Callback} : .called slot serial c ∉ entries := by
  obtain ⟨entries', heq, hentries⟩ := h
  obtain rfl := List.append_cancel_left heq
  intro hmem
  have hnone := List.filterMap_eq_nil_iff.mp (hentries serial) _ hmem
  simp at hnone

namespace Host

variable {L P : Type} [Link L] [Driver P] {setting : Setting P} {h h' : Host L P}

/-- A call of one driver is one entry in the journal, and what its program does adds no other call. -/
lemma call_journal_eq {slot : SlotId} {c : Callback} {result : c.Result} {slots : List SlotId}
    (hcall : h.call setting slot c = some (result, h', slots)) :
    ∃ inst rest, (h.registry.slot? slot).bind Slot.driver = some inst ∧
      h'.journal = h.journal ++ .called slot inst.serial c :: rest ∧
      ∀ slot' serial c', .called slot' serial c' ∉ rest := by
  obtain ⟨inst, generation, registry, driver, h₁, htake, hrun, rfl⟩ := call_eq_some hcall
  obtain ⟨s, hs, hdriver, _⟩ := Registry.takeDriver_cases htake
  have hstaffs (h : Host L P) (op : Op P) :
      Staffs (fun _ => True) h (h.perform setting slot op).2 :=
    perform_staffs fun _ _ _ _ => trivial
  have hcontinues := run_rel (R := fun h h' => h.journal.Continues h'.journal)
    (fun h => .refl h.journal) .trans (fun h op => (hstaffs h op).journal)
    (inst.driver.respond c) ({ h with registry }.record (.called slot inst.serial c))
  rw [hrun] at hcontinues
  obtain ⟨rest, hrest⟩ := hcontinues.isPrefix
  refine ⟨inst, rest, by rw [hs, Option.bind_some, hdriver], ?_, fun slot' serial c' => ?_⟩
  · rw [← hrest]
    simp [record]
  · rw [← hrest] at hcontinues
    exact hcontinues.not_called

/-- Initialising slots calls drivers to be initialised, and for nothing else. -/
lemma initialise_journal {limit : Nat} {slots : List SlotId}
    (hinit : initialise setting limit slots h = some h') :
    ∃ rest, h'.journal = h.journal ++ rest ∧
      ∀ slot serial c, .called slot serial c ∈ rest → c = .init := by
  induction limit generalizing slots h with
  | zero =>
    cases slots with
    | nil =>
      cases hinit
      exact ⟨[], by simp, by simp⟩
    | cons slot rest => cases hinit
  | succ limit ih =>
    cases slots with
    | nil =>
      cases hinit
      exact ⟨[], by simp, by simp⟩
    | cons slot rest =>
      -- the slots that the first one filled come before the rest
      simp only [initialise] at hinit
      split at hinit
      · exact ih hinit
      · obtain ⟨inst, during, _, hjournal, hduring⟩ := call_journal_eq ‹_›
        obtain ⟨after, hjournal', hafter⟩ := ih hinit
        refine ⟨.called slot inst.serial .init :: (during ++ after), ?_, ?_⟩
        · rw [hjournal', hjournal]
          simp
        · intro slot' serial c hmem
          rcases List.mem_cons.mp hmem with heq | hmem
          · cases heq
            rfl
          · rcases List.mem_append.mp hmem with hmem | hmem
            · exact absurd hmem (hduring _ _ _)
            · exact hafter _ _ _ hmem

end Host

namespace Engine

variable {L P : Type} {e e₁ e' : Engine L P} {now : Nat} {frame : Bytes}
  {status : RouteStatus}

/-! ### One frame -/

/-- What becomes of a frame. The status tells, before anything is done, which check fails, or which
core has no driver, or in which slot the driver is. That driver is called once with the packet, and
after that drivers are only initialised. Without a call only counters change, and what is shown if
packets are. -/
structure Dispatched (frame : Bytes) (status : RouteStatus) (e e' : Engine L P) : Prop where
  rejected : ∀ err, status = .rejected err ↔ Frame.validate frame = .error err
  unrouted : ∀ core, status = .unrouted core ↔
    ∃ a, Frame.validate frame = .ok a ∧ a.core = core ∧ e.host.registry.route core = none
  delivered : ∀ slot, status = .delivered slot ↔
    ∃ a, Frame.validate frame = .ok a ∧ e.host.registry.route a.core = some slot
  called : ∀ slot, status = .delivered slot → ∃ inst packet rest,
    (e.host.registry.slot? slot).bind Slot.driver = some inst ∧
    packet.toBytes = frame.take (frame.length - 2) ∧
    e'.host.journal = e.host.journal ++ .called slot inst.serial (.packet packet) :: rest ∧
    ∀ slot' serial c, .called slot' serial c ∈ rest → c = .init
  dropped : (∀ slot, status ≠ .delivered slot) → ∃ stats dumps,
    e' = { e with
      host := { e.host with transmitter := { e.host.transmitter with stats } }
      dumps } ∧
    (e.host.transmitter.trace = false → dumps = e.dumps)

/-- Frames one after the other, each with the engine that the frames before it led to. -/
inductive Dispatches : List Bytes → List RouteStatus → Engine L P → Engine L P → Prop
  | nil (e : Engine L P) : Dispatches [] [] e e
  | cons {frame : Bytes} {frames : List Bytes} {status : RouteStatus} {statuses : List RouteStatus}
    {e e₁ e' : Engine L P} (h : Dispatched frame status e e₁)
    (hrest : Dispatches frames statuses e₁ e') :
    Dispatches (frame :: frames) (status :: statuses) e e'

/-- Something is shown, if packets are. -/
lemma shown_eq (e : Engine L P) (d : Dump) :
    ∃ dumps, (if e.host.transmitter.trace then e.dump d else e) = { e with dumps } ∧
      (e.host.transmitter.trace = false → dumps = e.dumps) := by
  split_ifs with htrace
  · refine ⟨_, rfl, ?_⟩
    simp [htrace]
  · exact ⟨_, rfl, fun _ => rfl⟩

/-- What is shown before the packet is looked at is nothing to the packet. -/
lemma Dispatched.of_shown {shown : Engine L P} (h : Dispatched frame status shown e')
    (hshown : ∃ dumps, shown = { e with dumps } ∧
      (e.host.transmitter.trace = false → dumps = e.dumps)) : Dispatched frame status e e' := by
  obtain ⟨dumps, rfl, hdumps⟩ := hshown
  refine ⟨h.rejected, h.unrouted, h.delivered, h.called, fun hnone => ?_⟩
  obtain ⟨stats, dumps', rfl, hdumps'⟩ := h.dropped hnone
  exact ⟨stats, dumps', rfl, fun htrace => (hdumps' htrace).trans (hdumps htrace)⟩

/-- A frame that fails a check. -/
lemma reject_dispatched {err : PacketError} (hinvalid : Frame.validate frame = .error err) :
    Dispatched frame (e.reject frame err).1 e (e.reject frame err).2 := by
  have hstatus : (e.reject frame err).1 = .rejected err := rfl
  constructor
  · intro err'
    rw [hstatus, hinvalid, RouteStatus.rejected.injEq, Except.error.injEq]
  · simp [hstatus, hinvalid]
  · simp [hstatus, hinvalid]
  · simp [hstatus]
  · intro _
    obtain ⟨dumps, hshown, hdumps⟩ := shown_eq e (.rejected frame)
    simp only [reject, hshown]
    exact ⟨_, dumps, rfl, hdumps⟩

variable [Link L] [Driver P]

/-- Where a packet is routed to there is a driver. It is called once, and after that drivers are only
initialised. -/
lemma call_journal_of_route {core : CoreId} {slot : SlotId} {c : Callback} {r : Option c.Result}
    (hroute : e.host.registry.route core = some slot) (h : e.call now slot c = some (r, e')) :
    ∃ inst rest, (e.host.registry.slot? slot).bind Slot.driver = some inst ∧
      e'.host.journal = e.host.journal ++ .called slot inst.serial c :: rest ∧
      ∀ slot' serial c', .called slot' serial c' ∈ rest → c' = .init := by
  rcases call_eq_some h with ⟨hnone, _⟩ | ⟨result, host, slots, hcall, _, hinit⟩
  · obtain ⟨_, s, driver, hs, hdriver⟩ := Registry.bound_of_route hroute
    obtain ⟨generation, registry, htake⟩ := Registry.exists_takeDriver hs hdriver
    simp [Host.call, htake] at hnone
  · obtain ⟨inst, during, hinst, hjournal, hduring⟩ := Host.call_journal_eq hcall
    obtain ⟨host', hhost', rfl⟩ := initialise_eq_some hinit
    obtain ⟨after, hjournal', hafter⟩ := Host.initialise_journal hhost'
    refine ⟨inst, during ++ after, hinst, ?_, ?_⟩
    · calc host'.journal = host.journal ++ after := hjournal'
        _ = e.host.journal ++ .called slot inst.serial c :: (during ++ after) := by
          rw [hjournal]
          simp
    · intro slot' serial c' hmem
      rcases List.mem_append.mp hmem with hmem | hmem
      · exact absurd hmem (hduring _ _ _)
      · exact hafter _ _ _ hmem

/-- The packet of a frame that passes the checks. -/
lemma route_dispatched {a : Accepted} {packet : Packet} (hvalid : Frame.validate frame = .ok a)
    (hpacket : packet.toBytes = frame.take (frame.length - 2))
    (h : e.route now a.core packet = some (status, e')) : Dispatched frame status e e' := by
  simp only [route] at h
  split at h
  -- nobody is there for the core: only the counter of misses moves
  · rename_i hroute
    cases h
    have hroute : e.host.registry.route a.core = none := hroute
    constructor
    · simp [hvalid]
    · simp [hvalid, hroute]
    · simp [hvalid, hroute]
    · simp
    · intro _
      exact ⟨_, _, rfl, fun _ => rfl⟩
  · rename_i slot hroute
    obtain ⟨⟨r, e₁⟩, hcall, h⟩ := Option.map_eq_some_iff.mp h
    cases h
    obtain ⟨inst, rest, hinst, hjournal, hrest⟩ := call_journal_of_route hroute hcall
    have hroute : e.host.registry.route a.core = some slot := hroute
    constructor
    · simp [hvalid]
    · simp [hvalid, hroute]
    · simp [hvalid, hroute]
    · intro slot' heq
      cases heq
      exact ⟨inst, packet, rest, hinst, hpacket, hjournal, hrest⟩
    · intro hnone
      exact absurd rfl (hnone slot)

lemma dispatch_dispatched (hlen : frame.length ≤ Frame.maxDecoded)
    (h : e.dispatch now frame = some (status, e')) : Dispatched frame status e e' := by
  simp only [dispatch] at h
  split at h
  · rename_i err hinvalid
    cases h
    exact reject_dispatched hinvalid
  · rename_i a hvalid
    obtain ⟨packet, hof, hbytes⟩ := Frame.exists_packet hlen hvalid
    rw [hof] at h
    exact (route_dispatched hvalid hbytes h).of_shown (shown_eq e (.accepted frame))

/-! ### All frames -/

lemma dispatchAll_dispatches {frames : List Bytes} {statuses : List RouteStatus}
    (hlen : ∀ frame ∈ frames, frame.length ≤ Frame.maxDecoded)
    (h : e.dispatchAll now frames = some (statuses, e')) : Dispatches frames statuses e e' := by
  induction frames generalizing e statuses with
  | nil =>
    cases h
    exact .nil _
  | cons frame frames ih =>
    simp only [dispatchAll, Option.bind_eq_bind, Option.bind_eq_some_iff] at h
    obtain ⟨⟨status, e₁⟩, hframe, ⟨statuses, e₂⟩, hframes, h⟩ := h
    cases h
    constructor
    · exact dispatch_dispatched (hlen frame List.mem_cons_self) hframe
    · exact ih (fun frame' hmem => hlen frame' (List.mem_cons_of_mem _ hmem)) hframes

/-- The engine when the bytes are counted and decoded and no frame is looked at yet. -/
def decoding (e : Engine L P) (bytes : Bytes) : Engine L P :=
  { e.mapStats fun s => { s with bytesRead := s.bytesRead + bytes.length } with
    decoder := (e.decoder.feed bytes).1
    dumps := e.dumps ++ (Emission.discards (e.decoder.feed bytes).2).map Dump.rejected }

/-- Feeding bytes gives one status for each frame that the decoder makes of them, in order. The status
tells what becomes of the frame where the frames before it have led to. -/
theorem Reachable.dispatches_of_feed {options : EngineOptions} {factory : Factory P} {bytes : Bytes}
    {statuses : List RouteStatus} (he : Reachable options factory e)
    (hfeed : e.feed now bytes = some (statuses, e')) :
    Dispatches (Emission.frames (e.decoder.feed bytes).2) statuses (e.decoding bytes) e' := by
  refine dispatchAll_dispatches (fun frame hframe => ?_) hfeed
  exact he.fixed.decoder.length_frame_le (Emission.mem_frames.mp hframe)

/-- Of three frames, the first goes to the enumerator, the second names a core without driver, and the
third fails its checksum. -/
theorem dispatches_of_feed_three :
    let options : EngineOptions :=
      { bufferSize := 1, maxSlots := 2, maxResources := 2, maxTimers := 2, ackTimeout := 100
        tracePackets := false, overloads := [] }
    let bytes : Bytes := [192, 248, 224, 64, 0, 183, 115, 192, 248, 227, 64, 0, 238, 35, 192,
      248, 227, 64, 0, 183, 115, 192]
    let statuses : List RouteStatus :=
      [.delivered .enumerator, .unrouted (3 : Fin 16), .rejected .crcMismatch]
    ∃ e e' : Engine MemoryLink Empty, Reachable options {} e ∧ e.feed 5 bytes = some (statuses, e') ∧
      Dispatches [[248, 224, 64, 0, 183, 115], [248, 227, 64, 0, 238, 35], [248, 227, 64, 0, 183, 115]]
        statuses (e.decoding bytes) e' := by
  intro options bytes statuses
  let link : MemoryLink := {}
  let new : Engine MemoryLink Empty := { create options link {} with initLimit := 1 }
  have hrun : ((new.act 0 .start).bind fun e => (e.feed 5 bytes).map fun (statuses, _) =>
      (Emission.frames (e.decoder.feed bytes).2, statuses)) =
      some ([[248, 224, 64, 0, 183, 115], [248, 227, 64, 0, 238, 35], [248, 227, 64, 0, 183, 115]],
        statuses) := by
    decide
  obtain ⟨e, hstart, hrun⟩ := Option.bind_eq_some_iff.mp hrun
  obtain ⟨⟨_, e'⟩, hfeed, hrun⟩ := Option.map_eq_some_iff.mp hrun
  obtain ⟨hframes, rfl⟩ := Prod.mk.inj hrun
  have he : Reachable options {} e := .act 0 .start (.create link 1) hstart
  refine ⟨e, e', he, hfeed, ?_⟩
  rw [← hframes]
  exact Reachable.dispatches_of_feed he hfeed

end Engine

end BoardLink
