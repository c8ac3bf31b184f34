import BoardLink.Frame.Validation
import BoardLink.Link.Memory
import BoardLink.Proofs.Decoder.RoundTrip
import BoardLink.Transmit

/-!
# What the board decodes from the transmit stream

A write can be refused or cut short anywhere, also inside an escape pair. What a cut leaves behind
is at most one frame with the beginning of its packet, which the opening delimiter of the next frame
ends. So every packet that went out whole comes out whole, and in order.
-/

namespace BoardLink

namespace Decoder

/-! ### A frame cut short -/

/-- A stuffed byte that is cut off is not there at all, or it is an escape. -/
lemma feed_take_stuffByte {d : Decoder} (hphase : d.phase = .inPacket) {b : UInt8} {n : Nat}
    (hn : n < (Frame.stuffByte b).length) :
    ∃ d', d.feed ((Frame.stuffByte b).take n) = (d', []) ∧ (d'.phase = .inEscape ∨ d' = d) := by
  have hescape : d.feed [Frame.escape] = ({ d with phase := .inEscape }, []) := by
    have hne : Frame.escape ≠ Frame.delimiter := by decide
    simp [feed_cons, step, hphase, hne]
  have hlength : (Frame.stuffByte b).length ≤ 2 := by
    simp only [Frame.stuffByte]
    split_ifs <;> simp
  obtain rfl | rfl : n = 0 ∨ n = 1 := by omega
  · exact ⟨d, rfl, .inr rfl⟩
  · refine ⟨{ d with phase := .inEscape }, ?_, .inl rfl⟩
    rw [← hescape]
    simp only [Frame.stuffByte] at hn ⊢
    split_ifs at hn ⊢
    · rfl
    · rfl
    · simp at hn

/-- Stuffed bytes, cut off anywhere, set nothing free. They leave an escape open, or some of the bytes
are in the frame. -/
lemma feed_take_stuff {d : Decoder} (hphase : d.phase = .inPacket) (bs : Bytes) (n : Nat)
    (hroom : d.pending.length + bs.length ≤ Frame.maxDecoded) :
    ∃ d', d.feed ((Frame.stuff bs).take n) = (d', []) ∧
      (d'.phase = .inEscape ∨
        d'.phase = .inPacket ∧ ∃ taken, taken <+: bs ∧ d'.pending = d.pending ++ taken) := by
  induction bs generalizing d n with
  | nil => exact ⟨d, by simp [Frame.stuff], .inr ⟨hphase, [], List.prefix_rfl, by simp⟩⟩
  | cons b bs ih =>
    simp only [List.length_cons] at hroom
    have hcons : Frame.stuff (b :: bs) = Frame.stuffByte b ++ Frame.stuff bs := by
      simp [Frame.stuff]
    rw [hcons, List.take_append]
    by_cases hn : (Frame.stuffByte b).length ≤ n
    · -- the byte is there as a whole
      have hb := feed_stuffByte hphase (by omega) b
      obtain ⟨d', hfeed, hd'⟩ := ih (d := { d with pending := d.pending ++ [b] }) hphase
        (n - (Frame.stuffByte b).length)
        (by simp only [List.length_append, List.length_singleton]; omega)
      refine ⟨d', ?_, ?_⟩
      · rw [List.take_of_length_le hn, feed_append, hb, hfeed]
        rfl
      · rcases hd' with hescape | ⟨hpacket, taken, htaken, hpending⟩
        · exact .inl hescape
        · refine .inr ⟨hpacket, b :: taken, List.cons_prefix_cons.mpr ⟨rfl, htaken⟩, ?_⟩
          simp [hpending]
    · -- the cut is before the byte or behind its escape
      obtain ⟨d', hfeed, hd'⟩ := feed_take_stuffByte hphase (Nat.not_le.mp hn)
      have hnone : n - (Frame.stuffByte b).length = 0 := by omega
      refine ⟨d', ?_, ?_⟩
      · rw [hnone, List.take_zero, List.append_nil, hfeed]
      · rcases hd' with hescape | rfl
        · exact .inl hescape
        · exact .inr ⟨hphase, [], List.nil_prefix, by simp⟩

/-- A frame cut short sets free what was unfinished before it, as a whole frame does. Of its own packet
it leaves at most the beginning unfinished. -/
lemma feed_take_wire {d : Decoder} (hd : d.WellFormed) {packet : Bytes}
    (hlen : packet.length ≤ Packet.maxLength) {n : Nat} (hn : 0 < n)
    (hcut : n < (Frame.wire packet).length) :
    Emission.frames (d.feed ((Frame.wire packet).take n)).2 = d.unfinished ∧
      ∀ part ∈ (d.feed ((Frame.wire packet).take n)).1.unfinished,
        part ≠ [] ∧ part <+: Crc.withTrailer packet := by
  obtain ⟨hphase, hpending⟩ := step_delimiter_begins hd
  -- a cut before the closing delimiter leaves a part of the stuffed bytes after the opening one
  have htake : (Frame.wire packet).take n =
      Frame.delimiter :: (Frame.stuff (Crc.withTrailer packet)).take (n - 1) := by
    obtain ⟨n, rfl⟩ := Nat.exists_eq_succ_of_ne_zero (Nat.ne_of_gt hn)
    simp only [Frame.wire, List.length_cons, List.length_append, List.length_nil] at hcut
    rw [Frame.wire, Nat.succ_eq_add_one, List.take_succ_cons, Nat.add_sub_cancel,
      List.take_append_of_le_length (by omega)]
  have hroom : (d.step Frame.delimiter).1.pending.length + (Crc.withTrailer packet).length ≤
      Frame.maxDecoded := by
    rw [hpending, Crc.length_withTrailer, Frame.maxDecoded, List.length_nil]
    omega
  obtain ⟨d', hfeed, hd'⟩ := feed_take_stuff hphase (Crc.withTrailer packet) (n - 1) hroom
  rw [htake, feed_cons, hfeed]
  constructor
  · simp [frames_step_delimiter]
  · intro part hpart
    simp only [unfinished] at hpart
    split_ifs at hpart with hopen
    · obtain rfl := List.mem_singleton.mp hpart
      -- an open escape shows no part at all; otherwise the part is what was decoded so far
      rcases hd' with hescape | ⟨_, taken, htaken, hd'⟩
      · rw [hescape] at hopen
        simp at hopen
      · rw [hpending, List.nil_append] at hd'
        exact ⟨hopen.2, hd' ▸ htaken⟩
    · simp at hpart

/-- A whole frame gives out its packet after what was unfinished before it. -/
lemma feed_wire {d : Decoder} (hd : d.WellFormed) {packet : Bytes}
    (hlen : packet.length ≤ Packet.maxLength) :
    Emission.frames (d.feed (Frame.wire packet)).2 = d.unfinished ++ [Crc.withTrailer packet] ∧
      (d.feed (Frame.wire packet)).1.unfinished = [] := by
  have hfits : ∀ p ∈ [packet], p.length ≤ Packet.maxLength := by
    simpa using hlen
  have hfeed := feed_wires_of_wellFormed hd (List.cons_ne_nil packet []) hfits
  simp only [List.map_cons, List.map_nil, List.flatten_cons, List.flatten_nil, List.append_nil] at hfeed
  rw [hfeed]
  constructor
  · simp [frames_step_delimiter]
  · simp [unfinished, begun]

end Decoder

/-! ### A write passes the checks of a frame -/

/-- The sentinel nibble of the command is none of the operation's bits. -/
lemma ofCommand_sentinel (command : UInt8) :
    Operation.ofCommand (command ||| commandSentinel) = Operation.ofCommand command := by
  have hbits : (command ||| commandSentinel) &&& 0x0C = command &&& 0x0C := by
    have hsentinel : commandSentinel.toBitVec &&& (0x0C : UInt8).toBitVec = 0 := by decide
    apply UInt8.eq_of_toBitVec_eq
    rw [UInt8.toBitVec_and, UInt8.toBitVec_or, BitVec.and_or_distrib_right, hsentinel]
    simp
  simp only [Operation.ofCommand, hbits]

lemma ofWire_sentinel (core : CoreId) : CoreId.ofWire (coreSentinel ||| core.toByte) = .ok core := by
  revert core
  decide

lemma readBit_of_write {command : UInt8} (h : Operation.ofCommand command = .write) :
    command &&& readBit = 0 := by
  have hbits : command &&& 0x0C = 0x08 := by
    simp only [Operation.ofCommand] at h
    split_ifs at h
    assumption
  calc command &&& readBit = (command &&& 0x0C) &&& readBit := by
        rw [UInt8.and_assoc]
        rfl
    _ = 0 := by
        rw [hbits]
        rfl

/-- A write with a core and its own checksum passes all checks. -/
lemma Frame.validate_write {command core register count : UInt8} {data : Bytes} {c : CoreId}
    (hwrite : Operation.ofCommand command = .write) (hcore : CoreId.ofWire core = .ok c) :
    Frame.validate (Crc.withTrailer (command :: core :: register :: count :: data)) =
      .ok { core := c, packet := command :: core :: register :: count :: data } := by
  have hlength := Crc.length_withTrailer (command :: core :: register :: count :: data)
  have hintact := Crc.intact_withTrailer (command :: core :: register :: count :: data)
  have htake : (Crc.withTrailer (command :: core :: register :: count :: data)).take
      ((Crc.withTrailer (command :: core :: register :: count :: data)).length - Crc.size) =
        command :: core :: register :: count :: data := by
    rw [hlength, Nat.add_sub_cancel, Crc.withTrailer, List.take_left]
  have hminLength : ¬ (Crc.withTrailer (command :: core :: register :: count :: data)).length <
      Frame.minLength := by
    simp only [hlength, List.length_cons, Frame.minLength, Header.size, Crc.size]
    omega
  simp only [Frame.validate, hintact, htake, if_neg hminLength]
  simp [Crc.withTrailer, hwrite, hcore, readBit_of_write hwrite]

/-! ### One packet -/

/-- A write to a link in memory fails, or the link takes the beginning of the bytes. -/
lemma MemoryLink.write_cases (l : MemoryLink) {bytes : Bytes} (hne : bytes ≠ []) :
    (∃ e, l.write bytes = (l, .error e)) ∨
      ∃ n, 0 < n ∧ n ≤ bytes.length ∧
        l.write bytes = ({ l with outgoing := l.outgoing ++ bytes.take n }, .ok n) := by
  have hlength := List.length_pos_iff.mpr hne
  cases herror : l.writeError with
  | some kind =>
    simp only [MemoryLink.write, herror]
    exact .inl ⟨_, rfl⟩
  | none =>
    simp only [MemoryLink.write, herror]
    split_ifs with hblocked
    · exact .inl ⟨_, rfl⟩
    · refine .inr ⟨_, ?_, Nat.min_le_left .., rfl⟩
      cases hcapacity : l.writeCapacity with
      | none => simpa using hlength
      | some capacity =>
        have hcapacity : capacity ≠ 0 := by
          rintro rfl
          exact hblocked ⟨hcapacity, hne⟩
        simp only [Option.getD_some]
        omega

namespace Transmitter

/-- A packet is refused and nothing is written, or the link takes the beginning of its frame. -/
lemma sendBytes_cases (t : Transmitter MemoryLink) (core : CoreId) (packet : Bytes) :
    (∃ e, (t.sendBytes core packet).1 = .error e ∧ (∀ sent expected, e ≠ .partialWrite sent expected) ∧
        (t.sendBytes core packet).2.link.outgoing = t.link.outgoing) ∨
      Header.size ≤ packet.length ∧ (address core packet).length ≤ Packet.maxLength ∧
        ∃ n, 0 < n ∧ n ≤ (Frame.wire (address core packet)).length ∧
          (t.sendBytes core packet).1 =
            writeResult (Frame.wire (address core packet)).length (.ok n) ∧
          (t.sendBytes core packet).2.link.outgoing =
            t.link.outgoing ++ (Frame.wire (address core packet)).take n := by
  -- all exits but the last write nothing
  by_cases hshort : packet.length < Header.size
  · simp only [sendBytes, if_pos hshort]
    exact .inl ⟨_, rfl, by simp, trivial⟩
  · by_cases hclosed : (!t.isOpen) = true
    · simp only [sendBytes, if_neg hshort, if_pos hclosed]
      exact .inl ⟨_, rfl, by simp, trivial⟩
    · by_cases hlen : (address core packet).length ≤ Packet.maxLength
      · have hencode := Frame.encode_of_le hlen
        have hne : Frame.wire (address core packet) ≠ [] := by simp [Frame.wire]
        simp only [sendBytes, if_neg hshort, if_neg hclosed, hencode]
        rcases t.link.write_cases hne with ⟨e, hwrite⟩ | ⟨n, hpos, hn, hwrite⟩
        · refine .inl ⟨if e.kind = .wouldBlock then .wouldBlock else .io e, ?_, ?_, ?_⟩
          · exact congrArg (fun w => writeResult _ w.2) hwrite
          · split_ifs <;> simp
          · exact congrArg (fun w => w.1.outgoing) hwrite
        · refine .inr ⟨Nat.not_lt.mp hshort, hlen, n, hpos, hn, ?_, ?_⟩
          · exact congrArg (fun w => writeResult _ w.2) hwrite
          · exact congrArg (fun w => w.1.outgoing) hwrite
      · have hencode : Frame.encode (address core packet) =
            .error (.tooLarge (address core packet).length Packet.maxLength) := by
          simp only [Frame.encode, if_neg hlen]
        simp only [sendBytes, if_neg hshort, if_neg hclosed, hencode]
        exact .inl ⟨_, rfl, by simp, trivial⟩

/-! ### Any sequence of packets -/

/-- A packet that somebody wanted to send, and what came of it. -/
structure Call where
  core : CoreId
  packet : Bytes
  result : Except TxError Unit

/-- What can happen to a transmitter whose link is in memory. -/
inductive Event where
  | send (core : CoreId) (packet : Bytes)
  | setWriteCapacity (capacity : Option Nat)
  | failWrites (kind : Option IoKind)
  | close

/-- A change of how the link behaves. -/
def Event.adjust (l : MemoryLink) : Event → MemoryLink
  | .send .. => l
  | .setWriteCapacity capacity => { l with writeCapacity := capacity }
  | .failWrites kind => { l with writeError := kind }
  | .close => { l with isOpen := false }

/-- All packets that were to be sent, each with its result, and the transmitter in the end. -/
def runEvents (t : Transmitter MemoryLink) : List Event → List Call × Transmitter MemoryLink
  | [] => ([], t)
  | .send core packet :: events =>
    let (result, t) := t.sendBytes core packet
    let (calls, t) := t.runEvents events
    ({ core, packet, result } :: calls, t)
  | event :: events => { t with link := event.adjust t.link }.runEvents events

@[simp] lemma runEvents_send (t : Transmitter MemoryLink) (core : CoreId) (packet : Bytes)
    (events : List Event) :
    t.runEvents (.send core packet :: events) =
      ({ core, packet, result := (t.sendBytes core packet).1 } ::
          ((t.sendBytes core packet).2.runEvents events).1,
        ((t.sendBytes core packet).2.runEvents events).2) := rfl

/-- Which frames come of a packet. One that went out has a frame of its own with both sentinel
nibbles set, the core and the checksum, and if it is a write this frame passes all checks. One that
was cut short has at most the beginning of such a frame, and any other has none. -/
inductive Call.Shows : Call → List Bytes → Prop
  | sent (core : CoreId) (command byte : UInt8) (rest : Bytes)
    (haccepted : Operation.ofCommand command = .write →
      Frame.validate (Crc.withTrailer ((command ||| 0xF0) :: (0xE0 ||| core.toByte) :: rest)) =
        .ok { core, packet := (command ||| 0xF0) :: (0xE0 ||| core.toByte) :: rest }) :
    Shows { core, packet := command :: byte :: rest, result := .ok () }
      [Crc.withTrailer ((command ||| 0xF0) :: (0xE0 ||| core.toByte) :: rest)]
  | cut (core : CoreId) (command byte : UInt8) (rest : Bytes) (sent expected : Nat)
    (frames : List Bytes) (hlength : frames.length ≤ 1)
    (hframes : ∀ part ∈ frames, part ≠ [] ∧
      part <+: Crc.withTrailer ((command ||| 0xF0) :: (0xE0 ||| core.toByte) :: rest)) :
    Shows { core, packet := command :: byte :: rest, result := .error (.partialWrite sent expected) }
      frames
  | refused (core : CoreId) (packet : Bytes) {e : TxError}
    (he : ∀ sent expected, e ≠ .partialWrite sent expected) :
    Shows { core, packet, result := .error e } []

/-- The part of a packet's frame that is written sets free what was unfinished before it. What comes
first of what follows is then unfinished of this packet. -/
lemma Call.shows_of_write {d : Decoder} (hd : d.WellFormed) {core : CoreId} {packet : Bytes}
    (hshort : Header.size ≤ packet.length) (hlen : (address core packet).length ≤ Packet.maxLength)
    {n : Nat} (hpos : 0 < n) (hn : n ≤ (Frame.wire (address core packet)).length) :
    ∃ own, Emission.frames (d.feed ((Frame.wire (address core packet)).take n)).2 =
        d.unfinished ++ own ∧
      ∀ first, first = [] ∨
          first = (d.feed ((Frame.wire (address core packet)).take n)).1.unfinished →
        Shows { core, packet, result := writeResult (Frame.wire (address core packet)).length (.ok n) }
          (own ++ first) := by
  obtain ⟨command, byte, register, count, data, rfl⟩ : ∃ command byte register count data,
      packet = command :: byte :: register :: count :: data := by
    match packet, hshort with
    | command :: byte :: register :: count :: data, _ => exact ⟨_, _, _, _, _, rfl⟩
  -- a short write leaves the frame open, a complete one closes it
  rcases Nat.lt_or_eq_of_le hn with hcut | rfl
  · obtain ⟨hframes, hunfinished⟩ := Decoder.feed_take_wire hd hlen hpos hcut
    refine ⟨[], by rw [hframes, List.append_nil], fun first hfirst => ?_⟩
    rw [writeResult, if_neg (Nat.ne_of_lt hcut)]
    refine .cut core command byte _ n _ _ ?_ ?_
    · rcases hfirst with rfl | rfl
      · simp
      · simp only [Decoder.unfinished]
        split_ifs <;> simp
    · rcases hfirst with rfl | rfl
      · simp
      · exact hunfinished
  · rw [List.take_length]
    obtain ⟨hframes, hunfinished⟩ := Decoder.feed_wire hd hlen
    refine ⟨_, hframes, fun first hfirst => ?_⟩
    have hfirst : first = [] := hfirst.elim id fun h => h.trans hunfinished
    rw [hfirst, List.append_nil, writeResult, if_pos rfl]
    refine .sent core command byte _ fun hwrite => ?_
    exact Frame.validate_write ((ofCommand_sentinel command).trans hwrite) (ofWire_sentinel core)

/-- From any decoder, the frames of a run are those of its calls, behind what may have been unfinished
before. -/
lemma frames_feed_runEvents {d : Decoder} (hd : d.WellFormed) (t : Transmitter MemoryLink)
    (events : List Event) :
    ∃ written first frames, (t.runEvents events).2.link.outgoing = t.link.outgoing ++ written ∧
      Emission.frames (d.feed written).2 = first ++ frames.flatten ∧
      (first = [] ∨ first = d.unfinished) ∧
      List.Forall₂ Call.Shows (t.runEvents events).1 frames := by
  induction events generalizing t d with
  | nil => exact ⟨[], [], [], by simp [runEvents], by simp, .inl rfl, .nil⟩
  | cons event events ih =>
    cases event with
    | send core packet =>
      rcases sendBytes_cases t core packet with
        ⟨e, hresult, he, hlink⟩ | ⟨hshort, hlen, n, hpos, hn, hresult, hlink⟩
      · obtain ⟨written, first, frames, hwritten, hframes, hfirst, hshows⟩ :=
          ih hd (t.sendBytes core packet).2
        -- a refused call shows nothing and leaves the stream as it was
        rw [runEvents_send, hresult]
        refine ⟨written, first, [] :: frames, ?_, hframes, hfirst, ?_⟩
        · exact hwritten.trans (by rw [hlink])
        · exact .cons (.refused core packet he) hshows
      · obtain ⟨own, hown, hcall⟩ := Call.shows_of_write hd hshort hlen hpos hn
        obtain ⟨written, first, frames, hwritten, hframes, hfirst, hshows⟩ :=
          ih (hd.feed ((Frame.wire (address core packet)).take n)) (t.sendBytes core packet).2
        rw [runEvents_send, hresult]
        -- what was unfinished before this write ends with its opening delimiter
        refine ⟨(Frame.wire (address core packet)).take n ++ written, d.unfinished,
          (own ++ first) :: frames, ?_, ?_, .inr rfl, ?_⟩
        · exact hwritten.trans (by rw [hlink, List.append_assoc])
        · rw [Decoder.feed_append, Emission.frames_append, hown, hframes]
          simp
        · exact .cons (hcall first hfirst) hshows
    | setWriteCapacity capacity => exact ih hd _
    | failWrites kind => exact ih hd _
    | close => exact ih hd _

/-- A fresh decoder takes all that was ever written apart call by call: every packet that was sent
comes out as one frame, one that was cut short as no more than its beginning, and all others not at
all. -/
theorem frames_runEvents (t : Transmitter MemoryLink) (events : List Event) :
    ∃ written frames, (t.runEvents events).2.link.outgoing = t.link.outgoing ++ written ∧
      Emission.frames (({} : Decoder).feed written).2 = frames.flatten ∧
      List.Forall₂ Call.Shows (t.runEvents events).1 frames := by
  obtain ⟨written, first, frames, hwritten, hframes, hfirst, hshows⟩ :=
    frames_feed_runEvents .fresh t events
  have hfirst : first = [] := hfirst.elim id id
  refine ⟨written, frames, hwritten, ?_, hshows⟩
  rw [hframes, hfirst, List.nil_append]

end Transmitter

end BoardLink
