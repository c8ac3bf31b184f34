import BoardLink.Proofs.Crc
import BoardLink.Proofs.Decoder.Stream

/-!
# Frames come out of any noise

Whatever was received before, the opening delimiter of a frame brings the decoder to the beginning
of a frame, and from there a frame gives back its packet and its checksum. So after any noise a run
of frames is decoded in full, however the stream is cut.
-/

namespace BoardLink

namespace Frame

/-- A byte string in its stuffed form between two delimiters. -/
def enclose (bs : Bytes) : Bytes := delimiter :: (stuff bs ++ [delimiter])

/-- The bytes of a packet's frame. -/
def wire (packet : Bytes) : Bytes := delimiter :: (stuff (Crc.withTrailer packet) ++ [delimiter])

lemma map_wire (packets : List Bytes) :
    packets.map wire = (packets.map Crc.withTrailer).map enclose := by
  rw [List.map_map]
  rfl

/-- A packet that can be sent makes a frame that can be received. -/
lemma withTrailer_fits {packet : Bytes} (h : packet.length ≤ Packet.maxLength) :
    Crc.withTrailer packet ≠ [] ∧ (Crc.withTrailer packet).length ≤ maxDecoded := by
  refine ⟨Crc.withTrailer_ne_nil packet, ?_⟩
  rw [Crc.length_withTrailer, maxDecoded]
  omega

lemma encode_of_le {packet : Bytes} (h : packet.length ≤ Packet.maxLength) :
    encode packet = .ok (wire packet) := by
  simp only [encode, if_pos h, wire]

lemma mapM_encode {packets : List Bytes} (h : ∀ p ∈ packets, p.length ≤ Packet.maxLength) :
    packets.mapM encode = .ok (packets.map wire) := by
  induction packets with
  | nil => rfl
  | cons p packets ih =>
    have hp : encode p = .ok (wire p) := encode_of_le (h p List.mem_cons_self)
    have hrest := ih fun q hq => h q (List.mem_cons_of_mem p hq)
    rw [List.mapM_cons, hp, hrest]
    rfl

end Frame

namespace Decoder

/-! ### A delimiter in each phase -/

lemma step_delimiter_of_fill {d : Decoder} (h : d.phase = .leadingFill) :
    d.step Frame.delimiter = ({ d with phase := .inPacket }, none) := by
  simp [step, h]

lemma step_delimiter_of_packet {d : Decoder} (h : d.phase = .inPacket) :
    d.step Frame.delimiter = d.close := by
  simp [step, h]

lemma step_delimiter_of_escape {d : Decoder} (h : d.phase = .inEscape) :
    d.step Frame.delimiter = d.violate .delimiterInEscape := by
  simp [step, h]

/-- A delimiter always leads to the beginning of a frame. -/
lemma step_delimiter_begins {d : Decoder} (hd : d.WellFormed) :
    (d.step Frame.delimiter).1.phase = .inPacket ∧ (d.step Frame.delimiter).1.pending = [] := by
  cases hphase : d.phase with
  | leadingFill =>
    rw [step_delimiter_of_fill hphase]
    exact ⟨rfl, hd.pending_nil hphase⟩
  | inPacket =>
    rw [step_delimiter_of_packet hphase]
    simp only [close]
    split_ifs with hempty
    · exact ⟨hphase, List.isEmpty_iff.mp hempty⟩
    · exact ⟨hphase, rfl⟩
  | inEscape =>
    rw [step_delimiter_of_escape hphase]
    exact ⟨rfl, rfl⟩

/-- What a delimiter completes: the bytes pending inside a frame, if there are any. -/
def unfinished (d : Decoder) : List Bytes :=
  if d.phase = .inPacket ∧ d.pending ≠ [] then [d.pending] else []

lemma frames_step_delimiter (d : Decoder) :
    Emission.frames (d.step Frame.delimiter).2.toList = d.unfinished := by
  cases hphase : d.phase with
  | leadingFill =>
    rw [step_delimiter_of_fill hphase]
    simp [unfinished, hphase]
  | inPacket =>
    rw [step_delimiter_of_packet hphase]
    by_cases hempty : d.pending = []
    · simp [close, unfinished, hempty]
    · simp [close, unfinished, hphase, hempty]
  | inEscape =>
    rw [step_delimiter_of_escape hphase]
    simp [unfinished, hphase, violate]

/-- A delimiter is a violation right after an escape and nowhere else. -/
lemma step_delimiter_violations (d : Decoder) :
    (d.step Frame.delimiter).1.stats.violations =
        d.stats.violations + (if d.phase = .inEscape then 1 else 0) ∧
      (d.step Frame.delimiter).1.lastViolation =
        (if d.phase = .inEscape then some .delimiterInEscape else d.lastViolation) := by
  cases hphase : d.phase with
  | leadingFill =>
    rw [step_delimiter_of_fill hphase]
    exact ⟨rfl, rfl⟩
  | inPacket =>
    rw [step_delimiter_of_packet hphase]
    simp only [close]
    split_ifs <;> simp_all
  | inEscape =>
    rw [step_delimiter_of_escape hphase]
    exact ⟨rfl, rfl⟩

/-! ### The inside of a frame -/

/-- The stuffed form of a byte adds this byte to the frame. -/
lemma feed_stuffByte {d : Decoder} (hphase : d.phase = .inPacket)
    (hroom : d.pending.length < Frame.maxDecoded) (b : UInt8) :
    d.feed (Frame.stuffByte b) = ({ d with pending := d.pending ++ [b] }, []) := by
  have hcollect : ∀ e : Decoder, e.pending = d.pending → e.collect b =
      ({ e with phase := .inPacket, pending := d.pending ++ [b] }, none) := by
    intro e he
    simp [collect, he, hroom]
  simp only [Frame.stuffByte]
  split_ifs with hdelimiter hescape
  · subst hdelimiter
    have hmark : Frame.delimiterMark ≠ Frame.delimiter ∧ Frame.delimiterMark ≠ Frame.escape := by
      decide
    have hne : Frame.escape ≠ Frame.delimiter := by decide
    simp [feed_cons, step, hphase, hne, hmark, hcollect]
  · subst hescape
    have hmark : Frame.escapeMark ≠ Frame.delimiter ∧ Frame.escapeMark ≠ Frame.escape ∧
        Frame.escapeMark ≠ Frame.delimiterMark := by decide
    simp [feed_cons, step, hphase, hdelimiter, hmark, hcollect]
  · have hstep : d.step b = d.collect b := by simp [step, hphase, hdelimiter, hescape]
    simp [feed_cons, hstep, hcollect d rfl, hphase]

/-- The stuffed form of a byte string adds this byte string to the frame, if there is room. -/
lemma feed_stuff {d : Decoder} (hphase : d.phase = .inPacket) (bs : Bytes)
    (hroom : d.pending.length + bs.length ≤ Frame.maxDecoded) :
    d.feed (Frame.stuff bs) = ({ d with pending := d.pending ++ bs }, []) := by
  induction bs generalizing d with
  | nil => simp [Frame.stuff]
  | cons b bs ih =>
    simp only [List.length_cons] at hroom
    have hb : d.feed (Frame.stuffByte b) = ({ d with pending := d.pending ++ [b] }, []) :=
      feed_stuffByte hphase (by omega) b
    have hrest := ih (d := { d with pending := d.pending ++ [b] }) hphase
      (by simp only [List.length_append, List.length_singleton]; omega)
    have hcons : Frame.stuff (b :: bs) = Frame.stuffByte b ++ Frame.stuff bs := by
      simp [Frame.stuff]
    rw [hcons, feed_append, hb, hrest]
    simp

/-- At the beginning of a frame, the stuffed form of a byte string and a delimiter end a frame of this
byte string. -/
lemma feed_stuff_close {d : Decoder} (hphase : d.phase = .inPacket) (hpending : d.pending = [])
    {bs : Bytes} (hlen : bs.length ≤ Frame.maxDecoded) :
    d.feed (Frame.stuff bs ++ [Frame.delimiter]) =
      (({ d with pending := bs } : Decoder).close.1,
        ({ d with pending := bs } : Decoder).close.2.toList) := by
  have hroom : d.pending.length + bs.length ≤ Frame.maxDecoded := by
    simpa [hpending] using hlen
  rw [feed_append, feed_stuff hphase bs hroom]
  simp [feed_cons, step_delimiter_of_packet, hphase, hpending]

/-! ### Whole frames -/

/-- The decoder at the beginning of a frame, after a number of frames more. -/
def begun (d : Decoder) (more : Nat) : Decoder :=
  { d with phase := .inPacket, pending := [], stats := { d.stats with frames := d.stats.frames + more } }

@[simp] lemma begun_begun (d : Decoder) (m n : Nat) : (d.begun m).begun n = d.begun (m + n) := by
  simp [begun, Nat.add_assoc]

lemma begun_zero {d : Decoder} (hphase : d.phase = .inPacket) (hpending : d.pending = []) :
    d.begun 0 = d := by
  simp [begun, ← hphase, ← hpending]

/-- A frame from its second byte on gives out what is written in it. -/
lemma feed_stuff_delimiter {d : Decoder} (hphase : d.phase = .inPacket) (hpending : d.pending = [])
    {bs : Bytes} (hbs : bs ≠ [] ∧ bs.length ≤ Frame.maxDecoded) :
    d.feed (Frame.stuff bs ++ [Frame.delimiter]) = (d.begun 1, [.frame bs]) := by
  rw [feed_stuff_close hphase hpending hbs.2]
  simp [close, hphase, hbs.1, begun]

/-- At the beginning of a frame, a run of frames gives out what is written in them. -/
lemma feed_enclosed {d : Decoder} (hphase : d.phase = .inPacket) (hpending : d.pending = [])
    {bodies : List Bytes} (hbodies : ∀ bs ∈ bodies, bs ≠ [] ∧ bs.length ≤ Frame.maxDecoded) :
    d.feed (bodies.map Frame.enclose).flatten =
      (d.begun bodies.length, bodies.map .frame) := by
  induction bodies generalizing d with
  | nil => simp [begun_zero hphase hpending]
  | cons bs bodies ih =>
    have hopen : d.step Frame.delimiter = (d, none) := by
      simp [step_delimiter_of_packet hphase, close, hpending]
    have hbs : d.feed (Frame.enclose bs) = (d.begun 1, [.frame bs]) := by
      rw [Frame.enclose, feed_cons, hopen,
        feed_stuff_delimiter hphase hpending (hbodies bs List.mem_cons_self)]
      simp
    have hrest := ih (d := d.begun 1) rfl rfl fun b hb => hbodies b (List.mem_cons_of_mem bs hb)
    rw [List.map_cons, List.flatten_cons, feed_append, hbs, hrest]
    simp [Nat.add_comm]

/-- In any phase, a run of frames gives out what was unfinished and then what is written in them, and
only its first delimiter can be a violation. -/
lemma feed_enclosed_of_wellFormed {d : Decoder} (hd : d.WellFormed) {bodies : List Bytes}
    (hne : bodies ≠ []) (hbodies : ∀ bs ∈ bodies, bs ≠ [] ∧ bs.length ≤ Frame.maxDecoded) :
    d.feed (bodies.map Frame.enclose).flatten =
      ((d.step Frame.delimiter).1.begun bodies.length,
        (d.step Frame.delimiter).2.toList ++ bodies.map .frame) := by
  obtain ⟨bs, bodies, rfl⟩ := List.exists_cons_of_ne_nil hne
  obtain ⟨hphase, hpending⟩ := step_delimiter_begins hd
  have hfirst := feed_stuff_delimiter hphase hpending (hbodies bs List.mem_cons_self)
  have hrest := feed_enclosed (d := (d.step Frame.delimiter).1.begun 1) rfl rfl
    fun b hb => hbodies b (List.mem_cons_of_mem bs hb)
  rw [List.map_cons, List.flatten_cons, Frame.enclose, List.cons_append, feed_cons, feed_append,
    hfirst, hrest]
  simp [Nat.add_comm]

/-- A run of packets' frames gives out the packets with their checksums. -/
lemma feed_wires_of_wellFormed {d : Decoder} (hd : d.WellFormed) {packets : List Bytes}
    (hne : packets ≠ []) (hlen : ∀ p ∈ packets, p.length ≤ Packet.maxLength) :
    d.feed (packets.map Frame.wire).flatten =
      ((d.step Frame.delimiter).1.begun packets.length,
        (d.step Frame.delimiter).2.toList ++ packets.map fun p => .frame (Crc.withTrailer p)) := by
  have hbodies : ∀ bs ∈ packets.map Crc.withTrailer, bs ≠ [] ∧ bs.length ≤ Frame.maxDecoded := by
    intro bs hbs
    obtain ⟨p, hp, rfl⟩ := List.mem_map.mp hbs
    exact Frame.withTrailer_fits (hlen p hp)
  rw [Frame.map_wire, feed_enclosed_of_wellFormed hd (by simpa using hne) hbodies, List.map_map,
    List.length_map]
  rfl

/-- After any noise, a run of frames is decoded in full, however the stream is cut: first comes what
the noise alone gives out, then the bytes that the noise left unfinished inside a frame, then every
packet with its checksum. The frames add no violation, but for the opening delimiter when the noise
ended with an escape, and the decoder is left at the beginning of a frame. -/
theorem frames_feedAll_noise (noise : Bytes) (packets : List Bytes) (hne : packets ≠ [])
    (hlen : ∀ p ∈ packets, p.length ≤ Packet.maxLength) :
    ∃ wires, packets.mapM Frame.encode = .ok wires ∧
      ∀ pieces : List Bytes, pieces.flatten = noise ++ wires.flatten →
        let before := ({} : Decoder).feed noise
        let after := ({} : Decoder).feedAll pieces
        Emission.frames after.2 = Emission.frames before.2 ++
            (if before.1.phase = .inPacket ∧ before.1.pending ≠ [] then [before.1.pending] else []) ++
            packets.map Crc.withTrailer ∧
          after.1.stats.violations =
            before.1.stats.violations + (if before.1.phase = .inEscape then 1 else 0) ∧
          after.1.lastViolation =
            (if before.1.phase = .inEscape then some .delimiterInEscape
              else before.1.lastViolation) ∧
          after.1.phase = .inPacket ∧ after.1.pending = [] := by
  refine ⟨packets.map Frame.wire, Frame.mapM_encode hlen, ?_⟩
  intro pieces hpieces before after
  have hbefore : before.1.WellFormed := WellFormed.fresh.feed noise
  -- the first delimiter ends what the noise left, and then frame follows frame
  have hafter : after = ((before.1.step Frame.delimiter).1.begun packets.length,
      before.2 ++ ((before.1.step Frame.delimiter).2.toList ++
        packets.map fun p => .frame (Crc.withTrailer p))) := by
    simp only [after, feedAll_eq_feed, hpieces, feed_append]
    rw [feed_wires_of_wellFormed hbefore hne hlen]
  have hframes : Emission.frames (packets.map fun p => .frame (Crc.withTrailer p)) =
      packets.map Crc.withTrailer := by
    rw [Emission.frames, List.filterMap_map]
    exact congrFun List.filterMap_eq_map packets
  obtain ⟨hviolations, hlast⟩ := step_delimiter_violations before.1
  rw [hafter]
  refine ⟨?_, hviolations, hlast, rfl, rfl⟩
  simp only [Emission.frames_append, frames_step_delimiter, hframes, List.append_assoc, unfinished]

/-- Noise that ends with an escape, and two frames cut inside an escape pair and a checksum. -/
theorem frames_feedAll_noise_escape :
    (∀ p ∈ ([[0xC0, 0xDB], []] : List Bytes), p.length ≤ Packet.maxLength) ∧
      let after := ({} : Decoder).feedAll [[0x00, 0xC0, 0x11, 0xDB, 0xC0, 0xDB], [],
        [0xDC, 0xDB, 0xDD, 0x6C], [0x42, 0xC0, 0xC0, 0x00, 0x00, 0xC0]]
      Emission.frames after.2 = [[0xC0, 0xDB, 0x6C, 0x42], [0x00, 0x00]] ∧
        after.1.stats.violations = 1 ∧ after.1.lastViolation = some .delimiterInEscape ∧
        after.1.phase = .inPacket ∧ after.1.pending = [] := by
  refine ⟨by decide, ?_⟩
  obtain ⟨wires, hwires, h⟩ := frames_feedAll_noise [0x00, 0xC0, 0x11, 0xDB] [[0xC0, 0xDB], []]
    (by decide) (by decide)
  have hencode : [[0xC0, 0xDB], []].mapM Frame.encode =
      .ok [[0xC0, 0xDB, 0xDC, 0xDB, 0xDD, 0x6C, 0x42, 0xC0], [0xC0, 0x00, 0x00, 0xC0]] := by decide
  rw [hencode] at hwires
  cases hwires
  exact h _ (by decide)

end Decoder

end BoardLink
