import BoardLink.Frame.Validation
import BoardLink.Proofs.Decoder.Segments

/-!
# One damaged byte

A byte of a frame that is received as another, while delimiters and escapes stay where they are,
damages this frame and no other. The decoder cannot see it, but the checksum does.
-/

namespace BoardLink

namespace Frame

/-- One byte on the wire is received as another: a byte that stands for itself, or the marker of an
escape pair. -/
inductive Damaged : Bytes → Bytes → Prop
  | plain (before after : Bytes) {a b : UInt8} (hpair : before.getLast? ≠ some escape)
      (ha : a ≠ delimiter ∧ a ≠ escape) (hb : b ≠ delimiter ∧ b ≠ escape) (hne : a ≠ b) :
      Damaged (before ++ a :: after) (before ++ b :: after)
  | delimiterMark (before after : Bytes) :
      Damaged (before ++ escape :: delimiterMark :: after) (before ++ escape :: escapeMark :: after)
  | escapeMark (before after : Bytes) :
      Damaged (before ++ escape :: escapeMark :: after) (before ++ escape :: delimiterMark :: after)

/-! ### Where the bytes of a frame stand on the wire -/

lemma stuff_append (bs cs : Bytes) : stuff (bs ++ cs) = stuff bs ++ stuff cs := by
  simp [stuff]

lemma stuffByte_cases (b : UInt8) :
    (b ≠ delimiter ∧ b ≠ escape ∧ stuffByte b = [b]) ∨
      ∃ mark, mark ≠ escape ∧ stuffByte b = [escape, mark] := by
  by_cases hdelimiter : b = delimiter
  · exact .inr ⟨delimiterMark, by decide, by simp [stuffByte, hdelimiter]⟩
  by_cases hescape : b = escape
  · refine .inr ⟨escapeMark, by decide, ?_⟩
    rw [hescape]
    rfl
  · exact .inl ⟨hdelimiter, hescape, stuffByte_of_ne hdelimiter hescape⟩

private lemma getLast?_ne_of_cons {b e : UInt8} {bs : Bytes} (h : (b :: bs).getLast? ≠ some e) :
    bs.getLast? ≠ some e := by
  intro hlast
  apply h
  rw [List.getLast?_cons, hlast, Option.getD_some]

/-- Before an escape, and wherever no escape stands before it, the wire can be cut between two bytes
of a frame. -/
lemma exists_of_stuff_eq {bs before after : Bytes} {c : UInt8}
    (h : stuff bs = before ++ c :: after)
    (hpair : c = escape ∨ before.getLast? ≠ some escape) :
    ∃ l x r, bs = l ++ x :: r ∧ before = stuff l ∧ c :: after = stuffByte x ++ stuff r := by
  induction bs generalizing before with
  | nil => simp [stuff] at h
  | cons b bs ih =>
    rw [stuff_cons] at h
    -- the rest of the cut, once the byte `b` is before it
    have hlater {rest : Bytes} (hbefore : before = stuffByte b ++ rest)
        (hrest : stuff bs = rest ++ c :: after)
        (hpair : c = escape ∨ rest.getLast? ≠ some escape) :
        ∃ l x r, b :: bs = l ++ x :: r ∧ before = stuff l ∧ c :: after = stuffByte x ++ stuff r := by
      obtain ⟨l, x, r, rfl, rfl, hafter⟩ := ih hrest hpair
      exact ⟨b :: l, x, r, rfl, by rw [hbefore, stuff_cons], hafter⟩
    rcases stuffByte_cases b with ⟨_, _, hb⟩ | ⟨mark, hmark, hb⟩
    · cases before with
      | nil => exact ⟨[], b, bs, rfl, rfl, h.symm⟩
      | cons b' before =>
        simp only [hb, List.cons_append, List.nil_append, List.cons.injEq] at h
        obtain ⟨rfl, hrest⟩ := h
        exact hlater (by rw [hb]; rfl) hrest (hpair.imp_right getLast?_ne_of_cons)
    · cases before with
      | nil => exact ⟨[], b, bs, rfl, rfl, h.symm⟩
      | cons b' before =>
        cases before with
        | nil =>
          -- no marker is an escape
          simp only [hb, List.cons_append, List.nil_append, List.cons.injEq] at h
          obtain ⟨hescape, rfl, _⟩ := h
          rcases hpair with hmark' | hlast
          · exact absurd hmark' hmark
          · exact absurd (by rw [← hescape]; rfl) hlast
        | cons mark' before =>
          simp only [hb, List.cons_append, List.nil_append, List.cons.injEq] at h
          obtain ⟨rfl, rfl, hrest⟩ := h
          exact hlater (by rw [hb]; rfl) hrest
            (hpair.imp_right fun hlast => getLast?_ne_of_cons (getLast?_ne_of_cons hlast))

/-- A byte of an enclosure that is no delimiter stands between the delimiters. -/
lemma exists_of_enclose_eq {bs before after : Bytes} {c : UInt8} (hc : c ≠ delimiter)
    (h : enclose bs = before ++ c :: after) :
    ∃ inner rest, before = delimiter :: inner ∧ after = rest ++ [delimiter] ∧
      stuff bs = inner ++ c :: rest := by
  cases before with
  | nil =>
    obtain ⟨hdelimiter, _⟩ := List.cons.inj h
    exact absurd hdelimiter.symm hc
  | cons b inner =>
    simp only [enclose, List.cons_append, List.cons.injEq] at h
    obtain ⟨rfl, h⟩ := h
    rcases List.eq_nil_or_concat after with rfl | ⟨rest, b, rfl⟩
    · obtain ⟨_, hlast⟩ := List.append_inj' h rfl
      cases hlast
      exact absurd rfl hc
    · have hsplit : stuff bs ++ [delimiter] = (inner ++ c :: rest) ++ [b] := by simpa using h
      obtain ⟨hinner, hlast⟩ := List.append_inj' hsplit rfl
      cases hlast
      exact ⟨inner, rest, rfl, List.concat_eq_append, hinner⟩

/-- A byte of an enclosure that stands for itself. -/
lemma exists_of_enclose_eq_plain {bs before after : Bytes} {a : UInt8}
    (ha : a ≠ delimiter ∧ a ≠ escape) (hpair : before.getLast? ≠ some escape)
    (h : enclose bs = before ++ a :: after) :
    ∃ l r, bs = l ++ a :: r ∧ before = delimiter :: stuff l ∧ after = stuff r ++ [delimiter] := by
  obtain ⟨inner, rest, rfl, rfl, hstuff⟩ := exists_of_enclose_eq ha.1 h
  obtain ⟨l, x, r, rfl, rfl, hx⟩ := exists_of_stuff_eq hstuff (.inr (getLast?_ne_of_cons hpair))
  rcases stuffByte_cases x with ⟨_, _, hstuffed⟩ | ⟨mark, _, hstuffed⟩
  · rw [hstuffed] at hx
    cases hx
    exact ⟨l, r, rfl, rfl, rfl⟩
  · rw [hstuffed] at hx
    cases hx
    exact absurd rfl ha.2

/-- An escape pair of an enclosure. -/
lemma exists_of_enclose_eq_pair {bs before after : Bytes} {mark : UInt8}
    (h : enclose bs = before ++ escape :: mark :: after) :
    ∃ l x r, bs = l ++ x :: r ∧ stuffByte x = [escape, mark] ∧ before = delimiter :: stuff l ∧
      after = stuff r ++ [delimiter] := by
  obtain ⟨inner, rest, rfl, hrest, hstuff⟩ := exists_of_enclose_eq (by decide) h
  obtain ⟨l, x, r, rfl, rfl, hx⟩ := exists_of_stuff_eq hstuff (.inl rfl)
  rcases stuffByte_cases x with ⟨_, hescape, hstuffed⟩ | ⟨mark', _, hstuffed⟩
  · rw [hstuffed] at hx
    cases hx
    exact absurd rfl hescape
  · rw [hstuffed] at hx
    cases hx
    cases hrest
    exact ⟨l, x, r, rfl, hstuffed, rfl, rfl⟩

lemma enclose_append (l r : Bytes) (x : UInt8) :
    enclose (l ++ x :: r) = delimiter :: stuff l ++ (stuffByte x ++ (stuff r ++ [delimiter])) := by
  simp [enclose, stuff_append, stuff_cons]

/-- In place of one byte another is written. -/
def Changed (bs bs' : Bytes) : Prop :=
  ∃ l x y r, x ≠ y ∧ bs = l ++ x :: r ∧ bs' = l ++ y :: r

/-- A damaged frame is the frame of other bytes: one of them is changed. -/
lemma Damaged.exists_changed {bs damaged : Bytes} (h : Damaged (enclose bs) damaged) :
    ∃ bs', Changed bs bs' ∧ damaged = enclose bs' := by
  have hmark : stuffByte delimiter = [escape, Frame.delimiterMark] := rfl
  have hmark' : stuffByte escape = [escape, Frame.escapeMark] := rfl
  generalize hwire : enclose bs = wire at h
  cases h with
  | @plain before after a b hpair ha hb hne =>
    obtain ⟨l, r, rfl, rfl, rfl⟩ := exists_of_enclose_eq_plain ha hpair hwire
    refine ⟨_, ⟨l, a, b, r, hne, rfl, rfl⟩, ?_⟩
    rw [enclose_append, stuffByte_of_ne hb.1 hb.2]
    rfl
  | delimiterMark before after =>
    obtain ⟨l, x, r, rfl, hx, rfl, rfl⟩ := exists_of_enclose_eq_pair hwire
    refine ⟨_, ⟨l, x, escape, r, ?_, rfl, rfl⟩, ?_⟩
    · rintro rfl
      cases hmark'.symm.trans hx
    · rw [enclose_append, hmark']
      rfl
  | escapeMark before after =>
    obtain ⟨l, x, r, rfl, hx, rfl, rfl⟩ := exists_of_enclose_eq_pair hwire
    refine ⟨_, ⟨l, x, delimiter, r, ?_, rfl, rfl⟩, ?_⟩
    · rintro rfl
      cases hmark.symm.trans hx
    · rw [enclose_append, hmark]
      rfl

/-! ### What the checksum tells -/

lemma validate_of_checksum_ne {frame : Bytes} (hlength : minLength ≤ frame.length)
    (hchecksum : Crc.checksum frame ≠ 0) : validate frame = .error .crcMismatch := by
  have hintact : Crc.intact frame = false := by simp [Crc.intact, hchecksum]
  simp [validate, hintact, Nat.not_lt.mpr hlength]

lemma Changed.length_eq {bs bs' : Bytes} (h : Changed bs bs') : bs'.length = bs.length := by
  obtain ⟨l, x, y, r, _, rfl, rfl⟩ := h
  simp

/-- A packet that was received with one byte changed is refused. -/
lemma Changed.validate {packet frame : Bytes} (h : Changed (Crc.withTrailer packet) frame)
    (hlength : Header.size ≤ packet.length) : validate frame = .error .crcMismatch := by
  apply validate_of_checksum_ne
  · rw [h.length_eq, Crc.length_withTrailer, minLength]
    omega
  · obtain ⟨l, x, y, r, hne, hpacket, rfl⟩ := h
    have hzero := Crc.checksum_withTrailer packet
    rw [hpacket] at hzero
    rw [← hzero]
    exact (Crc.checksum_ne_of_ne hne).symm

end Frame

namespace Decoder

lemma frames_map_frame (bodies : List Bytes) : Emission.frames (bodies.map .frame) = bodies := by
  rw [Emission.frames, List.filterMap_map]
  exact List.filterMap_some

/-- A fresh decoder gives out what is written in a run of frames, without any violation. -/
lemma feed_enclosed_fresh {bodies : List Bytes}
    (hbodies : ∀ bs ∈ bodies, bs ≠ [] ∧ bs.length ≤ Frame.maxDecoded) :
    Emission.frames (({} : Decoder).feed (bodies.map Frame.enclose).flatten).2 = bodies ∧
      (({} : Decoder).feed (bodies.map Frame.enclose).flatten).1.stats.violations = 0 := by
  cases bodies with
  | nil => exact ⟨rfl, rfl⟩
  | cons bs bodies =>
    rw [feed_enclosed_of_wellFormed .fresh (List.cons_ne_nil bs bodies) hbodies]
    exact ⟨frames_map_frame _, rfl⟩

/-- Where packets were sent one after the other and one byte of one frame is damaged, a fresh decoder
still gives out a frame for each packet and finds no violation. All frames but that one are as they
would be without the damage, and the checksum of that one does not hold. -/
theorem frames_feed_damaged (packets : List Bytes)
    (hlength : ∀ p ∈ packets, Header.size ≤ p.length ∧ p.length ≤ Packet.maxLength) :
    ∃ wires, packets.mapM Frame.encode = .ok wires ∧
      ∀ i wire damaged, wires[i]? = some wire → Frame.Damaged wire damaged →
        let before := ({} : Decoder).feed wires.flatten
        let after := ({} : Decoder).feed (wires.set i damaged).flatten
        (Emission.frames after.2).length = packets.length ∧ after.1.stats.violations = 0 ∧
          (∀ j, j ≠ i → (Emission.frames after.2)[j]? = (Emission.frames before.2)[j]?) ∧
          ∃ frame, (Emission.frames after.2)[i]? = some frame ∧
            Frame.validate frame = .error .crcMismatch := by
  refine ⟨packets.map Frame.wire, Frame.mapM_encode fun p hp => (hlength p hp).2, ?_⟩
  intro i wire damaged hwire hdamaged before after
  have hbodies : ∀ bs ∈ packets.map Crc.withTrailer, bs ≠ [] ∧ bs.length ≤ Frame.maxDecoded := by
    intro bs hbs
    obtain ⟨p, hp, rfl⟩ := List.mem_map.mp hbs
    exact Frame.withTrailer_fits (hlength p hp).2
  obtain ⟨packet, hpacket, rfl⟩ : ∃ packet, packets[i]? = some packet ∧ Frame.wire packet = wire := by
    simpa using hwire
  have hmem : packet ∈ packets := List.mem_of_getElem? hpacket
  obtain ⟨frame, hchanged, rfl⟩ := Frame.Damaged.exists_changed hdamaged
  -- the damaged frame is as long as it was, so it still fits into the decoder
  have hframe : frame ≠ [] ∧ frame.length ≤ Frame.maxDecoded := by
    obtain ⟨hne, hle⟩ := Frame.withTrailer_fits (hlength packet hmem).2
    rw [← hchanged.length_eq] at hle
    refine ⟨?_, hle⟩
    rw [← List.length_pos_iff, hchanged.length_eq]
    exact List.length_pos_iff.mpr hne
  have hbefore : Emission.frames before.2 = packets.map Crc.withTrailer := by
    simp only [before, Frame.map_wire]
    exact (feed_enclosed_fresh hbodies).1
  -- its delimiters are as they were, so the stream falls into the same frames
  obtain ⟨hafter, hviolations⟩ : Emission.frames after.2 = (packets.map Crc.withTrailer).set i frame ∧
      after.1.stats.violations = 0 := by
    simp only [after, Frame.map_wire, ← List.map_set]
    refine feed_enclosed_fresh fun bs hbs => ?_
    rcases List.mem_or_eq_of_mem_set hbs with hbs | rfl
    · exact hbodies bs hbs
    · exact hframe
  rw [hafter, hbefore]
  refine ⟨by simp, hviolations, ?_, frame, ?_, hchanged.validate (hlength packet hmem).1⟩
  · intro j hj
    rw [List.getElem?_set_ne hj.symm]
  · rw [List.getElem?_set_self (by simpa using (List.getElem?_eq_some_iff.mp hpacket).1)]

/-- The marker of an escape pair is damaged in the first of two frames. -/
theorem frames_feed_damaged_marker :
    (∀ p ∈ ([[0x08, 0x01, 0x02, 0xC0], [0x08, 0x01, 0x02, 0x03]] : List Bytes),
        Header.size ≤ p.length ∧ p.length ≤ Packet.maxLength) ∧
      let after := ({} : Decoder).feed
        [0xC0, 0x08, 0x01, 0x02, 0xDB, 0xDD, 0x0D, 0xDD, 0xC0,
          0xC0, 0x08, 0x01, 0x02, 0x03, 0xE4, 0xF2, 0xC0]
      after.1.stats.violations = 0 ∧
        (Emission.frames after.2)[1]? = some [0x08, 0x01, 0x02, 0x03, 0xE4, 0xF2] ∧
        ∃ frame, (Emission.frames after.2)[0]? = some frame ∧
          Frame.validate frame = .error .crcMismatch := by
  refine ⟨by decide, ?_⟩
  obtain ⟨wires, hwires, h⟩ :=
    frames_feed_damaged [[0x08, 0x01, 0x02, 0xC0], [0x08, 0x01, 0x02, 0x03]] (by decide)
  have hencode : [[0x08, 0x01, 0x02, 0xC0], [0x08, 0x01, 0x02, 0x03]].mapM Frame.encode =
      .ok [[0xC0, 0x08, 0x01, 0x02, 0xDB, 0xDC, 0x0D, 0xDD, 0xC0],
        [0xC0, 0x08, 0x01, 0x02, 0x03, 0xE4, 0xF2, 0xC0]] := by decide
  rw [hencode] at hwires
  cases hwires
  have hdamaged := Frame.Damaged.delimiterMark [0xC0, 0x08, 0x01, 0x02] [0x0D, 0xDD, 0xC0]
  obtain ⟨_, hviolations, hothers, hframe⟩ := h 0 _ _ rfl hdamaged
  exact ⟨hviolations, (hothers 1 (by decide)).trans (by decide), hframe⟩

end Decoder

end BoardLink
