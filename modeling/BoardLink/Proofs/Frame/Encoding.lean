import Mathlib.Tactic.Common
import BoardLink.Proofs.Decoder.Segments

/-!
# How packets are framed

Between its two delimiters a frame holds the stuffed form of a packet and its checksum, in which no
delimiter stands and every escape is the first byte of a pair. So a frame can be cut out of a stream
by its delimiters, and its length is known before it is built.
-/

namespace BoardLink.Frame

/-! ### The stuffed form -/

/-- A stuffed byte is a pair that starts with an escape, or no reserved byte at all. -/
lemma stuffByte_eq_pair (b : UInt8) :
    (isReserved b = true ∧ ∃ mark ∈ [delimiterMark, escapeMark], stuffByte b = [escape, mark]) ∨
      isReserved b = false ∧ b ≠ delimiter ∧ b ≠ escape ∧ stuffByte b = [b] := by
  by_cases hdelimiter : b = delimiter
  · exact .inl ⟨by simp [isReserved, hdelimiter], delimiterMark, by simp,
      by rw [stuffByte, if_pos hdelimiter]⟩
  by_cases hescape : b = escape
  · exact .inl ⟨by simp [isReserved, hescape], escapeMark, by simp,
      by rw [stuffByte, if_neg hdelimiter, if_pos hescape]⟩
  · exact .inr ⟨by simp [isReserved, hdelimiter, hescape], hdelimiter, hescape,
      stuffByte_of_ne hdelimiter hescape⟩

lemma length_stuffByte (b : UInt8) : (stuffByte b).length = if isReserved b then 2 else 1 := by
  rcases stuffByte_eq_pair b with ⟨hreserved, mark, _, hpair⟩ | ⟨hreserved, _, _, hsingle⟩
  · rw [hreserved, hpair]
    rfl
  · rw [hreserved, hsingle]
    rfl

/-- Each reserved byte takes one byte more. -/
lemma length_stuff (bs : Bytes) : (stuff bs).length = bs.length + bs.countP isReserved := by
  induction bs with
  | nil => rfl
  | cons b bs ih =>
    rw [stuff_cons, List.length_append, length_stuffByte, ih, List.length_cons, List.countP_cons]
    split_ifs <;> omega

/-- No byte is a delimiter and an escape. -/
lemma countP_isReserved (bs : Bytes) :
    bs.countP isReserved = bs.count delimiter + bs.count escape := by
  have hne : escape ≠ delimiter := by decide
  induction bs with
  | nil => rfl
  | cons b bs ih =>
    rw [List.countP_cons, List.count_cons, List.count_cons, ih]
    by_cases hdelimiter : b = delimiter
    · simp [isReserved, hdelimiter, hne.symm]
      omega
    · simp [isReserved, hdelimiter]
      omega

lemma delimiter_notMem_stuff (bs : Bytes) : delimiter ∉ stuff bs := by
  have hmarks : ∀ mark ∈ [delimiterMark, escapeMark], delimiter ∉ [escape, mark] :=
    List.forall_mem_cons.mpr ⟨by decide, List.forall_mem_singleton.mpr (by decide)⟩
  simp only [stuff, List.mem_flatMap, not_exists, not_and]
  intro b _ hmem
  rcases stuffByte_eq_pair b with ⟨_, mark, hmark, hpair⟩ | ⟨_, hdelimiter, _, hsingle⟩
  · rw [hpair] at hmem
    exact hmarks mark hmark hmem
  · rw [hsingle, List.mem_singleton] at hmem
    exact hdelimiter hmem.symm

/-- Every escape in the stuffed form is followed by a marker. -/
lemma getElem?_stuff_succ (bs : Bytes) {i : Nat} (h : (stuff bs)[i]? = some escape) :
    ∃ mark ∈ [delimiterMark, escapeMark], (stuff bs)[i + 1]? = some mark := by
  induction bs generalizing i with
  | nil => simp [stuff] at h
  | cons b bs ih =>
    rw [stuff_cons] at h ⊢
    rcases stuffByte_eq_pair b with ⟨_, mark, hmark, hpair⟩ | ⟨_, _, hescape, hsingle⟩
    · rw [hpair] at h ⊢
      rcases i with _ | _ | i
      · exact ⟨mark, hmark, rfl⟩
      · -- a marker is no escape
        obtain rfl : mark = escape := Option.some.inj h
        exact absurd hmark (by decide)
      · exact ih h
    · rw [hsingle] at h ⊢
      cases i with
      | zero => exact absurd (Option.some.inj h) hescape
      | succ i => exact ih h

/-! ### The length of a frame -/

lemma length_wire (packet : Bytes) : (wire packet).length = encodedLength packet := by
  rw [wire, encodedLength, List.length_cons, List.length_append, length_stuff,
    Crc.length_withTrailer]
  rfl

lemma encodedLength_eq (packet : Bytes) :
    encodedLength packet = packet.length + 4 + (Crc.withTrailer packet).count delimiter +
      (Crc.withTrailer packet).count escape := by
  rw [encodedLength, countP_isReserved, Crc.size]
  omega

lemma encodedLength_le {packet : Bytes} (h : packet.length ≤ Packet.maxLength) :
    encodedLength packet ≤ maxEncoded := by
  have hreserved := (Crc.withTrailer packet).countP_le_length (p := isReserved)
  rw [Crc.length_withTrailer] at hreserved
  rw [encodedLength, maxEncoded, maxDecoded]
  omega

/-! ### Writing in place -/

/-- Bytes put behind what a buffer holds. -/
def push (bs : Bytes) : EStateM FrameError Bytes Unit := modify (· ++ bs)

@[simp] lemma run_push (bs out : Bytes) : (push bs).run out = .ok ⟨⟩ (out ++ bs) := rfl

/-- Writing a frame in place, behind what a buffer holds and byte by byte. The value is what the
length of the buffer grew by. -/
def encodeInPlace (packet : Bytes) : EStateM FrameError Bytes Nat := do
  if Packet.maxLength < packet.length then throw (.tooLarge packet.length Packet.maxLength)
  let start := (← get).length
  push [delimiter]
  (Crc.withTrailer packet).forM fun b => push (stuffByte b)
  push [delimiter]
  return (← get).length - start

lemma run_forM_push (bs out : Bytes) :
    (forM bs fun b => push (stuffByte b)).run out = .ok ⟨⟩ (out ++ stuff bs) := by
  induction bs generalizing out with
  | nil => simp [stuff]
  | cons b bs ih => simp [ih, stuff_cons]

lemma append_of_le (out : Bytes) {packet : Bytes} (h : packet.length ≤ Packet.maxLength) :
    append out packet = .ok (out ++ wire packet, encodedLength packet) := by
  rw [append, encode_of_le h, ← length_wire]
  rfl

lemma encode_of_lt {packet : Bytes} (h : Packet.maxLength < packet.length) :
    encode packet = .error (.tooLarge packet.length Packet.maxLength) := if_neg (Nat.not_le.mpr h)

lemma append_of_lt (out : Bytes) {packet : Bytes} (h : Packet.maxLength < packet.length) :
    append out packet = .error (.tooLarge packet.length Packet.maxLength) := by
  rw [append, encode_of_lt h]
  rfl

/-- In place the same becomes of a buffer, and nothing has been written when the packet is
refused. -/
lemma run_encodeInPlace (packet out : Bytes) :
    (encodeInPlace packet).run out =
      match append out packet with
      | .ok (out', n) => .ok n out'
      | .error e => .error e out := by
  rcases Nat.lt_or_ge Packet.maxLength packet.length with hlong | hfits
  · simp [append_of_lt out hlong, encodeInPlace, hlong]
  · have hwire : out ++ delimiter :: (stuff (Crc.withTrailer packet) ++ [delimiter]) =
        out ++ wire packet := rfl
    simp [append_of_le out hfits, encodeInPlace, Nat.not_lt.mpr hfits, run_forM_push, hwire,
      length_wire, -bind_pure_comp]

/-! ### What framing comes to -/

/-- Framing a packet that is not too long puts one frame behind what the buffer holds and tells its
length, which is known beforehand: four bytes more than the packet, and one for each delimiter and
escape in the packet and its checksum, never more than the longest frame has. Between its delimiters
no delimiter stands and every escape is followed by a marker, and what stands there is read as the
packet and its checksum. A longer packet is refused, and the buffer is left alone. In place the same
becomes of the buffer. -/
theorem append_frame_or_refuse (out packet : Bytes) :
    (packet.length ≤ Packet.maxLength → ∃ frame inner,
      append out packet = .ok (out ++ frame, encodedLength packet) ∧
      (encodeInPlace packet).run out = .ok (encodedLength packet) (out ++ frame) ∧
      frame.length = encodedLength packet ∧
      encodedLength packet = packet.length + 4 + (Crc.withTrailer packet).count delimiter +
        (Crc.withTrailer packet).count escape ∧
      encodedLength packet ≤ maxEncoded ∧
      frame = delimiter :: (inner ++ [delimiter]) ∧
      delimiter ∉ inner ∧
      (∀ i, inner[i]? = some escape →
        inner[i + 1]? = some delimiterMark ∨ inner[i + 1]? = some escapeMark) ∧
      unstuff inner = some (Crc.withTrailer packet)) ∧
    (Packet.maxLength < packet.length →
      append out packet = .error (.tooLarge packet.length Packet.maxLength) ∧
      (encodeInPlace packet).run out = .error (.tooLarge packet.length Packet.maxLength) out) := by
  constructor
  · intro hfits
    have happend := append_of_le out hfits
    refine ⟨wire packet, stuff (Crc.withTrailer packet), happend, ?_, length_wire packet,
      encodedLength_eq packet, encodedLength_le hfits, rfl, delimiter_notMem_stuff _, ?_,
      unstuff_stuff _⟩
    · rw [run_encodeInPlace, happend]
    -- inside the delimiters an escape stands only before one of its marks
    · intro i hescape
      obtain ⟨mark, hmark, hnext⟩ := getElem?_stuff_succ _ hescape
      simp only [List.mem_cons, List.not_mem_nil, or_false] at hmark
      rcases hmark with rfl | rfl
      · exact .inl hnext
      · exact .inr hnext
  · intro hlong
    have happend := append_of_lt out hlong
    refine ⟨happend, ?_⟩
    rw [run_encodeInPlace, happend]

/-- A packet of both reserved bytes, and a packet that is one byte too long. -/
theorem append_frame_or_refuse_reserved :
    ([0xC0, 0xDB] : Bytes).length ≤ Packet.maxLength ∧
      (encodeInPlace [0xC0, 0xDB]).run [0x11] =
        .ok 8 [0x11, 0xC0, 0xDB, 0xDC, 0xDB, 0xDD, 0x6C, 0x42, 0xC0] ∧
      Packet.maxLength < (List.replicate 515 0xC0 : Bytes).length ∧
      (encodeInPlace (List.replicate 515 0xC0)).run [0x11] = .error (.tooLarge 515 514) [0x11] := by
  have hfits : ([0xC0, 0xDB] : Bytes).length ≤ Packet.maxLength := by decide
  have hlength : (List.replicate 515 0xC0 : Bytes).length = 515 := List.length_replicate
  have hlong : Packet.maxLength < (List.replicate 515 0xC0 : Bytes).length := by
    rw [hlength]
    decide
  obtain ⟨frame, inner, happend, hrun, _⟩ := (append_frame_or_refuse [0x11] [0xC0, 0xDB]).1 hfits
  obtain ⟨_, hrefused⟩ := (append_frame_or_refuse [0x11] (List.replicate 515 0xC0)).2 hlong
  have hframe : append [0x11] [0xC0, 0xDB] =
      .ok ([0x11, 0xC0, 0xDB, 0xDC, 0xDB, 0xDD, 0x6C, 0x42, 0xC0], 8) := by decide
  rw [hframe] at happend
  obtain ⟨hout, hcount⟩ := Prod.mk.inj (Except.ok.inj happend)
  rw [← hout, ← hcount] at hrun
  rw [hlength] at hrefused
  exact ⟨hfits, hrun, hlong, hrefused⟩

end BoardLink.Frame
