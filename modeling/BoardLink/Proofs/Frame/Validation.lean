import Mathlib.Data.List.GetD
import Mathlib.Tactic.Common
import BoardLink.Frame.Validation
import BoardLink.Proofs.Bytes
import BoardLink.Proofs.Crc

/-!
# Which frames pass

The checks of a frame, each as what is seen in the frame's bytes, and the order in which they are made. A
frame is accepted exactly when it passes all of them; else the first one that it fails names the error.
-/

namespace BoardLink.Frame

/-! ### The checks -/

/-- What a frame must satisfy, and the error if it does not. -/
structure Check where
  passes : Bytes → Prop
  error : Bytes → PacketError
  [decidable : DecidablePred passes]

namespace Check

instance (check : Check) : DecidablePred check.passes := check.decidable

/-- The frame has room for a header and a checksum. -/
def length : Check where
  passes frame := 6 ≤ frame.length
  error frame := .tooShort frame.length

/-- The last two bytes are the checksum of the others, the high byte first. -/
def trailer : Check where
  passes frame :=
    frame.drop (frame.length - 2) = Bytes.ofWord (Crc.checksum (frame.take (frame.length - 2)))
  error _ := .crcMismatch

/-- The first byte carries an operation. -/
def operation : Check where
  passes frame := Operation.ofCommand (frame.getD 0 0) ≠ .nop
  error frame := .noOperation (frame.getD 0 0)

/-- The second byte is a core, or a core with the sentinel. -/
def core : Check where
  passes frame := (frame.getD 1 0).toNat < 16 ∨ (frame.getD 1 0).toNat / 16 = 0xE
  error frame := .coreOutOfRange (frame.getD 1 0).toNat

/-- Where the board returns data, the fourth byte counts what came and what was kept back. -/
def counts : Check where
  passes frame :=
    (Operation.ofCommand (frame.getD 0 0)).returnsData = true → 7 ≤ frame.length ∧
      (frame.getD 3 0).toNat = frame.length - 7 + (frame.getD (frame.length - 3) 0).toNat
  error frame :=
    .readCountMismatch (frame.getD 3 0).toNat ((frame.length : Int) - 7)
      (frame.getD (frame.length - 3) 0).toNat

/-- All checks in order. -/
def all : List Check := [length, trailer, operation, core, counts]

/-- The first check that the frame fails. -/
def firstFailed (frame : Bytes) : Option Check := all.find? fun check => ¬ check.passes frame

lemma firstFailed_eq_none {frame : Bytes} :
    firstFailed frame = none ↔ ∀ check ∈ all, check.passes frame := by
  simp [firstFailed]

end Check

/-! ### Single bytes -/

lemma readBit_iff : ∀ command : UInt8,
    command &&& readBit ≠ 0 ↔ (Operation.ofCommand command).returnsData = true :=
  forall_byte (by decide +kernel)

lemma ofWire_eq_ok : ∀ b : UInt8, b.toNat < 16 ∨ b.toNat / 16 = 0xE →
    CoreId.ofWire b = .ok ⟨b.toNat % 16, Nat.mod_lt _ (by decide)⟩ :=
  forall_byte (by decide +kernel)

lemma ofWire_eq_error : ∀ b : UInt8, ¬ (b.toNat < 16 ∨ b.toNat / 16 = 0xE) →
    CoreId.ofWire b = .error (.coreOutOfRange b.toNat) :=
  forall_byte (by decide +kernel)

/-! ### The order of the checks -/

variable {frame : Bytes}

/-- The counts are compared as integers, so what came may be fewer bytes than none. -/
lemma counts_iff (hlength : 6 ≤ frame.length) :
    Check.counts.passes frame ↔ ¬ (frame.getD 0 0 &&& readBit ≠ 0 ∧
      ((frame.getD (frame.length - 3) 0).toNat : Int) ≠
        (frame.getD 3 0).toNat - ((frame.length : Int) - (minLength + 1 : Nat))) := by
  have hmin : minLength = 6 := rfl
  rw [readBit_iff, hmin, not_and, not_not]
  refine imp_congr_right fun _ => ?_
  -- a frame of six bytes has its count for what was kept back, which is one less than it must be
  by_cases hsix : frame.length = 6
  · have hsame : frame.getD (frame.length - 3) 0 = frame.getD 3 0 := by rw [hsix]
    rw [hsame]
    omega
  · omega

/-- What a frame that passes is accepted as. -/
def accepted (frame : Bytes) : Accepted where
  core := ⟨(frame.getD 1 0).toNat % 16, Nat.mod_lt _ (by decide)⟩
  packet := frame.take (frame.length - 2)

lemma exists_header (hlength : 6 ≤ frame.length) : ∃ command core register count rest,
    frame = command :: core :: register :: count :: rest := by
  match frame, hlength with
  | command :: core :: register :: count :: rest, _ => exact ⟨_, _, _, _, _, rfl⟩

lemma validate_eq (frame : Bytes) :
    validate frame = match Check.firstFailed frame with
      | some check => .error (check.error frame)
      | none => .ok (accepted frame) := by
  -- the checks in their order, each with the frame past those before it
  by_cases hlength : Check.length.passes frame; swap
  · have hfirst : Check.firstFailed frame = some Check.length := by
      simp [Check.firstFailed, Check.all, hlength]
    rw [hfirst]
    exact if_pos (Nat.not_le.mp hlength)
  have hdamaged : (!Crc.intact frame) = true ↔ ¬ Check.trailer.passes frame := by
    rw [Bool.not_eq_true', ← Bool.not_eq_true, Crc.intact_iff]
    exact not_congr (and_iff_right (Nat.le_trans (by decide) hlength))
  have hcounts := counts_iff hlength
  have hlong : ¬ frame.length < minLength := Nat.not_lt.mpr hlength
  -- a frame that is long enough has a header, and the checks read its bytes
  obtain ⟨command, core, register, count, rest, hframe⟩ := exists_header hlength
  rw [hframe, validate, ← hframe, if_neg hlong]
  by_cases htrailer : Check.trailer.passes frame; swap
  · have hfirst : Check.firstFailed frame = some Check.trailer := by
      simp [Check.firstFailed, Check.all, hlength, htrailer]
    rw [hfirst]
    exact if_pos (hdamaged.mpr htrailer)
  rw [if_neg (hdamaged.not.mpr (not_not.mpr htrailer))]
  have hcommand : frame.getD 0 0 = command := by rw [hframe]; rfl
  have hcore : frame.getD 1 0 = core := by rw [hframe]; rfl
  have hcount : frame.getD 3 0 = count := by rw [hframe]; rfl
  rw [← hcommand, ← hcore, ← hcount]
  by_cases hop : Check.operation.passes frame; swap
  · have hfirst : Check.firstFailed frame = some Check.operation := by
      simp [Check.firstFailed, Check.all, hlength, htrailer, hop]
    rw [hfirst]
    exact if_pos (not_not.mp hop)
  rw [if_neg hop]
  by_cases hwire : Check.core.passes frame; swap
  · have hfirst : Check.firstFailed frame = some Check.core := by
      simp [Check.firstFailed, Check.all, hlength, htrailer, hop, hwire]
    rw [hfirst, ofWire_eq_error _ hwire]
    rfl
  rw [ofWire_eq_ok _ hwire]
  by_cases heven : Check.counts.passes frame; swap
  · have hfirst : Check.firstFailed frame = some Check.counts := by
      simp [Check.firstFailed, Check.all, hlength, htrailer, hop, hwire, heven]
    rw [hfirst]
    exact if_pos (not_not.mp (hcounts.not.mp heven))
  have hfirst : Check.firstFailed frame = none := by
    simp [Check.firstFailed, Check.all, hlength, htrailer, hop, hwire, heven]
  rw [hfirst]
  exact if_neg (hcounts.mp heven)

/-! ### The packet of a reply -/

lemma exists_last_three {frame : Bytes} (hlength : 7 ≤ frame.length) :
    ∃ command core register count data kept high low,
      frame = command :: core :: register :: count :: (data ++ [kept, high, low]) := by
  obtain ⟨command, core, register, count, rest, rfl⟩ := exists_header (Nat.le_of_succ_le hlength)
  simp only [List.length_cons] at hlength
  obtain ⟨kept, high, low, hlast⟩ : ∃ x y z, rest.drop (rest.length - 3) = [x, y, z] := by
    rw [← List.length_eq_three, List.length_drop]
    omega
  refine ⟨command, core, register, count, rest.take (rest.length - 3), kept, high, low, ?_⟩
  rw [← hlast, List.take_append_drop]

/-- A reply that passes has its data, and after them the byte that says how many were kept back. -/
lemma exists_packet_of_counts (hcounts : Check.counts.passes frame)
    (hreturns : (Operation.ofCommand (frame.getD 0 0)).returnsData = true) :
    ∃ packet r, Packet.ofBytes (frame.take (frame.length - 2)) = .ok packet ∧
      packet.remaining = some r ∧
      packet.readData.length + r.toNat = packet.header.count.toNat := by
  -- seven bytes are a header, the byte that says what was kept back, and the checksum
  obtain ⟨hseven, hsum⟩ := hcounts hreturns
  obtain ⟨command, core, register, count, data, kept, high, low, rfl⟩ := exists_last_three hseven
  have hlength : (command :: core :: register :: count :: (data ++ [kept, high, low])).length =
      data.length + 7 := by
    simp only [List.length_cons, List.length_append, List.length_nil]
  have hcount : count.toNat = data.length + kept.toNat := by
    rw [hlength] at hsum
    simpa using hsum
  have htake : (command :: core :: register :: count :: (data ++ [kept, high, low])).take
      (data.length + 7 - 2) = command :: core :: register :: count :: (data ++ [kept]) := by
    simp [List.take_append, List.take_of_length_le]
  have hlt := count.toNat_lt
  have hfits : Header.size + (data ++ [kept]).length ≤ Packet.maxLength := by
    rw [Header.size, Packet.maxLength, Packet.maxData, Header.size, List.length_append,
      List.length_singleton]
    omega
  -- that byte is the last of the data
  refine ⟨{ header := { command, core, register, count }, data := data ++ [kept] }, kept, ?_⟩
  have hremaining : ({ header := { command, core, register, count }, data := data ++ [kept] } :
      Packet).remaining = some kept := by
    rw [Packet.remaining]
    exact (if_pos hreturns).trans List.getLast?_concat
  rw [hlength, htake]
  refine ⟨if_pos hfits, hremaining, ?_⟩
  rw [Packet.readData, hremaining]
  show (data ++ [kept]).dropLast.length + kept.toNat = count.toNat
  rw [List.dropLast_concat, hcount]

/-- A reply that counts what came and what was kept back passes, if its core exists. -/
lemma validate_reply {command core register count kept : UInt8} {data : Bytes} {c : CoreId}
    (hreturns : (Operation.ofCommand command).returnsData = true) (hcore : CoreId.ofWire core = .ok c)
    (hcount : count.toNat = data.length + kept.toNat) :
    validate (Crc.withTrailer (command :: core :: register :: count :: (data ++ [kept]))) =
      .ok { core := c, packet := command :: core :: register :: count :: (data ++ [kept]) } := by
  have hintact := Crc.intact_withTrailer (command :: core :: register :: count :: (data ++ [kept]))
  -- the checksum is two bytes more
  obtain ⟨high, low, hframe⟩ : ∃ high low,
      Crc.withTrailer (command :: core :: register :: count :: (data ++ [kept])) =
        command :: core :: register :: count :: (data ++ [kept, high, low]) := by
    simp only [Crc.withTrailer, Bytes.ofWord, List.cons_append, List.append_assoc, List.nil_append]
    exact ⟨_, _, rfl⟩
  have hlength : (command :: core :: register :: count :: (data ++ [kept, high, low])).length =
      data.length + 7 := by simp
  have hlong : ¬ data.length + 7 < minLength := Nat.not_lt.mpr (Nat.le_add_left 6 (data.length + 1))
  have hoperation : Operation.ofCommand command ≠ .nop := by
    intro hnop
    rw [hnop] at hreturns
    cases hreturns
  have hkept : (command :: core :: register :: count :: (data ++ [kept, high, low])).getD
      (data.length + 7 - 3) 0 = kept := by simp
  -- the counts are compared as integers, since the board may return more than was asked for
  have hcounts : ¬ (command &&& readBit ≠ 0 ∧
      (kept.toNat : Int) ≠ count.toNat - ((data.length + 7 : Nat) - (minLength + 1 : Nat))) := by
    have hmin : minLength = 6 := rfl
    omega
  have hpacket : (command :: core :: register :: count :: (data ++ [kept, high, low])).take
      (data.length + 7 - Crc.size) = command :: core :: register :: count :: (data ++ [kept]) := by
    simp [Crc.size, List.take_append, List.take_of_length_le]
  rw [hframe] at hintact ⊢
  simp only [validate, hlength, if_neg hlong, hintact, Bool.not_true, Bool.false_eq_true, if_false,
    if_neg hoperation, hcore, readCounts, hkept, if_neg hcounts, hpacket]

/-- Where the board returns data, the counts bound the length of an accepted frame. -/
lemma length_le_of_validate {a : Accepted} (h : validate frame = .ok a)
    (hreturns : (Operation.ofCommand (frame.getD 0 0)).returnsData = true) : frame.length ≤ 262 := by
  rw [validate_eq] at h
  cases hfirst : Check.firstFailed frame with
  | some check =>
    rw [hfirst] at h
    cases h
  | none =>
    obtain ⟨_, hsum⟩ := Check.firstFailed_eq_none.mp hfirst Check.counts (by simp [Check.all]) hreturns
    have hlt := (frame.getD 3 0).toNat_lt
    omega

/-! ### Accepted frames -/

/-- A frame is accepted exactly when it passes every check, and else refused with the error of the first
one that it fails. What is accepted is the core and all bytes but the checksum, and if the board returns
data, what came and what was kept back make up what was asked for. -/
theorem validate_iff_checks (frame : Bytes) :
    ((∃ a, validate frame = .ok a) ↔ ∀ check ∈ Check.all, check.passes frame) ∧
    (∀ check, Check.firstFailed frame = some check → validate frame = .error (check.error frame)) ∧
    ∀ a, validate frame = .ok a →
      a.core.val = (frame.getD 1 0).toNat % 16 ∧
      a.packet = frame.take (frame.length - 2) ∧
      ((Operation.ofCommand (frame.getD 0 0)).returnsData = true →
        ∃ packet r, Packet.ofBytes a.packet = .ok packet ∧ packet.remaining = some r ∧
          packet.readData.length + r.toNat = packet.header.count.toNat) := by
  have hvalidate := validate_eq frame
  rw [← Check.firstFailed_eq_none]
  cases hfirst : Check.firstFailed frame with
  | some check =>
    rw [hfirst] at hvalidate
    simp [hvalidate]
  | none =>
    rw [hfirst] at hvalidate
    have hpass := Check.firstFailed_eq_none.mp hfirst
    refine ⟨⟨fun _ => rfl, fun _ => ⟨_, hvalidate⟩⟩, nofun, fun a ha => ?_⟩
    obtain rfl := Except.ok.inj (hvalidate.symm.trans ha)
    exact ⟨rfl, rfl, exists_packet_of_counts (hpass Check.counts (by simp [Check.all]))⟩

/-- Of three bytes asked for, two came and one was kept back. -/
theorem validate_iff_checks_reply :
    validate [0x86, 0xE3, 0x00, 0x03, 0xAA, 0xBB, 0x01, 0x7C, 0x53] =
        .ok { core := ⟨3, by decide⟩, packet := [0x86, 0xE3, 0x00, 0x03, 0xAA, 0xBB, 0x01] } ∧
      (∀ check ∈ Check.all,
        check.passes [0x86, 0xE3, 0x00, 0x03, 0xAA, 0xBB, 0x01, 0x7C, 0x53]) ∧
      ∃ packet r, Packet.ofBytes [0x86, 0xE3, 0x00, 0x03, 0xAA, 0xBB, 0x01] = .ok packet ∧
        packet.remaining = some r ∧
        packet.readData.length + r.toNat = packet.header.count.toNat := by
  have haccepted : validate [0x86, 0xE3, 0x00, 0x03, 0xAA, 0xBB, 0x01, 0x7C, 0x53] =
      .ok { core := ⟨3, by decide⟩, packet := [0x86, 0xE3, 0x00, 0x03, 0xAA, 0xBB, 0x01] } := by decide
  obtain ⟨hiff, _, hpacket⟩ :=
    validate_iff_checks [0x86, 0xE3, 0x00, 0x03, 0xAA, 0xBB, 0x01, 0x7C, 0x53]
  exact ⟨haccepted, hiff.mp ⟨_, haccepted⟩, (hpacket _ haccepted).2.2 (by decide)⟩

end BoardLink.Frame
