import Mathlib.Tactic.Common
import BoardLink.Frame.Decoder

/-!
# A stream in pieces

How a stream is cut makes no difference to the decoder: feeding its pieces one after the other is
feeding the whole. Before the first frame nothing is pending, and no frame in the making is longer
than a packet with its checksum.
-/

namespace BoardLink

/-! ### Frames and discards among emissions -/

namespace Emission

@[simp] lemma frames_nil : frames [] = [] := rfl

@[simp] lemma frames_append (es fs : List Emission) : frames (es ++ fs) = frames es ++ frames fs := by
  simp [frames]

@[simp] lemma frames_frame (bytes : Bytes) (es : List Emission) :
    frames (.frame bytes :: es) = bytes :: frames es := rfl

@[simp] lemma frames_discarded (bytes : Bytes) (es : List Emission) :
    frames (.discarded bytes :: es) = frames es := rfl

lemma mem_frames {es : List Emission} {frame : Bytes} : frame ∈ frames es ↔ .frame frame ∈ es := by
  simp only [frames, List.mem_filterMap]
  constructor
  · rintro ⟨e, he, heq⟩
    cases e with
    | frame bytes =>
      cases heq
      exact he
    | discarded bytes => cases heq
  · intro h
    exact ⟨_, h, rfl⟩

@[simp] lemma discards_append (es fs : List Emission) :
    discards (es ++ fs) = discards es ++ discards fs := by
  simp [discards]

end Emission

namespace Decoder

/-! ### Feeding -/

@[simp] lemma feed_nil (d : Decoder) : d.feed [] = (d, []) := rfl

lemma feed_cons (d : Decoder) (b : UInt8) (bs : Bytes) :
    d.feed (b :: bs) =
      (((d.step b).1.feed bs).1, (d.step b).2.toList ++ ((d.step b).1.feed bs).2) := rfl

/-- A stream can be fed in two pieces. -/
lemma feed_append (d : Decoder) (xs ys : Bytes) :
    d.feed (xs ++ ys) = (((d.feed xs).1.feed ys).1, (d.feed xs).2 ++ ((d.feed xs).1.feed ys).2) := by
  induction xs generalizing d with
  | nil => simp
  | cons x xs ih => simp only [List.cons_append, feed_cons, ih, List.append_assoc]

/-- Pieces of a stream, one after the other. -/
def feedAll (d : Decoder) : List Bytes → Decoder × List Emission
  | [] => (d, [])
  | piece :: pieces =>
    let (d, es) := d.feed piece
    let (d, fs) := d.feedAll pieces
    (d, es ++ fs)

/-- Only the stream counts, not where it is cut. -/
lemma feedAll_eq_feed (d : Decoder) (pieces : List Bytes) :
    d.feedAll pieces = d.feed pieces.flatten := by
  induction pieces generalizing d with
  | nil => rfl
  | cons piece pieces ih => simp only [feedAll, List.flatten_cons, feed_append, ih]

/-! ### What every decoder keeps to -/

/-- What holds of a decoder after any stream. -/
structure WellFormed (d : Decoder) : Prop where
  /-- A frame in the making has room in a packet with its checksum. -/
  length_le : d.pending.length ≤ Frame.maxDecoded
  /-- Before the first frame nothing is pending. -/
  pending_nil : d.phase = .leadingFill → d.pending = []

lemma WellFormed.fresh : WellFormed {} := ⟨by decide, fun _ => rfl⟩

/-- After a violation the next frame begins. -/
lemma WellFormed.violate (d : Decoder) (v : Violation) : (d.violate v).1.WellFormed :=
  ⟨Nat.zero_le _, fun _ => rfl⟩

lemma WellFormed.collect {d : Decoder} (b : UInt8) : (d.collect b).1.WellFormed := by
  simp only [Decoder.collect]
  split_ifs with hroom
  · constructor
    · simp only [List.length_append, List.length_singleton]
      omega
    · intro h
      simp at h
  · exact .violate d .overrun

lemma WellFormed.close {d : Decoder} (hd : d.WellFormed) : d.close.1.WellFormed := by
  simp only [Decoder.close]
  split_ifs with hempty
  · exact hd
  · exact ⟨Nat.zero_le _, fun _ => rfl⟩

lemma WellFormed.step {d : Decoder} (hd : d.WellFormed) (b : UInt8) : (d.step b).1.WellFormed := by
  cases hphase : d.phase with
  | leadingFill =>
    simp only [Decoder.step, hphase]
    split_ifs
    · exact ⟨hd.length_le, fun h => by simp at h⟩
    · exact .violate d _
    · exact ⟨hd.length_le, fun _ => hd.pending_nil hphase⟩
    · exact .collect b
  | inPacket =>
    simp only [Decoder.step, hphase]
    split_ifs
    · exact hd.close
    · exact ⟨hd.length_le, fun h => by simp at h⟩
    · exact .collect b
  | inEscape =>
    simp only [Decoder.step, hphase]
    split_ifs
    · exact .violate d _
    · exact .violate d _
    · exact .collect _
    · exact .collect _
    · exact .violate d _

lemma WellFormed.feed {d : Decoder} (hd : d.WellFormed) (bs : Bytes) :
    (d.feed bs).1.WellFormed := by
  induction bs generalizing d with
  | nil => exact hd
  | cons b bs ih => exact ih (hd.step b)

/-! ### Frames that are given out -/

lemma collect_ne_frame (d : Decoder) (b : UInt8) (frame : Bytes) :
    (d.collect b).2 ≠ some (.frame frame) := by
  simp only [collect]
  split_ifs
  · simp
  · simp [violate]

/-- A frame is what was pending. -/
lemma pending_of_step {d : Decoder} {b : UInt8} {frame : Bytes}
    (h : (d.step b).2 = some (.frame frame)) : frame = d.pending := by
  cases hphase : d.phase with
  | leadingFill =>
    simp only [step, hphase] at h
    split_ifs at h
    · cases h
    · exact absurd h (collect_ne_frame d b frame)
  | inPacket =>
    simp only [step, hphase] at h
    split_ifs at h
    · simp only [close] at h
      split_ifs at h
      cases h
      rfl
    · exact absurd h (collect_ne_frame d b frame)
  | inEscape =>
    simp only [step, hphase] at h
    split_ifs at h
    · cases h
    · cases h
    · exact absurd h (collect_ne_frame d _ frame)
    · exact absurd h (collect_ne_frame d _ frame)
    · cases h

/-- No frame is longer than a packet with its checksum. -/
lemma WellFormed.length_frame_le {d : Decoder} (hd : d.WellFormed) {bs frame : Bytes}
    (hframe : .frame frame ∈ (d.feed bs).2) : frame.length ≤ Frame.maxDecoded := by
  induction bs generalizing d with
  | nil => simp at hframe
  | cons b bs ih =>
    rw [feed_cons, List.mem_append, Option.mem_toList] at hframe
    rcases hframe with hframe | hframe
    · rw [pending_of_step hframe]
      exact hd.length_le
    · exact ih (hd.step b) hframe

/-! ### Frames that are counted -/

lemma stats_frames_collect (d : Decoder) (b : UInt8) :
    (d.collect b).1.stats.frames =
      d.stats.frames + (Emission.frames (d.collect b).2.toList).length := by
  simp only [collect]
  split_ifs
  · rfl
  · rfl

/-- Every frame that is given out is counted. -/
lemma stats_frames_step (d : Decoder) (b : UInt8) :
    (d.step b).1.stats.frames = d.stats.frames + (Emission.frames (d.step b).2.toList).length := by
  cases hphase : d.phase with
  | leadingFill =>
    simp only [step, hphase]
    split_ifs
    · rfl
    · rfl
    · rfl
    · exact stats_frames_collect d b
  | inPacket =>
    simp only [step, hphase]
    split_ifs
    · simp only [close]
      split_ifs <;> rfl
    · rfl
    · exact stats_frames_collect d b
  | inEscape =>
    simp only [step, hphase]
    split_ifs
    · rfl
    · rfl
    · exact stats_frames_collect d _
    · exact stats_frames_collect d _
    · rfl

lemma stats_frames_feed (d : Decoder) (bs : Bytes) :
    (d.feed bs).1.stats.frames = d.stats.frames + (Emission.frames (d.feed bs).2).length := by
  induction bs generalizing d with
  | nil => rfl
  | cons b bs ih =>
    rw [feed_cons, Emission.frames_append, List.length_append, ih, stats_frames_step]
    exact Nat.add_assoc ..

end Decoder

end BoardLink
