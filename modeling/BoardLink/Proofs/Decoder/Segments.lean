import Mathlib.Algebra.Ring.Nat
import BoardLink.Proofs.Decoder.RoundTrip

/-!
# A stream in segments

After the zero bytes before the first frame, delimiters cut a stream into segments. Every segment is
decoded as if no other had come before it: damage never goes past a delimiter. What a segment gives
out is told by its bytes alone, and so is whether it breaks a framing rule.
-/

namespace BoardLink

namespace Frame

/-! ### Clean segments -/

/-- The bytes written in a segment, unless an escape in it is followed by neither marker. -/
def unstuff : Bytes → Option Bytes
  | [] => some []
  | b :: rest =>
    if b = escape then
      match rest with
      | [] => none
      | mark :: rest =>
        if mark = delimiterMark then (unstuff rest).map (delimiter :: ·)
        else if mark = escapeMark then (unstuff rest).map (escape :: ·)
        else none
    else (unstuff rest).map (b :: ·)

/-- A segment that keeps to the framing rules: its escapes are escape pairs, and there is room for
what they stand for. The first segment does not start with an escape. -/
def Clean (first : Bool) (segment : Bytes) : Prop :=
  (first → segment.head? ≠ some escape) ∧ ∃ bs ∈ unstuff segment, bs.length ≤ maxDecoded

instance (first : Bool) (segment : Bytes) : Decidable (Clean first segment) :=
  inferInstanceAs (Decidable (_ ∧ _))

/-- A segment that keeps to the framing rules as far as it goes: it may end amid an escape pair. -/
def CleanSoFar (first : Bool) (segment : Bytes) : Prop :=
  (first → segment.head? ≠ some escape) ∧
    ∃ body tail, segment = body ++ tail ∧ Clean false body ∧ (tail = [] ∨ tail = [escape])

lemma stuff_cons (b : UInt8) (bs : Bytes) : stuff (b :: bs) = stuffByte b ++ stuff bs := by
  simp [stuff]

lemma stuffByte_of_ne {b : UInt8} (hdelimiter : b ≠ delimiter) (hescape : b ≠ escape) :
    stuffByte b = [b] := by
  simp [stuffByte, hdelimiter, hescape]

lemma length_stuffByte_pos (b : UInt8) : 0 < (stuffByte b).length := by
  simp only [stuffByte]
  split_ifs <;> simp

lemma unstuff_cons_of_ne {b : UInt8} (hescape : b ≠ escape) (rest : Bytes) :
    unstuff (b :: rest) = (unstuff rest).map (b :: ·) := by
  rw [unstuff.eq_def]
  simp [hescape]

lemma unstuff_stuffByte (b : UInt8) (rest : Bytes) :
    unstuff (stuffByte b ++ rest) = (unstuff rest).map (b :: ·) := by
  by_cases hdelimiter : b = delimiter
  · subst hdelimiter
    simp [stuffByte, unstuff]
  by_cases hescape : b = escape
  · subst hescape
    have hmark : escapeMark ≠ delimiterMark := by decide
    simp [stuffByte, unstuff, hdelimiter, hmark]
  · rw [stuffByte_of_ne hdelimiter hescape, List.singleton_append, unstuff_cons_of_ne hescape]

lemma unstuff_stuff (bs : Bytes) : unstuff (stuff bs) = some bs := by
  induction bs with
  | nil => rfl
  | cons b bs ih => rw [stuff_cons, unstuff_stuffByte, ih, Option.map_some]

/-- Without a delimiter in it, a segment is the stuffed form of the bytes written in it. -/
lemma eq_stuff_of_unstuff {segment bs : Bytes} (hsegment : delimiter ∉ segment)
    (h : unstuff segment = some bs) : segment = stuff bs := by
  fun_induction unstuff segment generalizing bs with
  | case1 =>
    cases h
    rfl
  | case2 => cases h
  | case3 rest ih =>
    obtain ⟨bs, hbs, rfl⟩ := Option.map_eq_some_iff.mp h
    rw [stuff_cons, ← ih (by simp_all) hbs]
    rfl
  | case4 rest hmark ih =>
    obtain ⟨bs, hbs, rfl⟩ := Option.map_eq_some_iff.mp h
    rw [stuff_cons, ← ih (by simp_all) hbs]
    rfl
  | case5 => cases h
  | case6 b rest hescape ih =>
    obtain ⟨bs, hbs, rfl⟩ := Option.map_eq_some_iff.mp h
    have hdelimiter : b ≠ delimiter := fun hb => hsegment (by simp [hb])
    rw [stuff_cons, ← ih (by simp_all) hbs, stuffByte_of_ne hdelimiter hescape]
    rfl

/-- A segment is empty, starts with the stuffed form of a byte, or stops or goes wrong right after an
escape. -/
lemma segment_cases {segment : Bytes} (hsegment : delimiter ∉ segment) :
    segment = [] ∨ (∃ b rest, segment = stuffByte b ++ rest) ∨ segment = [escape] ∨
      ∃ mark rest, segment = escape :: mark :: rest ∧ mark ≠ delimiterMark ∧ mark ≠ escapeMark := by
  cases segment with
  | nil => exact .inl rfl
  | cons b rest =>
    have hdelimiter : b ≠ delimiter := fun hb => hsegment (by simp [hb])
    by_cases hescape : b = escape
    · subst hescape
      cases rest with
      | nil => exact .inr (.inr (.inl rfl))
      | cons mark rest =>
        by_cases hmark : mark = delimiterMark
        · exact .inr (.inl ⟨delimiter, rest, by rw [hmark]; rfl⟩)
        by_cases hmark' : mark = escapeMark
        · exact .inr (.inl ⟨escape, rest, by rw [hmark']; rfl⟩)
        · exact .inr (.inr (.inr ⟨mark, rest, rfl, hmark, hmark'⟩))
    · exact .inr (.inl ⟨b, rest, by rw [stuffByte_of_ne hdelimiter hescape]; rfl⟩)

lemma clean_iff_of_head {first : Bool} {segment : Bytes}
    (hescape : first → segment.head? ≠ some escape) : Clean first segment ↔ Clean false segment := by
  simp only [Clean, Bool.false_eq_true, false_implies, true_and]
  exact and_iff_right hescape

lemma cleanSoFar_iff_of_head {first : Bool} {segment : Bytes}
    (hescape : first → segment.head? ≠ some escape) :
    CleanSoFar first segment ↔ CleanSoFar false segment := by
  simp only [CleanSoFar, Bool.false_eq_true, false_implies, true_and]
  exact and_iff_right hescape

lemma clean_stuff_iff (bs : Bytes) : Clean false (stuff bs) ↔ bs.length ≤ maxDecoded := by
  simp [Clean, unstuff_stuff]

/-- At most `room` bytes in stuffed form, and perhaps an escape at the end. -/
def Fits (room : Nat) (segment : Bytes) : Prop :=
  ∃ bs tail, segment = stuff bs ++ tail ∧ bs.length ≤ room ∧ (tail = [] ∨ tail = [escape])

lemma Fits.stuffByte {room : Nat} {rest : Bytes} (h : Fits room rest) (b : UInt8) :
    Fits (room + 1) (stuffByte b ++ rest) := by
  obtain ⟨bs, tail, rfl, hbs, htail⟩ := h
  exact ⟨b :: bs, tail, by rw [stuff_cons, List.append_assoc], Nat.succ_le_succ hbs, htail⟩

lemma fits_iff {segment : Bytes} (hsegment : delimiter ∉ segment) :
    Fits maxDecoded segment ↔ CleanSoFar false segment := by
  constructor
  · rintro ⟨bs, tail, rfl, hbs, htail⟩
    exact ⟨nofun, stuff bs, tail, rfl, (clean_stuff_iff bs).mpr hbs, htail⟩
  · rintro ⟨_, body, tail, rfl, ⟨_, bs, hbody, hbs⟩, htail⟩
    have hdelimiter : delimiter ∉ body := fun h => hsegment (List.mem_append_left _ h)
    exact ⟨bs, tail, by rw [eq_stuff_of_unstuff hdelimiter hbody], hbs, htail⟩

end Frame

namespace Decoder

/-! ### What a byte can do -/

/-- A byte breaks a rule, adds a byte to the frame, ends the frame or only leads to another phase. -/
lemma step_cases (d : Decoder) (b : UInt8) :
    (∃ v, d.step b = d.violate v) ∨ (∃ x, b ≠ Frame.delimiter ∧ d.step b = d.collect x) ∨
      (d.phase ≠ .leadingFill ∧ b = Frame.delimiter ∧ d.step b = d.close) ∨
      ∃ phase fill, d.step b = ({ d with
          phase
          stats := { d.stats with fillSkipped := d.stats.fillSkipped + fill } }, none) ∧
        (d.phase ≠ .leadingFill ∨ b ≠ 0 → phase ≠ .leadingFill ∧ fill = 0) := by
  cases hphase : d.phase with
  | leadingFill =>
    simp only [step, hphase]
    split_ifs with hdelimiter hescape hzero
    · exact .inr (.inr (.inr ⟨.inPacket, 0, rfl, by simp⟩))
    · exact .inl ⟨_, rfl⟩
    · exact .inr (.inr (.inr ⟨.leadingFill, 1, by simp [← hphase], by simp [hzero]⟩))
    · exact .inr (.inl ⟨b, hdelimiter, rfl⟩)
  | inPacket =>
    simp only [step, hphase]
    split_ifs with hdelimiter hescape
    · exact .inr (.inr (.inl ⟨by simp, hdelimiter, rfl⟩))
    · exact .inr (.inr (.inr ⟨.inEscape, 0, rfl, by simp⟩))
    · exact .inr (.inl ⟨b, hdelimiter, rfl⟩)
  | inEscape =>
    simp only [step, hphase]
    split_ifs with hdelimiter hescape hmark hmark'
    · exact .inl ⟨_, rfl⟩
    · exact .inl ⟨_, rfl⟩
    · exact .inr (.inl ⟨_, hdelimiter, rfl⟩)
    · exact .inr (.inl ⟨_, hdelimiter, rfl⟩)
    · exact .inl ⟨_, rfl⟩

/-! ### Counters -/

lemma violations_step (d : Decoder) (b : UInt8) :
    (d.step b).1.stats.violations =
      d.stats.violations + (Emission.discards (d.step b).2.toList).length := by
  rcases step_cases d b with ⟨v, h⟩ | ⟨x, _, h⟩ | ⟨_, _, h⟩ | ⟨phase, fill, h, _⟩
  · rw [h]
    rfl
  · rw [h, collect]
    split_ifs
    · rfl
    · rfl
  · rw [h, close]
    split_ifs
    · rfl
    · rfl
  · rw [h]
    rfl

/-- Every violation discards something, if only nothing at all. -/
lemma violations_feed (d : Decoder) (bs : Bytes) :
    (d.feed bs).1.stats.violations =
      d.stats.violations + (Emission.discards (d.feed bs).2).length := by
  induction bs generalizing d with
  | nil => rfl
  | cons b bs ih =>
    rw [feed_cons, ih, violations_step, Emission.discards_append, List.length_append, Nat.add_assoc]

/-- Zero bytes are no fill once something else has come. -/
lemma fillSkipped_step {d : Decoder} {b : UInt8} (h : d.phase ≠ .leadingFill ∨ b ≠ 0) :
    (d.step b).1.phase ≠ .leadingFill ∧
      (d.step b).1.stats.fillSkipped = d.stats.fillSkipped := by
  rcases step_cases d b with ⟨v, heq⟩ | ⟨x, _, heq⟩ | ⟨hphase, _, heq⟩ | ⟨phase, fill, heq, hfill⟩
  · rw [heq]
    exact ⟨Phase.noConfusion, rfl⟩
  · rw [heq, collect]
    split_ifs
    · exact ⟨Phase.noConfusion, rfl⟩
    · exact ⟨Phase.noConfusion, rfl⟩
  · rw [heq, close]
    split_ifs
    · exact ⟨hphase, rfl⟩
    · exact ⟨hphase, rfl⟩
  · rw [heq]
    obtain ⟨hphase, rfl⟩ := hfill h
    exact ⟨hphase, rfl⟩

lemma fillSkipped_feed {d : Decoder} {bs : Bytes}
    (h : d.phase ≠ .leadingFill ∨ bs.head? ≠ some 0) :
    (d.feed bs).1.stats.fillSkipped = d.stats.fillSkipped := by
  induction bs generalizing d with
  | nil => rfl
  | cons b bs ih =>
    obtain ⟨hphase, hfill⟩ := fillSkipped_step (b := b) (h.imp_right fun hb => by simpa using hb)
    rw [feed_cons, ih (.inl hphase), hfill]

/-- Zero bytes before the first frame are counted, and that is all. -/
lemma feed_takeWhile_zero {d : Decoder} (hd : d.phase = .leadingFill) (bs : Bytes) :
    d.feed (bs.takeWhile (· = 0)) =
      ({ d with stats := { d.stats with
          fillSkipped := d.stats.fillSkipped + (bs.takeWhile (· = 0)).length } }, []) := by
  induction bs generalizing d with
  | nil => rfl
  | cons b bs ih =>
    by_cases hb : b = 0
    · have hstep : d.step b =
          ({ d with stats := { d.stats with fillSkipped := d.stats.fillSkipped + 1 } }, none) := by
        subst hb
        simp only [step, hd]
        rfl
      rw [List.takeWhile_cons_of_pos (by simp [hb]), feed_cons, hstep, ih (by exact hd)]
      simp [Nat.add_assoc, Nat.add_comm 1]
    · rw [List.takeWhile_cons_of_neg (by simp [hb])]
      rfl

/-! ### What decides about emissions -/

/-- Two decoders stand at the same place in the same frame, whatever each has counted. -/
structure Alike (d e : Decoder) : Prop where
  phase : d.phase = e.phase
  pending : d.pending = e.pending

namespace Alike

variable {d e : Decoder}

lemma violate (h : Alike d e) (v : Violation) :
    Alike (d.violate v).1 (e.violate v).1 ∧ (d.violate v).2 = (e.violate v).2 := by
  simp only [Decoder.violate, h.pending]
  exact ⟨⟨rfl, rfl⟩, trivial⟩

lemma collect (h : Alike d e) (b : UInt8) :
    Alike (d.collect b).1 (e.collect b).1 ∧ (d.collect b).2 = (e.collect b).2 := by
  simp only [Decoder.collect, h.pending]
  split_ifs
  · exact ⟨⟨rfl, rfl⟩, rfl⟩
  · exact h.violate .overrun

lemma close (h : Alike d e) : Alike d.close.1 e.close.1 ∧ d.close.2 = e.close.2 := by
  simp only [Decoder.close, h.pending]
  split_ifs
  · exact ⟨h, rfl⟩
  · exact ⟨⟨h.phase, rfl⟩, rfl⟩

lemma step (h : Alike d e) (b : UInt8) :
    Alike (d.step b).1 (e.step b).1 ∧ (d.step b).2 = (e.step b).2 := by
  cases hphase : e.phase with
  | leadingFill =>
    simp only [Decoder.step, h.phase, hphase]
    split_ifs
    · exact ⟨⟨rfl, h.pending⟩, rfl⟩
    · exact h.violate _
    · exact ⟨⟨rfl, h.pending⟩, rfl⟩
    · exact h.collect b
  | inPacket =>
    simp only [Decoder.step, h.phase, hphase]
    split_ifs
    · exact h.close
    · exact ⟨⟨rfl, h.pending⟩, rfl⟩
    · exact h.collect b
  | inEscape =>
    simp only [Decoder.step, h.phase, hphase]
    split_ifs
    · exact h.violate _
    · exact h.violate _
    · exact h.collect _
    · exact h.collect _
    · exact h.violate _

lemma feed (h : Alike d e) (bs : Bytes) :
    Alike (d.feed bs).1 (e.feed bs).1 ∧ (d.feed bs).2 = (e.feed bs).2 := by
  induction bs generalizing d e with
  | nil => exact ⟨h, rfl⟩
  | cons b bs ih =>
    obtain ⟨hstep, hemission⟩ := h.step b
    obtain ⟨hrest, hemissions⟩ := ih hstep
    simp only [feed_cons]
    exact ⟨hrest, by rw [hemission, hemissions]⟩

end Alike

/-! ### Inside a segment -/

/-- Frames are given out at delimiters only. -/
lemma frames_step_of_ne (d : Decoder) {b : UInt8} (hb : b ≠ Frame.delimiter) :
    Emission.frames (d.step b).2.toList = [] := by
  rcases step_cases d b with ⟨v, h⟩ | ⟨x, _, h⟩ | ⟨_, hdelimiter, _⟩ | ⟨phase, fill, h, _⟩
  · rw [h]
    rfl
  · rw [h, collect]
    split_ifs
    · rfl
    · rfl
  · exact absurd hdelimiter hb
  · rw [h]
    rfl

lemma frames_feed_segment (d : Decoder) {segment : Bytes} (hsegment : Frame.delimiter ∉ segment) :
    Emission.frames (d.feed segment).2 = [] := by
  induction segment generalizing d with
  | nil => rfl
  | cons b bs ih =>
    simp only [List.mem_cons, not_or] at hsegment
    rw [feed_cons, Emission.frames_append, frames_step_of_ne d (Ne.symm hsegment.1), ih _ hsegment.2]
    rfl

/-- Where the frame is full, one more byte is too many. -/
lemma discards_feed_stuffByte_of_full {d : Decoder} (hphase : d.phase = .inPacket)
    (hfull : ¬ d.pending.length < Frame.maxDecoded) (b : UInt8) :
    Emission.discards (d.feed (Frame.stuffByte b)).2 ≠ [] := by
  have hcollect : ∀ e : Decoder, e.pending = d.pending → e.collect b = e.violate .overrun := by
    intro e he
    simp [collect, he, hfull]
  simp only [Frame.stuffByte]
  split_ifs with hdelimiter hescape
  · subst hdelimiter
    have hmark : Frame.delimiterMark ≠ Frame.delimiter ∧ Frame.delimiterMark ≠ Frame.escape := by
      decide
    have hne : Frame.escape ≠ Frame.delimiter := by decide
    simp [feed_cons, step, hphase, hne, hmark, hcollect, violate, Emission.discards]
  · subst hescape
    have hmark : Frame.escapeMark ≠ Frame.delimiter ∧ Frame.escapeMark ≠ Frame.escape ∧
        Frame.escapeMark ≠ Frame.delimiterMark := by decide
    simp [feed_cons, step, hphase, hdelimiter, hmark, hcollect, violate, Emission.discards]
  · have hstep : d.step b = d.collect b := by simp [step, hphase, hdelimiter, hescape]
    simp [feed_cons, hstep, hcollect d rfl, violate, Emission.discards]

/-- An escape must be followed by a marker. -/
lemma discards_feed_badEscape {d : Decoder} (hphase : d.phase = .inPacket) {mark : UInt8}
    (hdelimiter : mark ≠ Frame.delimiter) (hmark : mark ≠ Frame.delimiterMark)
    (hmark' : mark ≠ Frame.escapeMark) (rest : Bytes) :
    Emission.discards (d.feed (Frame.escape :: mark :: rest)).2 ≠ [] := by
  have hne : Frame.escape ≠ Frame.delimiter := by decide
  by_cases hescape : mark = Frame.escape
  · simp [feed_cons, step, hphase, hne, hescape, violate, Emission.discards]
  · simp [feed_cons, step, hphase, hne, hdelimiter, hescape, hmark, hmark', violate,
      Emission.discards]

/-- A segment that breaks no rule inside a frame fits into the room that is left. -/
lemma fits_of_discards {d : Decoder} (hphase : d.phase = .inPacket) {room : Nat}
    (hroom : d.pending.length + room = Frame.maxDecoded) {segment : Bytes}
    (hsegment : Frame.delimiter ∉ segment) (hquiet : Emission.discards (d.feed segment).2 = []) :
    Frame.Fits room segment := by
  rcases Frame.segment_cases hsegment with rfl | ⟨b, rest, rfl⟩ | rfl | ⟨mark, rest, rfl, hmark⟩
  · exact ⟨[], [], rfl, Nat.zero_le _, .inl rfl⟩
  · rw [feed_append, Emission.discards_append, List.append_eq_nil_iff] at hquiet
    -- a byte takes one place, escaped or not, and without a place it would be discarded
    have hlt : d.pending.length < Frame.maxDecoded := by
      by_contra hfull
      exact discards_feed_stuffByte_of_full hphase hfull b hquiet.1
    rw [feed_stuffByte hphase hlt] at hquiet
    obtain ⟨room, rfl⟩ : ∃ n, room = n + 1 := ⟨room - 1, by omega⟩
    have hroom' : (d.pending ++ [b]).length + room = Frame.maxDecoded := by
      rw [List.length_append, List.length_singleton]
      omega
    have hrest : Frame.delimiter ∉ rest := fun h => hsegment (List.mem_append_right _ h)
    have hshort : rest.length < (Frame.stuffByte b ++ rest).length := by
      have hpos := Frame.length_stuffByte_pos b
      rw [List.length_append]
      omega
    have hfits := fits_of_discards (d := { d with pending := d.pending ++ [b] }) hphase hroom' hrest
      hquiet.2
    exact hfits.stuffByte b
  · exact ⟨[], [Frame.escape], rfl, Nat.zero_le _, .inr rfl⟩
  -- an escape before any other byte is a violation, which discards what was collected
  · have hdelimiter : mark ≠ Frame.delimiter := fun h => hsegment (by simp [h])
    exact absurd hquiet (discards_feed_badEscape hphase hdelimiter hmark.1 hmark.2 rest)
termination_by segment.length

/-- Inside a frame a segment breaks no rule just when it fits into the room that is left. -/
lemma discards_eq_nil_iff {d : Decoder} (hphase : d.phase = .inPacket) (hpending : d.pending = [])
    {segment : Bytes} (hsegment : Frame.delimiter ∉ segment) :
    Emission.discards (d.feed segment).2 = [] ↔ Frame.CleanSoFar false segment := by
  rw [← Frame.fits_iff hsegment]
  constructor
  · exact fits_of_discards hphase (by simp [hpending]) hsegment
  · rintro ⟨bs, tail, rfl, hbs, htail⟩
    rw [feed_append, feed_stuff hphase bs (by simpa [hpending] using hbs)]
    rcases htail with rfl | rfl
    · rfl
    · have hne : Frame.escape ≠ Frame.delimiter := by decide
      simp [feed_cons, step, hphase, hne, Emission.discards]

/-! ### Segments by themselves -/

/-- A decoder before a segment that stands alone: at the beginning of the stream, where fill is
skipped, or right after a delimiter. -/
def before (first : Bool) : Decoder := if first then {} else { phase := .inPacket }

/-- The frames that a segment gives out with the delimiter after it. -/
def framesOf (first : Bool) (segment : Bytes) : List Bytes :=
  Emission.frames ((before first).feed (segment ++ [Frame.delimiter])).2

/-- How often a segment with the delimiter after it breaks a rule. -/
def violationsOf (first : Bool) (segment : Bytes) : Nat :=
  ((before first).feed (segment ++ [Frame.delimiter])).1.stats.violations

/-- How often a segment breaks a rule while it is not at its end. -/
def violationsSoFar (first : Bool) (segment : Bytes) : Nat :=
  ((before first).feed segment).1.stats.violations

lemma before_wellFormed (first : Bool) : (before first).WellFormed := by
  cases first with
  | true => exact .fresh
  | false => exact ⟨by decide, nofun⟩

lemma violations_before (first : Bool) : (before first).stats.violations = 0 := by
  cases first with
  | true => rfl
  | false => rfl

/-- A segment that begins neither with fill nor with an escape makes no difference between the
beginning of the stream and that of a frame. -/
lemma feed_fresh {b : UInt8} (hfill : b ≠ 0) (hescape : b ≠ Frame.escape) (rest : Bytes) :
    (before true).feed (b :: rest) = (before false).feed (b :: rest) := by
  have hstep : (before true).step b = (before false).step b := by
    by_cases hdelimiter : b = Frame.delimiter
    · rw [hdelimiter]
      rfl
    · have hroom : 0 < Frame.maxDecoded := by decide
      simp [step, before, hfill, hescape, hdelimiter, collect, hroom]
  rw [feed_cons, feed_cons, hstep]

/-- An escape before the first frame breaks a rule. -/
lemma violations_of_escape {first : Bool} {segment : Bytes} (hfirst : first)
    (hescape : segment.head? = some Frame.escape) :
    ((before first).feed segment).1.stats.violations ≠ 0 := by
  subst hfirst
  obtain ⟨rest, rfl⟩ := List.head?_eq_some_iff.mp hescape
  rw [feed_cons, violations_feed]
  exact Nat.ne_of_gt (Nat.le_add_right 1 _)

/-- A segment may be taken for another than the first, unless it starts with an escape. -/
lemma feed_before {first : Bool} {segment : Bytes} (hne : segment ≠ [])
    (hfill : first → segment.head? ≠ some 0) (hescape : first → segment.head? ≠ some Frame.escape) :
    (before first).feed segment = (before false).feed segment := by
  cases first with
  | false => rfl
  | true =>
    obtain ⟨b, rest, rfl⟩ := List.exists_cons_of_ne_nil hne
    exact feed_fresh (by simpa using hfill) (by simpa using hescape) rest

lemma head?_closed {segment : Bytes} {b : UInt8} (hb : b ≠ Frame.delimiter)
    (hhead : segment.head? ≠ some b) : (segment ++ [Frame.delimiter]).head? ≠ some b := by
  cases segment with
  | nil => simpa [eq_comm] using hb
  | cons x rest => exact hhead

lemma feed_before_closed {first : Bool} {segment : Bytes} (hfill : first → segment.head? ≠ some 0)
    (hescape : first → segment.head? ≠ some Frame.escape) :
    (before first).feed (segment ++ [Frame.delimiter]) =
      (before false).feed (segment ++ [Frame.delimiter]) := by
  apply feed_before
  · simp
  · exact fun h => head?_closed (by decide) (hfill h)
  · exact fun h => head?_closed (by decide) (hescape h)

lemma violationsSoFar_false_eq_zero_iff {segment : Bytes} (hsegment : Frame.delimiter ∉ segment) :
    violationsSoFar false segment = 0 ↔ Frame.CleanSoFar false segment := by
  rw [violationsSoFar, violations_feed, violations_before, Nat.zero_add, List.length_eq_zero_iff]
  exact discards_eq_nil_iff rfl rfl hsegment

/-- A segment breaks no rule so far just when it is clean so far. -/
lemma violationsSoFar_eq_zero_iff {first : Bool} {segment : Bytes}
    (hsegment : Frame.delimiter ∉ segment) (hfill : first → segment.head? ≠ some 0) :
    violationsSoFar first segment = 0 ↔ Frame.CleanSoFar first segment := by
  by_cases hescape : first ∧ segment.head? = some Frame.escape
  · obtain ⟨hfirst, hhead⟩ := hescape
    exact iff_of_false (violations_of_escape hfirst hhead) fun hclean => hclean.1 hfirst hhead
  · rw [not_and] at hescape
    rw [Frame.cleanSoFar_iff_of_head hescape, ← violationsSoFar_false_eq_zero_iff hsegment]
    cases segment with
    | nil => simp [violationsSoFar, violations_before]
    | cons b rest => rw [violationsSoFar, feed_before (by simp) hfill hescape, violationsSoFar]

/-- A clean segment gives out the bytes written in it, if there are any. -/
lemma feed_stuff_closed {bs : Bytes} (hbs : bs.length ≤ Frame.maxDecoded) :
    framesOf false (Frame.stuff bs) = (if bs = [] then [] else [bs]) ∧
      violationsOf false (Frame.stuff bs) = 0 := by
  rw [framesOf, violationsOf, feed_stuff_close rfl rfl hbs]
  by_cases hempty : bs = []
  · simp [close, hempty, violations_before]
  · simp [close, hempty, violations_before]

lemma violationsOf_false_eq_zero_iff {segment : Bytes} (hsegment : Frame.delimiter ∉ segment) :
    violationsOf false segment = 0 ↔ Frame.Clean false segment := by
  constructor
  · intro hzero
    rw [violationsOf, feed_append, feed_cons, feed_nil] at hzero
    obtain ⟨hviolations, _⟩ := step_delimiter_violations ((before false).feed segment).1
    rw [hviolations] at hzero
    have hsoFar : violationsSoFar false segment = 0 := by
      rw [violationsSoFar]
      omega
    obtain ⟨_, body, tail, rfl, hbody, htail⟩ :=
      (violationsSoFar_false_eq_zero_iff hsegment).mp hsoFar
    rcases htail with rfl | rfl
    · rwa [List.append_nil]
    · -- the delimiter would stand amid an escape pair
      obtain ⟨_, bs, hunstuff, hbs⟩ := hbody
      have hdelimiter : Frame.delimiter ∉ body := fun h => hsegment (List.mem_append_left _ h)
      have hne : Frame.escape ≠ Frame.delimiter := by decide
      rw [Frame.eq_stuff_of_unstuff hdelimiter hunstuff, feed_append,
        feed_stuff rfl bs (by simpa [before] using hbs)] at hzero
      simp [feed_cons, step, before, hne] at hzero
  · rintro ⟨_, bs, hunstuff, hbs⟩
    rw [Frame.eq_stuff_of_unstuff hsegment hunstuff]
    exact (feed_stuff_closed hbs).2

/-- A segment that a delimiter ends breaks no rule just when it is clean. -/
lemma violationsOf_eq_zero_iff {first : Bool} {segment : Bytes}
    (hsegment : Frame.delimiter ∉ segment) (hfill : first → segment.head? ≠ some 0) :
    violationsOf first segment = 0 ↔ Frame.Clean first segment := by
  by_cases hescape : first ∧ segment.head? = some Frame.escape
  · obtain ⟨hfirst, hhead⟩ := hescape
    have hclosed : (segment ++ [Frame.delimiter]).head? = some Frame.escape := by
      rw [List.head?_append, hhead]
      rfl
    exact iff_of_false (violations_of_escape hfirst hclosed) fun hclean => hclean.1 hfirst hhead
  · rw [not_and] at hescape
    rw [Frame.clean_iff_of_head hescape, ← violationsOf_false_eq_zero_iff hsegment, violationsOf,
      feed_before_closed hfill hescape, violationsOf]

/-- A clean segment gives out one frame, the bytes written in it, or none if there are none. -/
lemma framesOf_of_clean {first : Bool} {segment : Bytes} (hsegment : Frame.delimiter ∉ segment)
    (hfill : first → segment.head? ≠ some 0) (hclean : Frame.Clean first segment) :
    ∃ bs, Frame.unstuff segment = some bs ∧
      framesOf first segment = if bs = [] then [] else [bs] := by
  obtain ⟨hescape, bs, hunstuff, hbs⟩ := hclean
  refine ⟨bs, hunstuff, ?_⟩
  rw [framesOf, feed_before_closed hfill hescape, Frame.eq_stuff_of_unstuff hsegment hunstuff]
  exact (feed_stuff_closed hbs).1

lemma length_framesOf_le (first : Bool) {segment : Bytes} (hsegment : Frame.delimiter ∉ segment) :
    (framesOf first segment).length ≤ 1 := by
  rw [framesOf, feed_append, Emission.frames_append, frames_feed_segment _ hsegment, feed_cons,
    feed_nil, List.append_nil, frames_step_delimiter, unfinished, List.nil_append]
  split_ifs
  · exact Nat.le_refl 1
  · exact Nat.zero_le 1

/-! ### One segment after the other -/

/-- A segment that a delimiter ends gives out what it gives out alone, and after it the next one
begins. -/
lemma feed_segment {first : Bool} {d : Decoder} (hd : Alike d (before first)) (segment : Bytes) :
    Alike (d.feed (segment ++ [Frame.delimiter])).1 (before false) ∧
      Emission.frames (d.feed (segment ++ [Frame.delimiter])).2 = framesOf first segment ∧
      (d.feed (segment ++ [Frame.delimiter])).1.stats.violations =
        d.stats.violations + violationsOf first segment := by
  obtain ⟨halike, hemissions⟩ := hd.feed (segment ++ [Frame.delimiter])
  obtain ⟨hphase, hpending⟩ := step_delimiter_begins ((before_wellFormed first).feed segment)
  have hstep : ((before first).feed (segment ++ [Frame.delimiter])).1 =
      (((before first).feed segment).1.step Frame.delimiter).1 := by
    rw [feed_append]
    rfl
  rw [← hstep] at hphase hpending
  refine ⟨⟨halike.phase.trans hphase, halike.pending.trans hpending⟩, ?_, ?_⟩
  · rw [hemissions, framesOf]
  · rw [violations_feed, hemissions, violationsOf, violations_feed (before first),
      violations_before, Nat.zero_add]

/-- Segments that delimiters end, one after the other. -/
lemma feed_ended {first : Bool} {d : Decoder} (hd : Alike d (before first)) (ended : List Bytes) :
    let after := d.feed (ended.map (· ++ [Frame.delimiter])).flatten
    Alike after.1 (before (first && ended.isEmpty)) ∧
      Emission.frames after.2 =
        (ended.mapIdx fun i segment => framesOf (first && i == 0) segment).flatten ∧
      after.1.stats.violations = d.stats.violations +
        (ended.mapIdx fun i segment => violationsOf (first && i == 0) segment).sum := by
  induction ended generalizing first d with
  | nil => simpa using hd
  | cons segment ended ih =>
    obtain ⟨halike, hframes, hviolations⟩ := feed_segment hd segment
    obtain ⟨hlast, hrest, hcount⟩ := ih halike
    simp only [List.map_cons, List.flatten_cons, feed_append d (segment ++ [Frame.delimiter]),
      Emission.frames_append]
    refine ⟨by simpa using hlast, ?_, ?_⟩
    · rw [hframes, hrest]
      simp [List.mapIdx_cons]
    · rw [hcount, hviolations]
      simp [List.mapIdx_cons, Nat.add_assoc]

/-- Segments that delimiters end break no rule just when all of them are clean. -/
lemma sum_violationsOf_eq_zero_iff {ended : List Bytes}
    (hended : ∀ segment ∈ ended, Frame.delimiter ∉ segment)
    (hfill : ∀ i segment, ended[i]? = some segment → i == 0 → segment.head? ≠ some 0) :
    (ended.mapIdx fun i segment => violationsOf (i == 0) segment).sum = 0 ↔
      ∀ i segment, ended[i]? = some segment → Frame.Clean (i == 0) segment := by
  rw [List.sum_eq_zero_iff_forall_eq_nat]
  constructor
  · intro hzero i segment hsegment
    obtain ⟨hi, hget⟩ := List.getElem?_eq_some_iff.mp hsegment
    have hviolations := hzero _ (List.mem_mapIdx.mpr ⟨i, hi, rfl⟩)
    rw [hget] at hviolations
    have hmem := hended segment (List.mem_of_getElem? hsegment)
    exact (violationsOf_eq_zero_iff hmem (hfill i segment hsegment)).mp hviolations
  · intro hclean n hn
    obtain ⟨i, hi, rfl⟩ := List.mem_mapIdx.mp hn
    have hsegment := List.getElem?_eq_getElem hi
    have hmem := hended _ (List.getElem_mem hi)
    exact (violationsOf_eq_zero_iff hmem (hfill i _ hsegment)).mpr (hclean i _ hsegment)

/-- A frame that is given out is not empty. -/
lemma ne_nil_of_feed {d : Decoder} {bs frame : Bytes} (hframe : .frame frame ∈ (d.feed bs).2) :
    frame ≠ [] := by
  induction bs generalizing d with
  | nil => simp at hframe
  | cons b bs ih =>
    rw [feed_cons, List.mem_append, Option.mem_toList] at hframe
    rcases hframe with hframe | hframe
    · rcases step_cases d b with ⟨v, h⟩ | ⟨x, _, h⟩ | ⟨_, _, h⟩ | ⟨phase, fill, h, _⟩
      · rw [h] at hframe
        cases hframe
      · exact absurd (h ▸ hframe) (collect_ne_frame d x frame)
      · rw [h, close] at hframe
        split_ifs at hframe with hempty
        cases hframe
        simpa using hempty
      · rw [h] at hframe
        cases hframe
    · exact ih hframe

/-- A stream is cut at its delimiters: what each of them ends, and what comes after the last. -/
lemma exists_segments (stream : Bytes) :
    ∃ ended last, stream.splitOn Frame.delimiter = ended ++ [last] ∧
      stream = (ended.map (· ++ [Frame.delimiter])).flatten ++ last ∧
      (∀ segment ∈ ended, Frame.delimiter ∉ segment) ∧ Frame.delimiter ∉ last := by
  induction stream with
  | nil => exact ⟨[], [], rfl, rfl, nofun, nofun⟩
  | cons b stream ih =>
    obtain ⟨ended, last, hsplit, hstream, hended, hlast⟩ := ih
    rw [List.splitOn] at hsplit
    rw [List.splitOn, List.splitOnP_cons_eq_if_modifyHead, hsplit]
    by_cases hb : b = Frame.delimiter
    · refine ⟨[] :: ended, last, by simp [hb], by simp [hb, ← hstream], ?_, hlast⟩
      rintro segment (_ | ⟨_, hsegment⟩)
      · exact nofun
      · exact hended segment hsegment
    · cases ended with
      | nil =>
        refine ⟨[], b :: last, by simp [hb], by simpa using hstream, nofun, ?_⟩
        simpa [eq_comm (a := Frame.delimiter), hb] using hlast
      | cons segment ended =>
        refine ⟨(b :: segment) :: ended, last, by simp [hb], by simpa using hstream, ?_, hlast⟩
        rintro segment' (_ | ⟨_, hsegment⟩)
        · simpa [eq_comm (a := Frame.delimiter), hb] using hended segment List.mem_cons_self
        · exact hended segment' (List.mem_cons_of_mem _ hsegment)

/-- The zero bytes at the start of a stream are skipped and counted. -/
lemma feed_eq_feed_dropWhile (stream : Bytes) :
    ({} : Decoder).feed stream =
      ({ stats := { fillSkipped := (stream.takeWhile (· = 0)).length } } : Decoder).feed
        (stream.dropWhile (· = 0)) := by
  have happend := feed_append {} (stream.takeWhile (· = 0)) (stream.dropWhile (· = 0))
  rw [List.takeWhile_append_dropWhile, feed_takeWhile_zero rfl, Nat.zero_add] at happend
  exact happend

lemma head?_dropWhile_zero (stream : Bytes) : (stream.dropWhile (· = 0)).head? ≠ some 0 := by
  intro hhead
  have hnot := List.head?_dropWhile_not (· = 0) stream
  rw [hhead] at hnot
  simp at hnot

/-- Where a stream does not begin with a zero byte, its first segment does not. -/
lemma head?_segment {stream last : Bytes} {ended : List Bytes} (hhead : stream.head? ≠ some 0)
    (hstream : stream = (ended.map (· ++ [Frame.delimiter])).flatten ++ last) :
    (∀ i segment, ended[i]? = some segment → i == 0 → segment.head? ≠ some 0) ∧
      (ended.isEmpty → last.head? ≠ some 0) := by
  subst hstream
  cases ended with
  | nil =>
    refine ⟨fun i segment hsegment => ?_, fun _ => hhead⟩
    cases hsegment
  | cons first ended =>
    constructor
    · intro i segment hsegment hi hzero
      rw [eq_of_beq hi] at hsegment
      cases hsegment
      obtain ⟨tail, rfl⟩ := List.head?_eq_some_iff.mp hzero
      exact hhead rfl
    · intro hempty
      cases hempty

/-- Every stream is decoded segment by segment. The zero bytes at its start are skipped and counted.
Each segment gives out what it gives out alone, whatever came before it: if it is clean, the bytes
written in it and no violation, otherwise one frame at most and a violation at least. Frames are
neither empty nor too long. No rule is broken in the whole stream just when all segments are clean and
what comes after the last delimiter is clean so far. -/
theorem feed_segments (stream : Bytes) :
    let after := ({} : Decoder).feed stream
    ∃ ended last,
      (stream.dropWhile (· = 0)).splitOn Frame.delimiter = ended ++ [last] ∧
      after.1.stats.fillSkipped = (stream.takeWhile (· = 0)).length ∧
      Emission.frames after.2 =
        (ended.mapIdx fun i segment => framesOf (i == 0) segment).flatten ∧
      after.1.stats.violations =
        (ended.mapIdx fun i segment => violationsOf (i == 0) segment).sum +
          violationsSoFar ended.isEmpty last ∧
      (∀ i segment, ended[i]? = some segment →
        (Frame.Clean (i == 0) segment →
          violationsOf (i == 0) segment = 0 ∧ ∃ bs, Frame.unstuff segment = some bs ∧
            framesOf (i == 0) segment = if bs = [] then [] else [bs]) ∧
        (¬ Frame.Clean (i == 0) segment →
          (framesOf (i == 0) segment).length ≤ 1 ∧ 1 ≤ violationsOf (i == 0) segment)) ∧
      (∀ frame ∈ Emission.frames after.2, 1 ≤ frame.length ∧ frame.length ≤ Frame.maxDecoded) ∧
      (after.1.stats.violations = 0 ↔
        (∀ i segment, ended[i]? = some segment → Frame.Clean (i == 0) segment) ∧
          Frame.CleanSoFar ended.isEmpty last) := by
  intro after
  let rest := stream.dropWhile (· = 0)
  let d : Decoder := { stats := { fillSkipped := (stream.takeWhile (· = 0)).length } }
  have hafter : after = d.feed rest := feed_eq_feed_dropWhile stream
  have hhead : rest.head? ≠ some 0 := head?_dropWhile_zero stream
  obtain ⟨ended, last, hsplit, hrest, hended, hlast⟩ := exists_segments rest
  have hfresh : Alike d (before true) := ⟨rfl, rfl⟩
  obtain ⟨halike, hframes, hviolations⟩ := feed_ended hfresh ended
  obtain ⟨_, hemissions⟩ := halike.feed last
  -- only the first segment could begin with a zero byte, and the fill before it is gone
  obtain ⟨hfill, hfillLast⟩ := head?_segment hhead hrest
  have hcount : after.1.stats.violations =
      (ended.mapIdx fun i segment => violationsOf (i == 0) segment).sum +
        violationsSoFar ended.isEmpty last := by
    rw [hafter, hrest, feed_append, violations_feed, hviolations, hemissions, violationsSoFar,
      violations_feed (before _), violations_before]
    simp [d]
  refine ⟨ended, last, hsplit, ?_, ?_, hcount, ?_, ?_, ?_⟩
  · rw [hafter]
    exact fillSkipped_feed (.inr hhead)
  · rw [hafter, hrest, feed_append, Emission.frames_append, hframes,
      frames_feed_segment _ hlast, List.append_nil]
    simp
  · intro i segment hsegment
    have hmem := hended segment (List.mem_of_getElem? hsegment)
    have hzero := violationsOf_eq_zero_iff hmem (hfill i segment hsegment)
    constructor
    · intro hclean
      exact ⟨hzero.mpr hclean, framesOf_of_clean hmem (hfill i segment hsegment) hclean⟩
    · intro hclean
      exact ⟨length_framesOf_le _ hmem, Nat.one_le_iff_ne_zero.mpr (mt hzero.mp hclean)⟩
  · intro frame hframe
    have hframe := Emission.mem_frames.mp hframe
    constructor
    · exact List.length_pos_iff.mpr (ne_nil_of_feed hframe)
    · exact WellFormed.fresh.length_frame_le hframe
  · rw [hcount, Nat.add_eq_zero_iff, sum_violationsOf_eq_zero_iff hended hfill,
      violationsSoFar_eq_zero_iff hlast hfillLast]

-- A segment that is not clean may still give out a frame, of the bytes after the violation.
example : ¬ Frame.Clean false [0x11, 0xDB, 0x11, 0x22] ∧
    framesOf false [0x11, 0xDB, 0x11, 0x22] = [[0x22]] := by decide

end Decoder

end BoardLink
