import Mathlib.Tactic.Common
import BoardLink.Frame.Buffer
import BoardLink.Proofs.Decoder.Stream

/-!
# What goes through the receive buffer

The receive buffer is a queue of bounded length. What was taken in is what came out and then what
still waits, in this order, whatever readers leave in the spare area and whatever they report of it.
A read in place, for which the buffer grows to its capacity and is cut afterwards, comes to the same.
-/

namespace BoardLink.ReceiveBuffer

variable {ε : Type} {b : ReceiveBuffer}

/-! ### Extending -/

/-- Is there no more in the buffer than it has room for? -/
def Bounded (b : ReceiveBuffer) : Prop := b.length ≤ b.capacity

lemma bounded_empty (capacity : Nat) : (empty capacity).Bounded := Nat.zero_le capacity

lemma Bounded.length_add_spare (h : b.Bounded) : b.length + b.spare = b.capacity :=
  Nat.add_sub_cancel' h

/-- Of some data the longest beginning that fits goes in. -/
lemma extend_longest (b : ReceiveBuffer) (data : Bytes) :
    ∃ p, p <+: data ∧ p.length ≤ b.spare ∧
      b.extend data = ({ b with contents := b.contents ++ p }, p.length) ∧
      ∀ q, q <+: data → q.length ≤ b.spare → q <+: p := by
  refine ⟨data.take b.spare, List.take_prefix _ _, List.length_take_le _ _, ?_, ?_⟩
  · simp [extend, Nat.min_comm]
  · intro q hq hlength
    apply List.prefix_of_prefix_length_le hq (List.take_prefix _ _)
    rw [List.length_take]
    exact Nat.le_min.mpr ⟨hlength, hq.length_le⟩

/-! ### Readers -/

/-- A reader is given an area, leaves what it likes in it, and reports a count, true or not, or
fails. -/
structure Reader (ε : Type) where
  read : Bytes → Bytes × Except ε Nat
  length_read : ∀ area, (read area).1.length = area.length

namespace Reader

variable (r : Reader ε)

/-- What a reader leaves in the spare area of a buffer, which is zero before. -/
def left (b : ReceiveBuffer) : Bytes := (r.read (List.replicate b.spare 0)).1

/-- What a reader reports of the spare area of a buffer. -/
def report (b : ReceiveBuffer) : Except ε Nat := (r.read (List.replicate b.spare 0)).2

lemma length_left (b : ReceiveBuffer) : (r.left b).length = b.spare := by
  rw [left, r.length_read, List.length_replicate]

/-- A count beyond the area means all of it. -/
lemma take_left (b : ReceiveBuffer) (n : Nat) :
    (r.left b).take (min n b.spare) = (r.left b).take n := by
  rw [← List.take_take, List.take_of_length_le (Nat.le_of_eq (r.length_left b))]

end Reader

lemma spareAfter_left (r : Reader ε) : b.spareAfter (r.left b) = r.left b := by
  have hlength := r.length_left b
  rw [spareAfter, hlength, Nat.sub_self, List.replicate_zero, List.append_nil, ← hlength,
    List.take_length]

/-- No more is kept than there is room for, whatever the reader reports. -/
lemma receive_ok (r : Reader ε) (n : Nat) :
    b.receive (r.left b) (.ok n : Except ε Nat) =
      { b with contents := b.contents ++ (r.left b).take (min n b.spare) } := by
  simp only [receive, spareAfter_left, r.take_left]

/-! ### Reading in place -/

/-- Bytes cut, or filled up with zeros, to a length. -/
def resize (n : Nat) (bs : Bytes) : Bytes := bs.take n ++ List.replicate (n - bs.length) 0

/-- Reading in place: the buffer grows to its capacity, the reader is given all behind what waited
before, and then the buffer is cut to what the reader reports, or to what waited before. -/
def readInPlace (r : Reader ε) : EStateM ε ReceiveBuffer Nat := do
  let start := (← get).length
  modify fun b => { b with contents := resize b.capacity b.contents }
  let (area, report) := r.read ((← get).contents.drop start)
  modify fun b => { b with contents := b.contents.take start ++ area }
  match report with
  | .ok n =>
    modify fun b => { b with contents := b.contents.take (start + n) }
    return n
  | .error e =>
    modify fun b => { b with contents := b.contents.take start }
    throw e

lemma resize_of_bounded (h : b.Bounded) :
    resize b.capacity b.contents = b.contents ++ List.replicate b.spare 0 := by
  rw [resize, List.take_of_length_le h, spare]

/-- In place the same becomes of a buffer, and a reader that fails leaves no trace. -/
lemma run_readInPlace (h : b.Bounded) (r : Reader ε) :
    (readInPlace r).run b =
      match r.report b with
      | .ok n => .ok n (b.receive (r.left b) (.ok n : Except ε Nat))
      | .error e => .error e b := by
  have hread : r.read (List.replicate b.spare 0) = (r.left b, r.report b) := rfl
  cases hreport : r.report b with
  | ok n =>
    rw [hreport] at hread
    simp [readInPlace, resize_of_bounded h, length, hread, receive, spareAfter_left,
      List.take_length_add_append, -bind_pure_comp]
  | error e =>
    rw [hreport] at hread
    simp [readInPlace, resize_of_bounded h, length, hread]
    rfl

/-! ### Actions and what they move -/

/-- What can be done with a buffer and the decoder behind it. -/
inductive Action (ε : Type) where
  | extend (data : Bytes)
  | read (reader : Reader ε)
  | consume (n : Nat)
  | decode

/-- A buffer and the decoder behind it, with all that went through them so far. -/
structure Traffic where
  buffer : ReceiveBuffer
  decoder : Decoder
  emissions : List Emission := []
  /-- What went into the buffer. -/
  taken : Bytes := []
  /-- What came out of the buffer. -/
  consumed : Bytes := []
  /-- What of it came to the decoder. -/
  decoded : Bytes := []

namespace Traffic

/-- Does one thing, and notes what it moves. -/
def perform (s : Traffic) : Action ε → Traffic
  | .extend data =>
    let (buffer, n) := s.buffer.extend data
    { s with buffer, taken := s.taken ++ data.take n }
  | .read r =>
    let buffer := s.buffer.receive (r.left s.buffer) (r.report s.buffer)
    match r.report s.buffer with
    | .ok n => { s with buffer, taken := s.taken ++ (r.left s.buffer).take n }
    | .error _ => { s with buffer }
  | .consume n =>
    { s with
      buffer := s.buffer.consume n
      consumed := s.consumed ++ s.buffer.contents.take n }
  | .decode =>
    let (buffer, decoder, emissions) := s.buffer.decode s.decoder
    { s with
      buffer
      decoder
      emissions := s.emissions ++ emissions
      consumed := s.consumed ++ s.buffer.contents
      decoded := s.decoded ++ s.buffer.contents }

/-- Does one thing after the other. -/
def performAll (s : Traffic) (actions : List (Action ε)) : Traffic := actions.foldl perform s

/-- An empty buffer before a decoder. -/
def start (capacity : Nat) (decoder : Decoder) : Traffic := { buffer := .empty capacity, decoder }

/-- What each action keeps to: no byte is lost, and none comes twice or out of order. -/
structure Conserves (capacity : Nat) (decoder : Decoder) (s : Traffic) : Prop where
  capacity_eq : s.buffer.capacity = capacity
  bounded : s.buffer.Bounded
  taken_eq : s.taken = s.consumed ++ s.buffer.contents
  sublist_consumed : List.Sublist s.decoded s.consumed
  feed_decoded : decoder.feed s.decoded = (s.decoder, s.emissions)

variable {capacity : Nat} {decoder : Decoder} {s : Traffic}

lemma conserves_start (capacity : Nat) (decoder : Decoder) :
    (start capacity decoder).Conserves capacity decoder where
  capacity_eq := rfl
  bounded := bounded_empty capacity
  taken_eq := rfl
  sublist_consumed := .slnil
  feed_decoded := rfl

/-- Bytes that go in behind what waits and for which there is room. -/
lemma Conserves.append (h : s.Conserves capacity decoder) {bs : Bytes}
    (hroom : bs.length ≤ s.buffer.spare) :
    Conserves capacity decoder
      { s with
        buffer := { s.buffer with contents := s.buffer.contents ++ bs }
        taken := s.taken ++ bs } where
  capacity_eq := h.capacity_eq
  bounded := by
    have hspare := h.bounded.length_add_spare
    simp only [Bounded, length, List.length_append] at hspare ⊢
    omega
  taken_eq := by simp [h.taken_eq]
  sublist_consumed := h.sublist_consumed
  feed_decoded := h.feed_decoded

lemma Conserves.consume (h : s.Conserves capacity decoder) (n : Nat) :
    (s.perform (.consume n : Action ε)).Conserves capacity decoder where
  capacity_eq := h.capacity_eq
  bounded := by
    have hbounded := h.bounded
    simp only [Bounded, length] at hbounded
    simp only [Bounded, perform, ReceiveBuffer.consume, length, List.length_drop]
    omega
  taken_eq := by simp [perform, ReceiveBuffer.consume, h.taken_eq]
  sublist_consumed := h.sublist_consumed.trans (List.sublist_append_left _ _)
  feed_decoded := h.feed_decoded

lemma Conserves.decode (h : s.Conserves capacity decoder) :
    (s.perform (.decode : Action ε)).Conserves capacity decoder where
  capacity_eq := h.capacity_eq
  bounded := by simp [Bounded, perform, ReceiveBuffer.decode, ReceiveBuffer.consume, length]
  taken_eq := by
    simp [perform, ReceiveBuffer.decode, ReceiveBuffer.consume, length, h.taken_eq]
  sublist_consumed := h.sublist_consumed.append_right _
  feed_decoded := by
    simp [perform, ReceiveBuffer.decode, Decoder.feed_append, h.feed_decoded]

lemma Conserves.perform (h : s.Conserves capacity decoder) (a : Action ε) :
    (s.perform a).Conserves capacity decoder := by
  cases a with
  | extend data =>
    obtain ⟨p, ⟨rest, rfl⟩, hroom, hextend, _⟩ := s.buffer.extend_longest data
    simp only [Traffic.perform, hextend, List.take_left]
    exact h.append hroom
  | read r =>
    simp only [Traffic.perform]
    split
    · rename_i n hreport
      -- what goes in is what the reader left, cut by its count, and fits whatever the count is
      rw [hreport, receive_ok, r.take_left]
      apply h.append
      rw [← r.length_left]
      exact List.length_take_le' _ _
    · rename_i e hreport
      rw [hreport]
      exact ⟨h.capacity_eq, h.bounded, h.taken_eq, h.sublist_consumed, h.feed_decoded⟩
  | consume n => exact h.consume n
  | decode => exact h.decode

lemma Conserves.performAll (h : s.Conserves capacity decoder) (actions : List (Action ε)) :
    (s.performAll actions).Conserves capacity decoder := by
  induction actions generalizing s with
  | nil => exact h
  | cons a actions ih => exact ih (h.perform a)

/-! ### The buffer as a queue -/

/-- What a buffer and the decoder behind it have come to, and what the next action does. -/
structure IsFifo (capacity : Nat) (decoder : Decoder) (s : Traffic) : Prop where
  capacity_eq : s.buffer.capacity = capacity
  /-- There is never more in it than it has room for. -/
  length_add_spare : s.buffer.length + s.buffer.spare = capacity
  /-- What was taken in is what came out and then what waits. -/
  taken_eq : s.taken = s.consumed ++ s.buffer.contents
  /-- The decoder was fed some of what came out, as one stream. -/
  sublist_consumed : List.Sublist s.decoded s.consumed
  feed_decoded : decoder.feed s.decoded = (s.decoder, s.emissions)
  /-- Of some data the longest beginning that fits goes in. -/
  extend : ∀ data, ∃ p, p <+: data ∧
    s.buffer.extend data = ({ s.buffer with contents := s.buffer.contents ++ p }, p.length) ∧
    ∀ q, q <+: data → s.buffer.length + q.length ≤ capacity → q <+: p
  /-- Of what a reader leaves in the spare area as much goes in as it reports, or all of it. -/
  read : ∀ {ε : Type} (r : Reader ε) n, r.report s.buffer = .ok n →
    (r.left s.buffer).length = s.buffer.spare ∧
    (readInPlace r).run s.buffer = .ok n (s.buffer.receive (r.left s.buffer) (r.report s.buffer)) ∧
    s.buffer.receive (r.left s.buffer) (r.report s.buffer) =
      { s.buffer with
        contents := s.buffer.contents ++ (r.left s.buffer).take (min n s.buffer.spare) }
  /-- A reader that fails leaves no trace. -/
  read_error : ∀ {ε : Type} (r : Reader ε) e, r.report s.buffer = .error e →
    (readInPlace r).run s.buffer = .error e s.buffer ∧
    s.buffer.receive (r.left s.buffer) (r.report s.buffer) = s.buffer
  /-- The first bytes come out first, and no more than there are. -/
  consume : ∀ n, ∃ p, p.length = min n s.buffer.length ∧
    s.buffer.contents = p ++ (s.buffer.consume n).contents
  decode : s.buffer.decode s.decoder = (.empty capacity, s.decoder.feed s.buffer.contents)

/-- Whatever is done with it, the receive buffer is a queue of bounded length. -/
theorem isFifo_performAll (capacity : Nat) (decoder : Decoder) (actions : List (Action ε)) :
    ((start capacity decoder).performAll actions).IsFifo capacity decoder := by
  have h := (conserves_start capacity decoder).performAll actions
  generalize (start capacity decoder).performAll actions = s at h
  have hspare : s.buffer.length + s.buffer.spare = capacity :=
    h.bounded.length_add_spare.trans h.capacity_eq
  -- the room and what waits are the capacity, however the buffer came about
  refine
    { capacity_eq := h.capacity_eq
      length_add_spare := hspare
      taken_eq := h.taken_eq
      sublist_consumed := h.sublist_consumed
      feed_decoded := h.feed_decoded
      extend := ?_
      read := ?_
      read_error := ?_
      consume := ?_
      decode := ?_ }
  · intro data
    obtain ⟨p, hp, _, hextend, hlongest⟩ := s.buffer.extend_longest data
    refine ⟨p, hp, hextend, ?_⟩
    intro q hq hfits
    apply hlongest q hq
    omega
  · intro ε r n hreport
    have hrun := run_readInPlace h.bounded r
    rw [hreport] at hrun ⊢
    exact ⟨r.length_left s.buffer, hrun, receive_ok r n⟩
  · intro ε r e hreport
    have hrun := run_readInPlace h.bounded r
    rw [hreport] at hrun ⊢
    exact ⟨hrun, rfl⟩
  · intro n
    exact ⟨s.buffer.contents.take n, List.length_take, (List.take_append_drop n _).symm⟩
  · simp [ReceiveBuffer.decode, ReceiveBuffer.consume, length, empty, h.capacity_eq]

end Traffic

end BoardLink.ReceiveBuffer
