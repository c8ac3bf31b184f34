import Mathlib.Tactic.Common
import BoardLink.Transmit

/-!
# What a write adds to the counters

Whatever the link says of a write, four counters grow by what the write costs and all others stay. So
a change of other counters, or of what the link does not show to a writer, is not seen in what comes
of a packet. This goes for counters of 64 bits too, which grow by as much modulo 2⁶⁴.
-/

namespace BoardLink

/-! ### Tolls -/

/-- What is added to the counters of transmission. -/
structure Toll (N : Type) where
  bytes : N
  sent : N
  blocked : N
  failed : N
  deriving DecidableEq, Repr

namespace Toll

instance : Zero (Toll Nat) := ⟨⟨0, 0, 0, 0⟩⟩

instance {N : Type} [Add N] : Add (Toll N) where
  add a b :=
    { bytes := a.bytes + b.bytes
      sent := a.sent + b.sent
      blocked := a.blocked + b.blocked
      failed := a.failed + b.failed }

/-- How many packets were not refused, whatever became of them. -/
def packets (a : Toll Nat) : Nat := a.sent + a.blocked + a.failed

/-- The toll in 64 bits. -/
def counters (a : Toll Nat) : Toll UInt64 where
  bytes := .ofNat a.bytes
  sent := .ofNat a.sent
  blocked := .ofNat a.blocked
  failed := .ofNat a.failed

/-- The toll of a result, when the link claims to have taken so many bytes. -/
def ofResult (bytes : Nat) : Except TxError Unit → Toll Nat
  | .ok () => { bytes, sent := 1, blocked := 0, failed := 0 }
  | .error .wouldBlock => { bytes, sent := 0, blocked := 1, failed := 0 }
  | .error (.partialWrite ..) | .error (.io _) => { bytes, sent := 0, blocked := 0, failed := 1 }
  | .error (.tooShort _) | .error .notConnected | .error (.frame _) =>
    { bytes, sent := 0, blocked := 0, failed := 0 }

end Toll

namespace LinkStats

/-- The counters with a toll added; all others stay. -/
def charge {N : Type} [Add N] (s : LinkStats N) (a : Toll N) : LinkStats N :=
  { s with
    bytesWritten := s.bytesWritten + a.bytes
    packetsSent := s.packetsSent + a.sent
    txWouldBlock := s.txWouldBlock + a.blocked
    txErrors := s.txErrors + a.failed }

end LinkStats

/-! ### Writes -/

/-- What a link claims to have taken. -/
def claimed (outcome : Except IoError Nat) : Nat := outcome.toOption.getD 0

namespace Transmitter

lemma countWrite_eq (s : LinkStats Nat) (expected : Nat) (outcome : Except IoError Nat) :
    countWrite s expected outcome =
      s.charge (.ofResult (claimed outcome) (writeResult expected outcome)) := by
  cases outcome with
  | ok sent =>
    simp only [countWrite, writeResult]
    split_ifs <;> rfl
  | error e =>
    simp only [countWrite, writeResult]
    split_ifs <;> rfl

variable {L M : Type}

/-- A transmitter with another link and other counters. -/
def map (ψ : L → M) (f : LinkStats Nat → LinkStats Nat) (t : Transmitter L) : Transmitter M :=
  { t with link := ψ t.link, stats := f t.stats }

/-- Sending comes out the same and does the same, if the other link is as open and takes as much, and
if the counters differ in none of transmission. -/
lemma sendBytes_map [Link L] [Link M] {ψ : L → M} {f : LinkStats Nat → LinkStats Nat}
    (hopen : ∀ l, Link.isOpen (ψ l) = Link.isOpen l)
    (hwrite : ∀ l bytes, Link.write (ψ l) bytes = Prod.map ψ id (Link.write l bytes))
    (hcharge : ∀ s a, (f s).charge a = f (s.charge a)) (t : Transmitter L) (core : CoreId)
    (packet : Bytes) :
    (t.map ψ f).sendBytes core packet = Prod.map id (map ψ f) (t.sendBytes core packet) := by
  have hopen : (t.map ψ f).isOpen = t.isOpen := hopen t.link
  -- each exit after the frame was built charges one amount, whatever counts it
  have hcount (expected : Nat) (outcome : Except IoError Nat) :
      countWrite (t.map ψ f).stats expected outcome = f (countWrite t.stats expected outcome) := by
    rw [countWrite_eq, countWrite_eq]
    exact hcharge ..
  by_cases hshort : packet.length < Header.size
  · simp only [sendBytes, if_pos hshort]
    rfl
  by_cases hclosed : (!t.isOpen) = true
  · simp only [sendBytes, hopen, if_neg hshort, if_pos hclosed]
    rfl
  simp only [sendBytes, hopen, if_neg hshort, if_neg hclosed]
  cases Frame.encode (address core packet) with
  | error e => rfl
  | ok frame =>
    have hwrite : Link.write (t.map ψ f).link frame = Prod.map ψ id (Link.write t.link frame) :=
      hwrite t.link frame
    simp only [hwrite, hcount]
    rfl

end Transmitter

end BoardLink
