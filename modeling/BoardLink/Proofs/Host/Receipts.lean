import BoardLink.Proofs.Host.Step
import BoardLink.Proofs.Host.Transmitter
import BoardLink.Proofs.Host.Waits
import BoardLink.Proofs.Transmit.Counting

/-!
# What is counted on receipt

Some counters of the link are about frames from the board: how many were accepted or rejected, and
whether a driver was there for them. What drivers send is counted elsewhere, so nothing that drivers
do shows in these counters.
-/

namespace BoardLink

/-! ### Counters of received frames -/

/-- The counters of received frames, whatever the reason of a rejection. -/
structure Receipts where
  accepted : Nat
  rejected : Nat
  routed : Nat
  missed : Nat
  deriving DecidableEq, Repr

namespace Receipts

/-- How many frames passed the checks or failed one. -/
def judged (r : Receipts) : Nat := r.accepted + r.rejected

/-- Was every accepted frame routed or missed? -/
def Balanced (r : Receipts) : Prop := r.accepted = r.routed + r.missed

end Receipts

namespace LinkStats

/-- The counters of received frames among all. -/
def receipts (s : LinkStats Nat) : Receipts where
  accepted := s.packetsAccepted
  rejected := s.packetsRejected
  routed := s.packetsRouted
  missed := s.routingMisses

/-- The counters `s` with those of received frames taken from `r`. -/
def credit (r s : LinkStats Nat) : LinkStats Nat :=
  { s with
    packetsAccepted := r.packetsAccepted
    rejectedShort := r.rejectedShort
    rejectedCrc := r.rejectedCrc
    rejectedOpcode := r.rejectedOpcode
    rejectedCore := r.rejectedCore
    rejectedCount := r.rejectedCount
    packetsRouted := r.packetsRouted
    routingMisses := r.routingMisses }

end LinkStats

namespace Host

variable {L P : Type} {h h' : Host L P} {setting : Setting P} {slot : SlotId}

/-- The counters of received frames. -/
def receipts (h : Host L P) : Receipts := h.transmitter.stats.receipts

/-! ### Steps that send nothing -/

lemma armReply_transmitter (h : Host L P) (slot : SlotId) (i : Nat) (session : SessionId)
    (timeout token now : Nat) :
    (h.armReply slot i session timeout token now).2.transmitter = h.transmitter := by
  rcases armReply_cases h slot i session timeout token now with ⟨_, heq⟩ | ⟨_, _, _, _, _, _, heq⟩
  · rw [heq]
  · rw [heq]
    rfl

lemma abandonReply_transmitter (h : Host L P) (slot : SlotId) (i : Nat) (session : SessionId) :
    (h.abandonReply slot i session).transmitter = h.transmitter := by
  rcases abandonReply_cases h slot i session with ⟨_, heq⟩ | ⟨_, hsettled, _⟩
  · rw [heq]
  · exact hsettled.transmitter

lemma vacate_transmitter (h : Host L P) (slot : SlotId) (core : Option CoreId) :
    (h.vacate slot core).transmitter = h.transmitter := by
  have hdrop : (h.dropTimers slot).transmitter = h.transmitter := by
    simp only [dropTimers]
    split_ifs <;> rfl
  cases core with
  | none => exact hdrop
  | some c =>
    rw [← hdrop]
    simp only [vacate, freeCore]
    split
    · rfl
    · split_ifs <;> rfl

lemma installFresh_transmitter {name : String} (hfresh : h.installFresh slot name = .ok h') :
    h'.transmitter = h.transmitter := by
  obtain ⟨registry, _, rfl⟩ := except_map_eq_ok.mp hfresh
  rfl

lemma setDriver_transmitter {driver : Occupant P} (hset : h.setDriver slot driver = .ok h') :
    h'.transmitter = h.transmitter := by
  obtain ⟨registry, _, rfl⟩ := except_map_eq_ok.mp hset
  rfl

lemma installDriver_transmitter (h : Host L P) (factory : Factory P) (slot : SlotId) (name : String)
    (core : Option CoreId) :
    (h.installDriver factory slot name core).2.transmitter = h.transmitter := by
  refine installDriver_rel (R := fun h h' => h'.transmitter = h.transmitter)
    (fun hfirst hsecond => hsecond.trans hfirst) (vacate_transmitter h slot core)
    installFresh_transmitter ?_ ?_
  · intro h h' hbind
    cases core with
    | none =>
      cases hbind
      rfl
    | some c =>
      obtain ⟨registry, _, rfl⟩ := except_map_eq_ok.mp hbind
      rfl
  · intro h h' hload
    simp only [loadDriver] at hload
    split at hload
    · exact setDriver_transmitter hload
    · cases hload
      rfl

/-- A wait that is over is counted as a missing answer, and as nothing else. -/
lemma receipts_expireReplies (h : Host L P) (owner : SlotId) (timer : TimerId) :
    (h.expireReplies owner timer).receipts = h.receipts := by
  simp only [expireReplies]
  split <;> rfl

/-! ### What drivers do -/

variable [Link L]

/-- The transmitter with the counters of received frames taken from `r`. -/
def credit (r : LinkStats Nat) : Transmitter L → Transmitter L := .map id (.credit r)

/-- No packet shows the counters of received frames. -/
lemma unseen_credit (r : LinkStats Nat) : Unseen (credit r : Transmitter L → Transmitter L) :=
  fun t core packet =>
    Transmitter.sendBytes_map (fun _ => rfl) (fun _ _ => rfl) (fun _ _ => rfl) t core packet.toBytes

variable {φ : Transmitter L → Transmitter L}

omit [Link L] in
lemma mapTransmitter_eq_self (ht : φ h.transmitter = h.transmitter) : h.mapTransmitter φ = h := by
  rw [mapTransmitter, ht]

/-- Sending keeps a transmitter as it is under a change that no packet shows. -/
lemma Unseen.send (hφ : Unseen φ) {t : Transmitter L} (ht : φ t = t) (core : CoreId)
    (packet : Packet) : φ (t.send core packet).2 = (t.send core packet).2 := by
  have hsent := congrArg Prod.snd (hφ t core packet)
  rw [ht] at hsent
  exact hsent.symm

variable [Driver P]

/-- So does a call of a driver. -/
lemma Unseen.call (hφ : Unseen φ) (ht : φ h.transmitter = h.transmitter) {c : Callback}
    {result : c.Result} {slots : List SlotId}
    (hcall : h.call setting slot c = some (result, h', slots)) :
    φ h'.transmitter = h'.transmitter := by
  have hmapped : (h.mapTransmitter φ).call setting slot c = _ := call_mapTransmitter hφ h slot c
  rw [mapTransmitter_eq_self ht, hcall] at hmapped
  simp only [Option.map_some, Option.some.injEq] at hmapped
  have hhost : h' = h'.mapTransmitter φ := congrArg (fun called => called.2.1) hmapped
  exact (congrArg transmitter hhost).symm

/-- So do the initialisations after a call. -/
lemma Unseen.initialise (hφ : Unseen φ) (ht : φ h.transmitter = h.transmitter) {limit : Nat}
    {slots : List SlotId} (hinit : h.initialise setting limit slots = some h') :
    φ h'.transmitter = h'.transmitter := by
  have hmapped : (h.mapTransmitter φ).initialise setting limit slots = _ :=
    initialise_mapTransmitter hφ limit slots h
  rw [mapTransmitter_eq_self ht, hinit, Option.map_some, Option.some.injEq] at hmapped
  exact (congrArg transmitter hmapped).symm

lemma call_receipts {c : Callback} {result : c.Result} {slots : List SlotId}
    (hcall : h.call setting slot c = some (result, h', slots)) : h'.receipts = h.receipts := by
  have hkept := (unseen_credit h.transmitter.stats).call rfl hcall
  exact (congrArg (fun t => t.stats.receipts) hkept).symm

lemma initialise_receipts {limit : Nat} {slots : List SlotId}
    (hinit : h.initialise setting limit slots = some h') : h'.receipts = h.receipts := by
  have hkept := (unseen_credit h.transmitter.stats).initialise rfl hinit
  exact (congrArg (fun t => t.stats.receipts) hkept).symm

end Host

end BoardLink
