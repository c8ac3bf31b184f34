import BoardLink.Proofs.Host.Ledger
import BoardLink.Proofs.Host.Waits
import BoardLink.Proofs.Registry.Waiting

/-!
# Changes about no wait

Most of what a host does neither begins nor ends a wait, and the journal does not say that it does.
-/

namespace BoardLink

/-- Does the operation begin or end waits, or may a command do so? -/
def Op.posts {P : Type} : Op P → Bool
  | .awaitReply .. | .completeReply .. | .installDriver .. | .registry _ => true
  | op => op.locks

namespace Host

variable {L P : Type} {h h' h'' : Host L P} {slot : SlotId} {i : Nat}

/-- Nobody begins or ceases to wait, and no entry in the journal says so. -/
structure Idle (h h' : Host L P) : Prop where
  wait : h'.registry.wait = h.registry.wait
  journal : ∃ entries : Journal, h'.journal = h.journal ++ entries ∧ ∀ entry ∈ entries, entry.isIdle
  missingAcks : h'.transmitter.stats.missingAcks = h.transmitter.stats.missingAcks

namespace Idle

lemma of_journal_eq (hwait : h'.registry.wait = h.registry.wait) (hjournal : h'.journal = h.journal)
    (hacks : h'.transmitter.stats.missingAcks = h.transmitter.stats.missingAcks) : Idle h h' :=
  ⟨hwait, ⟨[], by rw [hjournal, List.append_nil], nofun⟩, hacks⟩

lemma refl (h : Host L P) : Idle h h := .of_journal_eq rfl rfl rfl

lemma trans (hidle : Idle h h') (hidle' : Idle h' h'') : Idle h h'' := by
  obtain ⟨entries, hjournal, hentries⟩ := hidle.journal
  obtain ⟨entries', hjournal', hentries'⟩ := hidle'.journal
  refine ⟨hidle'.wait.trans hidle.wait, ⟨entries ++ entries', ?_, ?_⟩,
    hidle'.missingAcks.trans hidle.missingAcks⟩
  · rw [hjournal', hjournal, List.append_assoc]
  · intro entry hentry
    exact (List.mem_append.mp hentry).elim (hentries entry) (hentries' entry)

/-- Another registry in which the same wait for the same. -/
lemma of_registry {registry : Registry (Instance P)} (hwait : registry.wait = h.registry.wait) :
    Idle h { h with registry } :=
  .of_journal_eq hwait rfl rfl

lemma record {entry : Entry} (hidle : Idle h h') (hentry : entry.isIdle) :
    Idle h (h'.record entry) := by
  refine hidle.trans ⟨rfl, ⟨[entry], rfl, ?_⟩, rfl⟩
  intro entry' hentry'
  rwa [List.mem_singleton.mp hentry']

end Idle

lemma setResource_idle {r r' : Resource} (hr : h.registry.resource? slot i = some r)
    (hlock : r'.lock = r.lock) (htimer : r'.pendingTimer = r.pendingTimer) :
    Idle h (h.setResource slot i r') := by
  apply Idle.of_registry
  obtain ⟨s, hs, hr⟩ := Registry.resource?_eq_some.mp hr
  exact (Registry.updated_setResource hs i r').wait_eq hs (Slot.wait_setResource_of_eq hr hlock htimer)

lemma onSlot_idle {α : Type}
    {f : Slot (Instance P) → Except RegistryError (α × Slot (Instance P))}
    (hf : ∀ s a s', f s = .ok (a, s') → s'.wait = s.wait) : Idle h (h.onSlot slot f).2 := by
  simp only [onSlot]
  split
  · exact .refl h
  · rename_i s hs
    have hs := Registry.slot?_of_getSlot hs
    split
    · exact .refl h
    · rename_i a s' hok
      exact .of_registry ((Registry.updated_setSlot hs s').wait_eq hs (hf s a s' hok))

lemma broadcast_idle (h : Host L P) (slot : SlotId) (i : Nat) (text : String) :
    Idle h (h.broadcast slot i text).2 := by
  simp only [broadcast]
  split
  · exact .refl h
  · rename_i r hr
    split
    · exact .refl h
    · rename_i handle _
      have htold : Idle h { h with outbox := (h.outbox.broadcast handle text).2 } :=
        .of_journal_eq rfl rfl rfl
      split_ifs
      · exact htold.trans (setResource_idle hr rfl rfl)
      · exact htold

lemma setDriver_idle {driver : Occupant P} (hset : h.setDriver slot driver = .ok h') : Idle h h' := by
  obtain ⟨registry, hregistry, rfl⟩ := except_map_eq_ok.mp hset
  have hidle : Idle h { h with registry, nextSerial := h.nextSerial + 1 } :=
    .of_journal_eq (Registry.wait_setDriver hregistry) rfl rfl
  exact hidle.record rfl

lemma vacate_idle (h : Host L P) (slot : SlotId) (core : Option CoreId) :
    Idle h (h.vacate slot core) := by
  have hdrop : Idle h (h.dropTimers slot) := by
    simp only [dropTimers]
    split_ifs
    · exact .of_journal_eq rfl rfl rfl
    · exact .refl h
  cases core with
  | none => exact hdrop
  | some c =>
    refine hdrop.trans ?_
    show Idle _ ((h.dropTimers slot).freeCore slot c)
    simp only [freeCore]
    split
    · exact .refl _
    · split_ifs
      · exact .refl _
      · exact .of_registry (Registry.wait_releaseCore _ c _)

lemma bindTo_idle {core : Option CoreId} (hbind : h.bindTo slot core = .ok h') :
    Idle h h' := by
  cases core with
  | none =>
    cases hbind
    exact .refl h
  | some c =>
    obtain ⟨registry, hregistry, rfl⟩ := except_map_eq_ok.mp hbind
    exact .of_registry (Registry.wait_bindCore hregistry)

lemma loadDriver_idle {factory : Factory P} {name : String}
    (hload : h.loadDriver factory slot name = .ok h') : Idle h h' := by
  simp only [loadDriver] at hload
  split at hload
  · exact setDriver_idle hload
  · cases hload
    exact .refl h

/-! ### Operations -/

variable [Link L] {setting : Setting P}

private lemma sendTo_idle (h : Host L P) (core : CoreId) (packet : Packet) :
    Idle h (h.sendTo core packet).2 :=
  .of_journal_eq rfl rfl (Transmitter.missingAcks_sendBytes h.transmitter core packet.toBytes)

/-- Most operations are about no wait. -/
lemma perform_idle {op : Op P} (hop : op.posts = false) :
    Idle h (h.perform setting slot op).2 := by
  cases op with
  | awaitReply | completeReply | installDriver | registry => cases hop
  | view => exact .refl h
  | setIdentity name description =>
    apply onSlot_idle
    intro s a s' hok
    cases hok
    exact Slot.wait_of_resources rfl
  | addResource resource =>
    have hfree : resource.IsFree := (Op.locks_addResource (P := P)).mp hop
    apply onSlot_idle
    intro s a s' hok
    obtain rfl := Slot.eq_of_addResource hok
    exact Slot.wait_addResource s hfree
  | bindCore core =>
    simp only [perform]
    split
    · exact .refl h
    · exact .of_registry (Registry.wait_bindCore ‹_›)
  | sendTo core packet => exact sendTo_idle h core packet
  | send packet =>
    simp only [perform, send]
    split
    · exact .refl h
    · rename_i core _
      exact sendTo_idle h core packet
  | addTimer kind period token =>
    simp only [perform]
    split
    · exact .refl h
    · rename_i timer timers _
      have htimers : Idle h { h with timers } := .of_journal_eq rfl rfl rfl
      exact htimers.record rfl
  | broadcast resource text => exact broadcast_idle h slot resource text
  | cancelTimer | say | prompt => exact .of_journal_eq rfl rfl rfl
  | note n => exact (Idle.refl h).record rfl

end Host

end BoardLink
