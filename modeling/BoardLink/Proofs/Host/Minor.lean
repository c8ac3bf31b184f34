import BoardLink.Proofs.Host.Waits
import BoardLink.Proofs.Registry.Occupants

/-!
# Minor changes

Most of what a host does fills no slot, brings in no driver, calls nobody, and neither arms nor fires
a timer. Apart from that there are timers to arm, drivers to load, and commands to the registry.
-/

namespace BoardLink

/-- The armed timers are some of those before, with nothing new about them. -/
structure TimerTable.Fewer (t t' : TimerTable) : Prop where
  wellFormed : t.WellFormed → t'.WellFormed
  get? : ∀ id timer, t.WellFormed → t'.get? id = some timer → t.get? id = some timer

namespace TimerTable.Fewer

variable {t t' t'' : TimerTable}

lemma refl (t : TimerTable) : Fewer t t := ⟨id, fun _ _ _ => id⟩

lemma trans (h : Fewer t t') (h' : Fewer t' t'') : Fewer t t'' where
  wellFormed hwell := h'.wellFormed (h.wellFormed hwell)
  get? id timer hwell hget := h.get? id timer hwell (h'.get? id timer (h.wellFormed hwell) hget)

lemma cancel (t : TimerTable) (id : TimerId) : Fewer t (t.cancel id).2 where
  wellFormed hwell := (thinned_cancel hwell id).wellFormed
  get? id' timer _ hget := by
    rw [get?_cancel] at hget
    split_ifs at hget
    exact hget

lemma cancelOwner (t : TimerTable) (owner : SlotId) : Fewer t (t.cancelOwner owner).2 where
  wellFormed hwell := (cancelOwner_spec hwell owner).1.wellFormed
  get? id timer hwell hget := by
    rw [(cancelOwner_spec hwell owner).2] at hget
    exact (Option.filter_eq_some_iff.mp hget).1

end TimerTable.Fewer

/-- Is the entry about waits and notes alone? -/
def Entry.isMinor : Entry → Bool
  | .locked .. | .answered .. | .expired .. | .abandoned .. | .noted _ => true
  | .installed .. | .created .. | .called .. | .armed .. | .fired .. => false

/-- May the operation fill slots or bring drivers into them? -/
def Op.staffs {P : Type} : Op P → Bool
  | .installDriver .. | .registry _ => true
  | _ => false

namespace Host

variable {L P : Type} {h h' h'' : Host L P} {slot : SlotId} {i : Nat} {session : SessionId}

/-- No slot is filled, no driver comes or goes, nobody is called, and no timer is armed or fires. -/
structure Minor (h h' : Host L P) : Prop where
  places : h.registry.SamePlaces h'.registry
  occupants : h.registry.SameOccupants h'.registry
  nextSerial : h.nextSerial ≤ h'.nextSerial
  timers : h.timers.Fewer h'.timers
  journal : ∃ entries : Journal, h'.journal = h.journal ++ entries ∧ ∀ e ∈ entries, e.isMinor

namespace Minor

lemma hires (hminor : Minor h h') :
    Registry.Hires (fun _ => False) h.registry h'.registry := hminor.occupants.hires

lemma of_journal_eq (hplaces : h.registry.SamePlaces h'.registry)
    (hoccupants : h.registry.SameOccupants h'.registry)
    (hserial : h.nextSerial ≤ h'.nextSerial) (htimers : h.timers.Fewer h'.timers)
    (hjournal : h'.journal = h.journal) : Minor h h' :=
  ⟨hplaces, hoccupants, hserial, htimers, [], by rw [hjournal, List.append_nil], nofun⟩

/-- A change of anything but the registry, the timers and the journal. -/
lemma of_eq (hregistry : h'.registry = h.registry) (hserial : h'.nextSerial = h.nextSerial)
    (htimers : h'.timers = h.timers) (hjournal : h'.journal = h.journal) : Minor h h' := by
  refine .of_journal_eq ?_ ?_ (Nat.le_of_eq hserial.symm) (htimers ▸ .refl _) hjournal
  · rw [hregistry]
    exact .refl _
  · rw [hregistry]
    exact .refl _

lemma refl (h : Host L P) : Minor h h := .of_eq rfl rfl rfl rfl

lemma trans (hminor : Minor h h') (hminor' : Minor h' h'') : Minor h h'' := by
  obtain ⟨entries, hjournal, hentries⟩ := hminor.journal
  obtain ⟨entries', hjournal', hentries'⟩ := hminor'.journal
  refine ⟨hminor.places.trans hminor'.places, hminor.occupants.trans hminor'.occupants,
    Nat.le_trans hminor.nextSerial hminor'.nextSerial, hminor.timers.trans hminor'.timers,
    entries ++ entries', ?_, ?_⟩
  · rw [hjournal', hjournal, List.append_assoc]
  · intro e he
    exact (List.mem_append.mp he).elim (hentries e) (hentries' e)

lemma record (hminor : Minor h h') {e : Entry} (he : e.isMinor) : Minor h (h'.record e) := by
  refine hminor.trans ⟨.refl _, .refl _, Nat.le_refl _, .refl _, [e], rfl, ?_⟩
  intro e' he'
  rwa [List.mem_singleton.mp he']

/-- An edit of a slot that leaves its driver and its name alone. -/
lemma of_updated {registry : Registry (Instance P)} {s s' : Slot (Instance P)}
    (hupdated : h.registry.Updated slot s' registry) (hs : h.registry.slot? slot = some s)
    (hgeneration : ∀ id, registry.generation? id = h.registry.generation? id)
    (hname : s'.driverName = s.driverName) (hdriver : s'.driver = s.driver) :
    Minor h { h with registry } :=
  .of_journal_eq (hupdated.samePlaces hs hgeneration) (hupdated.sameOccupants hs hname hdriver)
    (Nat.le_refl _) (.refl _) rfl

lemma setResource (h : Host L P) (slot : SlotId) (i : Nat) (r : Resource) :
    Minor h (h.setResource slot i r) :=
  .of_journal_eq (Registry.samePlaces_setResource h.registry slot i r)
    (Registry.sameOccupants_setResource h.registry slot i r) (Nat.le_refl _) (.refl _) rfl

/-- Fewer timers. -/
lemma of_timers {timers : TimerTable} (htimers : h.timers.Fewer timers) :
    Minor h { h with timers } :=
  .of_journal_eq (.refl _) (.refl _) (Nat.le_refl _) htimers rfl

end Minor

/-! ### Waits -/

/-- A timer is armed for the slot, and apart from that the change is minor. -/
def Arms (now : Nat) (slot : SlotId) (h h' : Host L P) : Prop :=
  ∃ kind period token id timers, h.timers.add kind period slot token now = .ok (id, timers) ∧
    Minor ({ h with timers }.record (.armed id slot)) h'

lemma armReply_minor (h : Host L P) (slot : SlotId) (i : Nat) (session : SessionId)
    (timeout token now : Nat) :
    Minor h (h.armReply slot i session timeout token now).2 ∨
      Arms now slot h (h.armReply slot i session timeout token now).2 := by
  rcases armReply_cases h slot i session timeout token now with
      ⟨_, heq⟩ | ⟨r, timer, timers, _, _, hadd, heq⟩
  · rw [heq]
    exact .inl (.refl h)
  · rw [heq]
    refine .inr ⟨_, _, _, timer, timers, hadd, ?_⟩
    have hset := Minor.setResource ({ h with timers }.record (.armed timer slot)) slot i
      { r with lock := some session, pendingTimer := some timer }
    have hlocked := hset.record (e := .locked slot i session) rfl
    exact hlocked

private lemma Settled.minor {r : Resource} (hsettled : Settled h slot i r h')
    (hjournal : ∃ entries : Journal, h'.journal = h.journal ++ entries ∧ ∀ e ∈ entries, e.isMinor) :
    Minor h h' := by
  refine ⟨?_, ?_, Nat.le_of_eq hsettled.nextSerial.symm, ?_, hjournal⟩
  · rw [hsettled.registry]
    exact Registry.samePlaces_setResource h.registry slot i _
  · rw [hsettled.registry]
    exact Registry.sameOccupants_setResource h.registry slot i _
  · rw [hsettled.timers]
    cases r.pendingTimer with
    | none => exact .refl _
    | some timer => exact .cancel _ timer

private lemma completeReply_minor (h : Host L P) (slot : SlotId) (i : Nat) (text : String) :
    Minor h (h.completeReply slot i text).2 := by
  rcases completeReply_cases h slot i text with ⟨_, heq⟩ | ⟨r, hsettled, _, hjournal, _⟩
  · rw [heq]
    exact .refl h
  · refine hsettled.minor ⟨_, hjournal, ?_⟩
    intro e he
    obtain ⟨session, _, rfl⟩ := Option.map_eq_some_iff.mp (Option.mem_toList.mp he)
    rfl

lemma abandonReply_minor (h : Host L P) (slot : SlotId) (i : Nat) (session : SessionId) :
    Minor h (h.abandonReply slot i session) := by
  rcases abandonReply_cases h slot i session with ⟨_, heq⟩ | ⟨r, hsettled, _, hjournal, _⟩
  · rw [heq]
    exact .refl h
  · refine hsettled.minor ⟨_, hjournal, ?_⟩
    intro e he
    rw [List.mem_singleton.mp he]
    rfl

lemma expireReplies_minor (h : Host L P) (owner : SlotId) (timer : TimerId) :
    Minor h (h.expireReplies owner timer) := by
  simp only [expireReplies]
  split
  · exact .refl h
  · rename_i s hs
    have hupdated := Registry.updated_setSlot hs (Registry.expired s timer)
    refine ⟨hupdated.samePlaces hs (Registry.generation?_setSlot _ _ _),
      hupdated.sameOccupants hs rfl rfl, Nat.le_refl _, .refl _, _, rfl, ?_⟩
    intro e he
    obtain ⟨_, _, rfl⟩ := List.mem_map.mp he
    rfl

/-! ### Making room for drivers -/

lemma dropTimers_minor (h : Host L P) (slot : SlotId) : Minor h (h.dropTimers slot) := by
  simp only [dropTimers]
  split_ifs
  · exact .of_timers (.cancelOwner h.timers slot)
  · exact .refl h

private lemma freeCore_minor (h : Host L P) (slot : SlotId) (core : CoreId) :
    Minor h (h.freeCore slot core) := by
  simp only [freeCore]
  split
  · exact .refl h
  · rename_i owner _
    split_ifs
    · exact .refl h
    · exact .of_journal_eq (Registry.samePlaces_releaseCore h.registry core owner)
        (Registry.sameOccupants_releaseCore h.registry core owner) (Nat.le_refl _) (.refl _) rfl

lemma vacate_minor (h : Host L P) (slot : SlotId) (core : Option CoreId) :
    Minor h (h.vacate slot core) := by
  cases core with
  | none => exact dropTimers_minor h slot
  | some c => exact (dropTimers_minor h slot).trans (freeCore_minor _ slot c)

private lemma bindCore_minor {core : CoreId} {registry : Registry (Instance P)}
    (hbind : h.registry.bindCore core slot = .ok registry) : Minor h { h with registry } := by
  rcases Registry.bindCore_cases hbind with rfl | ⟨s, hs, hupdated⟩
  · exact .refl h
  · exact .of_updated hupdated hs (Registry.generation?_bindCore hbind) rfl rfl

lemma bindTo_minor {core : Option CoreId} (hbind : h.bindTo slot core = .ok h') : Minor h h' := by
  cases core with
  | none =>
    cases hbind
    exact .refl h
  | some c =>
    obtain ⟨registry, hregistry, rfl⟩ := except_map_eq_ok.mp hbind
    exact bindCore_minor hregistry

/-! ### Operations -/

private lemma onSlot_minor {α : Type}
    {f : Slot (Instance P) → Except RegistryError (α × Slot (Instance P))}
    (hf : ∀ s a s', f s = .ok (a, s') → s'.driverName = s.driverName ∧ s'.driver = s.driver) :
    Minor h (h.onSlot slot f).2 := by
  simp only [onSlot]
  split
  · exact .refl h
  · rename_i s hs
    have hs := Registry.slot?_of_getSlot hs
    split
    · exact .refl h
    · rename_i a s' hok
      obtain ⟨hname, hdriver⟩ := hf s a s' hok
      exact .of_updated (Registry.updated_setSlot hs s') hs (Registry.generation?_setSlot _ _ _)
        hname hdriver

private lemma broadcast_minor (h : Host L P) (slot : SlotId) (i : Nat) (text : String) :
    Minor h (h.broadcast slot i text).2 := by
  simp only [broadcast]
  split
  · exact .refl h
  · split
    · exact .refl h
    · rename_i handle _
      have htold : Minor h { h with outbox := (h.outbox.broadcast handle text).2 } :=
        .of_eq rfl rfl rfl rfl
      split_ifs
      · exact htold.trans (.setResource _ slot i _)
      · exact htold

/-- An operation that neither loads a driver nor asks anything of the registry arms a timer for its
own slot, or does less. -/
lemma perform_minor [Link L] (setting : Setting P) (h : Host L P) (slot : SlotId) {op : Op P}
    (hop : op.staffs = false) :
    Minor h (h.perform setting slot op).2 ∨
      Arms setting.now slot h (h.perform setting slot op).2 := by
  cases op with
  | installDriver | registry => cases hop
  | view => exact .inl (.refl h)
  | setIdentity name description =>
    refine .inl (onSlot_minor fun s a s' hok => ?_)
    cases hok
    exact ⟨rfl, rfl⟩
  | addResource resource =>
    refine .inl (onSlot_minor fun s a s' hok => ?_)
    obtain rfl := Slot.eq_of_addResource hok
    exact ⟨rfl, rfl⟩
  | bindCore core =>
    simp only [perform]
    split
    · exact .inl (.refl h)
    · exact .inl (bindCore_minor ‹_›)
  | send packet =>
    simp only [perform, send]
    split
    · exact .inl (.refl h)
    · exact .inl (.of_eq rfl rfl rfl rfl)
  | sendTo core packet => exact .inl (.of_eq rfl rfl rfl rfl)
  | addTimer kind period token =>
    simp only [perform]
    split
    · exact .inl (.refl h)
    · exact .inr ⟨kind, period, token, _, _, ‹_›, .refl _⟩
  | cancelTimer id => exact .inl (.of_timers (.cancel h.timers id))
  | say session text => exact .inl (.of_eq rfl rfl rfl rfl)
  | prompt session => exact .inl (.of_eq rfl rfl rfl rfl)
  | awaitReply resource session token => exact armReply_minor h slot resource session _ token _
  | completeReply resource text => exact .inl (completeReply_minor h slot resource text)
  | broadcast resource text => exact .inl (broadcast_minor h slot resource text)
  | note n => exact .inl ((Minor.refl h).record rfl)

/-! ### Commands -/

/-- A command fills a place, gives a slot in use its driver, or does less. -/
lemma command_minor (h : Host L P) (c : Registry.Command (Occupant P)) :
    Minor h (h.command c).2 ∨
      (∃ id name registry, (c = .allocate name ∧ h.registry.allocate name = .ok (id, registry) ∨
          c = .install id name ∧ h.registry.install id name = .ok registry) ∧
        (h.command c).2 = { h with
          registry
          nextSerial := h.nextSerial + 1
          journal := h.journal ++ [.installed id (h.holders id)] }) ∨
      ∃ id driver registry, c = .setDriver id driver ∧
        h.registry.setDriver id { serial := h.nextSerial, driver } = .ok registry ∧
        (h.command c).2 = { h with
          registry
          nextSerial := h.nextSerial + 1
          journal := h.journal ++ [.created h.nextSerial id] } := by
  simp only [command]
  split
  · exact .inl (.refl h)
  · rename_i answer registry hperform
    -- a command that fills no place and brings no driver leaves nothing in the journal
    have hless (hfills : (c.map fun driver => Instance.mk h.nextSerial driver).fills = false)
        (hdriver : ∀ id d, (c.map fun driver => Instance.mk h.nextSerial driver) ≠ .setDriver id d)
        (hentries : h.commandEntries c answer = []) :
        Minor h { h with
          registry
          nextSerial := h.nextSerial + 1
          journal := h.journal ++ h.commandEntries c answer } := by
      refine .of_journal_eq (Registry.samePlaces_perform hperform hfills)
        (Registry.sameOccupants_perform hperform hfills hdriver) (Nat.le_succ _) (.refl _) ?_
      rw [hentries]
      exact List.append_nil _
    cases c with
    | allocate name =>
      obtain ⟨⟨id, r₁⟩, halloc, heq⟩ := except_map_eq_ok.mp hperform
      cases heq
      exact .inr (.inl ⟨id, name, registry, .inl ⟨rfl, halloc⟩, rfl⟩)
    | install id name =>
      obtain ⟨r₁, hinstall, heq⟩ := except_map_eq_ok.mp hperform
      cases heq
      exact .inr (.inl ⟨id, name, registry, .inr ⟨rfl, hinstall⟩, rfl⟩)
    | setDriver id driver =>
      obtain ⟨r₁, hset, heq⟩ := except_map_eq_ok.mp hperform
      cases heq
      exact .inr (.inr ⟨id, driver, registry, rfl, hset, rfl⟩)
    | _ => exact .inl (hless rfl (by simp [Registry.Command.map]) rfl)

/-! ### Slots in use -/

lemma installFresh_stayInUse {name : String} (hinstall : h.installFresh slot name = .ok h') :
    h.registry.StayInUse h'.registry := by
  obtain ⟨registry, hregistry, rfl⟩ := except_map_eq_ok.mp hinstall
  exact Registry.stayInUse_install hregistry

lemma setDriver_stayInUse {driver : Occupant P} (hset : h.setDriver slot driver = .ok h') :
    h.registry.StayInUse h'.registry := by
  obtain ⟨registry, hregistry, rfl⟩ := except_map_eq_ok.mp hset
  exact (Registry.samePlaces_setDriver hregistry).stayInUse

lemma installDriver_stayInUse (h : Host L P) (factory : Factory P) (slot : SlotId) (name : String)
    (core : Option CoreId) :
    h.registry.StayInUse (h.installDriver factory slot name core).2.registry := by
  refine installDriver_rel (R := fun h h' => h.registry.StayInUse h'.registry) .trans
    (vacate_minor h slot core).places.stayInUse installFresh_stayInUse
    (fun hbind => (bindTo_minor hbind).places.stayInUse) fun {h h'} hload => ?_
  simp only [loadDriver] at hload
  split at hload
  · exact setDriver_stayInUse hload
  · cases hload
    exact .refl _

private lemma command_stayInUse (h : Host L P) (c : Registry.Command (Occupant P)) :
    h.registry.StayInUse (h.command c).2.registry := by
  rcases command_minor h c with
      hminor | ⟨id, name, registry, hfills, heq⟩ | ⟨id, driver, registry, _, hset, heq⟩
  · exact hminor.places.stayInUse
  · rw [heq]
    rcases hfills with ⟨_, halloc⟩ | ⟨_, hinstall⟩
    · exact Registry.stayInUse_install (Registry.install_of_allocate halloc)
    · exact Registry.stayInUse_install hinstall
  · rw [heq]
    exact (Registry.samePlaces_setDriver hset).stayInUse

/-- No operation takes a slot out of use. -/
lemma perform_stayInUse [Link L] (setting : Setting P) (h : Host L P) (slot : SlotId) (op : Op P) :
    h.registry.StayInUse (h.perform setting slot op).2.registry := by
  cases hop : op.staffs with
  | false =>
    rcases perform_minor setting h slot hop with hminor | ⟨_, _, _, _, _, _, hminor⟩
    · exact hminor.places.stayInUse
    · exact hminor.places.stayInUse
  | true =>
    cases op with
    | installDriver target name core => exact installDriver_stayInUse h _ target name core
    | registry c => exact command_stayInUse h c
    | _ => cases hop

end Host

end BoardLink
