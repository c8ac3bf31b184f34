import BoardLink.Proofs.Host.Minor
import BoardLink.Proofs.Host.Run
import BoardLink.Proofs.Host.Turns

/-!
# Which slots hear of a timer

A timer carries the number of the slot that armed it and nothing else about its owner. Loading a
driver cancels the timers of the slot, so that a timer that fires has the occupant before it for an
owner no more. The slot of the enumerator is also filled by a start, which cancels nothing.
-/

namespace BoardLink

/-! ### Timers in the journal -/

namespace Journal

variable {starts starts' : List Nat} {j entries : Journal} {n : Nat} {id : TimerId} {slot : SlotId}

/-- Among the first `n` entries of the journal the timer was last armed for the slot, and the slot was
not filled since but by one of these starts. -/
def Stands (starts : List Nat) (j : Journal) (n : Nat) (id : TimerId) (slot : SlotId) : Prop :=
  ∃ i < n, j[i]? = some (.armed id slot) ∧ ∀ k, i < k → k < n →
    (∀ owner, j[k]? ≠ some (.armed id owner)) ∧
      ∀ dropped, j[k]? = some (.installed slot dropped) → slot = .enumerator ∧ k ∈ starts

/-- Later entries do not matter. -/
lemma Stands.append (h : j.Stands starts n id slot) (hn : n ≤ j.length) (entries : Journal) :
    Stands starts (j ++ entries) n id slot := by
  obtain ⟨i, hi, harmed, hsince⟩ := h
  refine ⟨i, hi, ?_, fun k hk hkn => ?_⟩
  · rw [List.getElem?_append_left (Nat.lt_of_lt_of_le hi hn)]
    exact harmed
  · rw [List.getElem?_append_left (Nat.lt_of_lt_of_le hkn hn)]
    exact hsince k hk hkn

lemma Stands.mono (h : j.Stands starts n id slot) (hstarts : starts ⊆ starts') :
    j.Stands starts' n id slot := by
  obtain ⟨i, hi, harmed, hsince⟩ := h
  refine ⟨i, hi, harmed, fun k hk hkn => ⟨(hsince k hk hkn).1, fun dropped hinstalled => ?_⟩⟩
  exact ((hsince k hk hkn).2 dropped hinstalled).imp_right fun hmem => hstarts hmem

/-- One more entry that does not arm the timer, and does not fill the slot unless at a start. -/
lemma Stands.snoc (h : j.Stands starts j.length id slot) {e : Entry}
    (harms : ∀ owner, e ≠ .armed id owner)
    (hfills : ∀ dropped, e = .installed slot dropped → slot = .enumerator ∧ j.length ∈ starts) :
    Stands starts (j ++ [e]) (j ++ [e]).length id slot := by
  obtain ⟨i, hi, harmed, hsince⟩ := h.append (Nat.le_refl _) [e]
  rw [List.length_append, List.length_singleton]
  refine ⟨i, Nat.lt_succ_of_lt hi, harmed, fun k hk hkn => ?_⟩
  rcases Nat.lt_succ_iff_lt_or_eq.mp hkn with hlt | rfl
  · exact hsince k hk hlt
  · rw [List.getElem?_concat_length]
    exact ⟨fun owner he => harms owner (Option.some.inj he),
      fun dropped he => hfills dropped (Option.some.inj he)⟩

/-- A timer that has just been armed. -/
lemma stands_of_armed (starts : List Nat) (j : Journal) (id : TimerId) (slot : SlotId) :
    Stands starts (j ++ [Entry.armed id slot]) (j ++ [Entry.armed id slot]).length id slot := by
  rw [List.length_append, List.length_singleton]
  refine ⟨j.length, Nat.lt_succ_self _, List.getElem?_concat_length, fun k hk hkn => ?_⟩
  exact absurd hkn (Nat.not_lt_of_le hk)

/-- Whoever hears of a timer is the owner of one that fired just before, and a timer that fires stands
for its owner. The starts are places where the slot of the enumerator was filled. -/
structure Punctual (starts : List Nat) (j : Journal) : Prop where
  fired : ∀ (n : Nat) id slot, j[n]? = some (.fired id slot) → j.Stands starts n id slot
  called : ∀ (n : Nat) slot serial token, j[n]? = some (.called slot serial (.timer token)) →
    ∃ k < n, (∃ id, j[k]? = some (.fired id slot)) ∧
      ∀ m, k < m → m < n → ∃ i session, j[m]? = some (.expired slot i session)
  starts : ∀ k ∈ starts, ∃ dropped, j[k]? = some (.installed .enumerator dropped)

/-- Between the end of the journal and the last timer that fired there are only waits that expired. -/
private lemma fired_before (j : Journal) (id : TimerId) (owner : SlotId)
    (waits : List (Nat × SessionId)) {j' : Journal}
    (hj' : j' = (j ++ [.fired id owner]) ++ waits.map fun (i, session) => .expired owner i session) :
    ∃ k < j'.length, (∃ id, j'[k]? = some (.fired id owner)) ∧
      ∀ m, k < m → m < j'.length → ∃ i session, j'[m]? = some (.expired owner i session) := by
  subst hj'
  have hlength : (j ++ [Entry.fired id owner]).length = j.length + 1 := by simp
  refine ⟨j.length, ?_, ⟨id, ?_⟩, fun m hm hmn => ?_⟩
  · rw [List.length_append, hlength]
    omega
  · rw [List.getElem?_append_left (by omega), List.getElem?_concat_length]
  · rw [List.length_append, hlength, List.length_map] at hmn
    have hwait : m - (j.length + 1) < waits.length := by omega
    rw [List.getElem?_append_right (by omega), hlength, List.getElem?_map,
      List.getElem?_eq_getElem hwait]
    exact ⟨_, _, rfl⟩

lemma punctual_nil : Punctual [] [] := ⟨nofun, nofun, nofun⟩

namespace Punctual

/-- One more entry. -/
lemma snoc (hp : j.Punctual starts) {e : Entry}
    (hfired : ∀ id slot, e = .fired id slot → j.Stands starts j.length id slot)
    (hcalled : ∀ slot serial token, e = .called slot serial (.timer token) →
      ∃ k < j.length, (∃ id, j[k]? = some (.fired id slot)) ∧
        ∀ m, k < m → m < j.length → ∃ i session, j[m]? = some (.expired slot i session)) :
    Punctual starts (j ++ [e]) := by
  -- every index into the longer journal is an old one or that of the new entry
  have hcases : ∀ (n : Nat) (e' : Entry), (j ++ [e])[n]? = some e' → n < j.length ∧ j[n]? = some e' ∨
      n = j.length ∧ e' = e := by
    intro n e' he'
    rcases Nat.lt_trichotomy n j.length with hlt | rfl | hgt
    · rw [List.getElem?_append_left hlt] at he'
      exact .inl ⟨hlt, he'⟩
    · rw [List.getElem?_concat_length] at he'
      exact .inr ⟨rfl, (Option.some.inj he').symm⟩
    · rw [List.getElem?_eq_none] at he'
      · cases he'
      · rw [List.length_append, List.length_singleton]
        exact hgt
  have hleft : ∀ {n : Nat} {e' : Entry}, j[n]? = some e' → (j ++ [e])[n]? = some e' := by
    intro n e' he'
    have hn := (List.getElem?_eq_some_iff.mp he').1
    rwa [List.getElem?_append_left hn]
  refine ⟨fun n id slot he => ?_, fun n slot serial token he => ?_, fun k hk => ?_⟩
  · rcases hcases n _ he with ⟨hn, hold⟩ | ⟨rfl, hnew⟩
    · exact (hp.fired n id slot hold).append hn.le [e]
    · exact (hfired id slot hnew.symm).append (Nat.le_refl _) [e]
  -- a new timer callback is justified by the entries before it, an old one by what was known of it
  · have hcall : ∃ k < n, (∃ id, j[k]? = some (.fired id slot)) ∧
        ∀ m, k < m → m < n → ∃ i session, j[m]? = some (.expired slot i session) := by
      rcases hcases n _ he with ⟨_, hold⟩ | ⟨rfl, hnew⟩
      · exact hp.called n slot serial token hold
      · exact hcalled slot serial token hnew.symm
    obtain ⟨k, hk, ⟨id, hfired⟩, hexpired⟩ := hcall
    refine ⟨k, hk, ⟨id, hleft hfired⟩, fun m hkm hmn => ?_⟩
    obtain ⟨i, session, hm⟩ := hexpired m hkm hmn
    exact ⟨i, session, hleft hm⟩
  · obtain ⟨dropped, hinstalled⟩ := hp.starts k hk
    exact ⟨dropped, hleft hinstalled⟩

/-- A start fills the slot of the enumerator. -/
lemma start (hp : j.Punctual starts) (dropped : List SessionId) :
    Punctual (starts ++ [j.length]) (j ++ [.installed .enumerator dropped]) := by
  have hafter := hp.snoc (e := .installed .enumerator dropped) nofun nofun
  refine ⟨fun n id slot he => (hafter.fired n id slot he).mono (List.subset_append_left _ _),
    hafter.called, fun k hk => ?_⟩
  rcases List.mem_append.mp hk with hk | hk
  · exact hafter.starts k hk
  · rw [List.mem_singleton.mp hk]
    exact ⟨dropped, List.getElem?_concat_length⟩

end Punctual

end Journal

namespace Host

variable {L P : Type} {h h' : Host L P} {starts : List Nat} {slot : SlotId} {id : TimerId}

/-- The journal is in order, and the armed timers stand in it for slots in use. -/
structure Timely (starts : List Nat) (h : Host L P) : Prop where
  wellFormed : h.timers.WellFormed
  inUse : ∀ id timer, h.timers.get? id = some timer → (h.registry.slot? timer.owner).isSome
  stands : ∀ id timer, h.timers.get? id = some timer →
    h.journal.Stands starts h.journal.length id timer.owner
  journal : h.journal.Punctual starts

namespace Timely

/-- Slots in use stay in use. -/
lemma of_inUse {registry : Registry (Instance P)} (ht : Timely starts h)
    (hinUse : h.registry.StayInUse registry) (n : Nat) :
    Timely starts { h with registry, nextSerial := n } :=
  ⟨ht.wellFormed, fun id timer hget => hinUse _ (ht.inUse id timer hget), ht.stands, ht.journal⟩

/-- There are fewer timers. -/
lemma of_fewer (ht : Timely starts h) {timers : TimerTable} (htimers : h.timers.Fewer timers) :
    Timely starts { h with timers } := by
  have hget : ∀ id timer, timers.get? id = some timer → h.timers.get? id = some timer :=
    fun id timer => htimers.get? id timer ht.wellFormed
  exact ⟨htimers.wellFormed ht.wellFormed, fun id timer h => ht.inUse id timer (hget id timer h),
    fun id timer h => ht.stands id timer (hget id timer h), ht.journal⟩

/-- One more entry that is about no timer. -/
lemma record (ht : Timely starts h) {e : Entry} (harmed : ∀ id owner, e ≠ .armed id owner)
    (hfired : ∀ id owner, e ≠ .fired id owner)
    (hcalled : ∀ slot serial token, e ≠ .called slot serial (.timer token))
    (hfills : ∀ slot dropped, e = .installed slot dropped →
      ∀ id timer, h.timers.get? id = some timer → timer.owner ≠ slot) :
    Timely starts (h.record e) := by
  refine ⟨ht.wellFormed, ht.inUse, fun id timer hget => ?_, ht.journal.snoc ?_ ?_⟩
  · refine (ht.stands id timer hget).snoc (harmed id) fun dropped he => ?_
    exact absurd rfl (hfills _ dropped he id timer hget)
  · exact fun id slot he => absurd he (hfired id slot)
  · exact fun slot serial token he => absurd he (hcalled slot serial token)

/-- Entries that are about waits and notes. -/
private lemma append {entries : Journal} (ht : Timely starts h) (hentries : ∀ e ∈ entries, e.isMinor) :
    Timely starts { h with journal := h.journal ++ entries } := by
  induction entries generalizing h with
  | nil =>
    rw [List.append_nil]
    exact ht
  | cons e entries ih =>
    obtain ⟨he, hentries⟩ := List.forall_mem_cons.mp hentries
    have hfirst : Timely starts (h.record e) := by
      cases e with
      | locked | answered | expired | abandoned | noted => exact ht.record nofun nofun nofun nofun
      | _ => cases he
    have hrest := ih hfirst hentries
    simp only [Host.record, List.append_assoc, List.singleton_append] at hrest
    exact hrest

lemma minor (ht : Timely starts h) (hminor : Minor h h') : Timely starts h' := by
  obtain ⟨entries, hjournal, hentries⟩ := hminor.journal
  have htimely := ((ht.of_fewer hminor.timers).of_inUse hminor.places.stayInUse
    h'.nextSerial).append hentries
  exact ⟨htimely.wellFormed, htimely.inUse, hjournal ▸ htimely.stands, hjournal ▸ htimely.journal⟩

/-- A timer of a slot in use is armed. -/
lemma arm {kind : Timer.Kind} {period token now : Nat} {timers : TimerTable} (ht : Timely starts h)
    (hslot : (h.registry.slot? slot).isSome)
    (hadd : h.timers.add kind period slot token now = .ok (id, timers)) :
    Timely starts ({ h with timers }.record (.armed id slot)) := by
  have harmed := TimerTable.armed_add ht.wellFormed hadd
  refine ⟨harmed.wellFormed, fun id' timer hget => ?_, fun id' timer hget => ?_,
    ht.journal.snoc nofun nofun⟩
  · have hget : timers.get? id' = some timer := hget
    rw [harmed.get?] at hget
    split_ifs at hget
    · cases hget
      exact hslot
    · exact ht.inUse id' timer hget
  · have hget : timers.get? id' = some timer := hget
    -- the new timer stands because its own entry is the last one; an older one cannot be named by it
    rw [harmed.get?] at hget
    split_ifs at hget with hid
    · cases hget
      rw [hid]
      exact Journal.stands_of_armed starts h.journal id slot
    · refine (ht.stands id' timer hget).snoc (fun owner he => ?_) nofun
      cases he
      exact hid rfl

lemma arms {now : Nat} (ht : Timely starts h) (hslot : (h.registry.slot? slot).isSome)
    (harms : Arms now slot h h') : Timely starts h' := by
  obtain ⟨_, _, _, _, _, hadd, hminor⟩ := harms
  exact (ht.arm hslot hadd).minor hminor

/-! ### Filling slots -/

/-- A fresh instance comes into a slot that owns no timer. -/
lemma install {name : String} {registry : Registry (Instance P)} (ht : Timely starts h)
    (hinstall : h.registry.install slot name = .ok registry)
    (hnone : ∀ id timer, h.timers.get? id = some timer → timer.owner ≠ slot) (n : Nat)
    (dropped : List SessionId) :
    Timely starts ({ h with registry, nextSerial := n }.record (.installed slot dropped)) := by
  have hinUse := ht.of_inUse (Registry.stayInUse_install hinstall) n
  refine hinUse.record nofun nofun nofun fun slot' dropped he => ?_
  cases he
  exact hnone

lemma setDriver {driver : Occupant P} (ht : Timely starts h)
    (hset : h.setDriver slot driver = .ok h') : Timely starts h' := by
  obtain ⟨registry, hregistry, rfl⟩ := except_map_eq_ok.mp hset
  have hinUse := ht.of_inUse (Registry.samePlaces_setDriver hregistry).stayInUse (h.nextSerial + 1)
  exact hinUse.record nofun nofun nofun nofun

/-- A start puts a fresh instance into the slot of the enumerator, whose timers are not cancelled. -/
lemma start {name : String} (ht : Timely starts h)
    (hfresh : h.installFresh .enumerator name = .ok h') :
    Timely (starts ++ [h.journal.length]) h' := by
  obtain ⟨registry, hinstall, rfl⟩ := except_map_eq_ok.mp hfresh
  refine ⟨ht.wellFormed, ?_, fun id timer hget => ?_, ht.journal.start _⟩
  · exact fun id timer hget => Registry.stayInUse_install hinstall _ (ht.inUse id timer hget)
  · have hstands := (ht.stands id timer hget).mono
      (List.subset_append_left starts [h.journal.length])
    refine hstands.snoc nofun fun dropped he => ?_
    injection he with howner
    exact ⟨howner.symm, List.mem_append_right _ (List.mem_singleton_self _)⟩

/-- Where a driver is loaded no timer of the slot is left. -/
private lemma owner_of_vacate (ht : Timely starts h) (slot : SlotId) (core : Option CoreId) :
    ∀ id timer, (h.vacate slot core).timers.get? id = some timer → timer.owner ≠ slot := by
  intro id timer hget
  have hcalm : Calm (fun _ => True) (h.dropTimers slot) (h.vacate slot core) :=
    (vacate_calm h slot core).1
  rw [hcalm.timers, dropTimers] at hget
  split_ifs at hget with hslot
  · have hget : (h.timers.cancelOwner slot).2.get? id = some timer := hget
    rw [(TimerTable.cancelOwner_spec ht.wellFormed slot).2] at hget
    exact of_decide_eq_true (Option.filter_eq_some_iff.mp hget).2
  · rintro rfl
    exact hslot (ht.inUse id timer hget)

lemma installDriver (ht : Timely starts h) (factory : Factory P) (slot : SlotId) (name : String)
    (core : Option CoreId) : Timely starts (h.installDriver factory slot name core).2 := by
  have hvacate := ht.minor (vacate_minor h slot core)
  simp only [Host.installDriver, fill]
  split
  · exact hvacate
  -- the old occupant's timers went with `vacate`, so the fresh slot starts without any
  · rename_i h₁ hfresh
    obtain ⟨registry, hregistry, rfl⟩ := except_map_eq_ok.mp hfresh
    have hinstalled := hvacate.install hregistry (owner_of_vacate ht slot core)
      (h.vacate slot core).nextSerial ((h.vacate slot core).holders slot)
    split
    · exact hinstalled
    · rename_i h₂ hbind
      have hbound := hinstalled.minor (bindTo_minor hbind)
      split
      · exact hbound
      · rename_i h₃ hload
        simp only [loadDriver] at hload
        split at hload
        · exact hbound.setDriver hload
        · cases hload
          exact hbound

/-! ### Firing -/

/-- A timer that fires stands for its owner. -/
lemma fire {now : Nat} {expiry : Expiry} {timers : TimerTable} (ht : Timely starts h)
    (hfire : h.timers.fire id now = some (expiry, timers)) :
    Timely starts ({ h with timers }.record (.fired id expiry.owner)) := by
  have hthinned := TimerTable.thinned_fire ht.wellFormed hfire
  obtain ⟨fired, hfired, _, rfl, _⟩ := TimerTable.get?_fire hfire
  refine ⟨hthinned.wellFormed, fun id' timer hget => ?_, fun id' timer hget => ?_,
    ht.journal.snoc (fun id' slot he => ?_) nofun⟩
  · obtain ⟨before, hbefore, howner⟩ := TimerTable.exists_of_fire hfire hget
    exact howner ▸ ht.inUse id' before hbefore
  · obtain ⟨before, hbefore, howner⟩ := TimerTable.exists_of_fire hfire hget
    exact howner ▸ (ht.stands id' before hbefore).snoc nofun nofun
  · cases he
    exact ht.stands id fired hfired

/-- What expires with a timer are waits at the slot of its owner. -/
private lemma journal_expireReplies (h : Host L P) (owner : SlotId) (id : TimerId) :
    ∃ waits : List (Nat × SessionId), (h.expireReplies owner id).journal =
      h.journal ++ waits.map fun (i, session) => .expired owner i session := by
  simp only [expireReplies]
  split
  · exact ⟨[], (List.append_nil _).symm⟩
  · exact ⟨_, rfl⟩

/-- The owner of a timer hears of it after it fired. -/
lemma hear {now : Nat} {expiry : Expiry} {timers : TimerTable} {registry : Registry (Instance P)}
    (ht : Timely starts h) (hfire : h.timers.fire id now = some (expiry, timers))
    (hinUse : (h.rung timers id expiry.owner).registry.StayInUse registry) (serial token : Nat) :
    Timely starts ({ h.rung timers id expiry.owner with registry }.record
      (.called expiry.owner serial (.timer token))) := by
  obtain ⟨waits, hjournal⟩ := journal_expireReplies
    ({ h with timers }.record (.fired id expiry.owner)) expiry.owner id
  have hrung := ((ht.fire hfire).minor (expireReplies_minor _ expiry.owner id)).of_inUse hinUse
    (h.rung timers id expiry.owner).nextSerial
  refine ⟨hrung.wellFormed, hrung.inUse, fun id' timer hget => ?_, hrung.journal.snoc nofun ?_⟩
  · exact (hrung.stands id' timer hget).snoc nofun nofun
  · intro slot serial' token' he
    cases he
    exact Journal.fired_before h.journal id expiry.owner waits hjournal

end Timely

/-! ### Calls -/

variable [Driver P] {pool : Nat}

/-- Timers and the journal are in order, and drivers overwrite slots only by loading drivers. -/
structure Regular (starts : List Nat) (pool : Nat) (h : Host L P) : Prop where
  timely : Timely starts h
  maxSlots : h.registry.maxSlots = pool
  tidy : ∀ slot s inst, h.registry.slot? slot = some s → s.driver = some inst →
    inst.driver.Tidy pool

/-- Drivers that come into slots are as tidy as those before them. -/
lemma Regular.of_hires {starts' : List Nat} (hr : Regular starts pool h) (ht : Timely starts' h')
    (hmaxSlots : h'.registry.maxSlots = h.registry.maxSlots)
    (hhires : Registry.Hires (fun inst => inst.driver.Tidy pool) h.registry h'.registry) :
    Regular starts' pool h' := by
  refine ⟨ht, hmaxSlots.trans hr.maxSlots, fun slot s inst hs hinst => ?_⟩
  rcases hhires slot s inst hs hinst with ⟨s', hs', hinst'⟩ | htidy
  · exact hr.tidy slot s' inst hs' hinst'
  · exact htidy

lemma Regular.minor (hr : Regular starts pool h) (hminor : Minor h h') : Regular starts pool h' :=
  hr.of_hires (hr.timely.minor hminor) hminor.places.maxSlots fun slot s inst hs hinst =>
    (hminor.hires slot s inst hs hinst).imp_right False.elim

lemma Regular.rung {now : Nat} {expiry : Expiry} {timers : TimerTable} (hr : Regular starts pool h)
    (hfire : h.timers.fire id now = some (expiry, timers)) :
    Regular starts pool (h.rung timers id expiry.owner) := by
  have hfired : Regular starts pool ({ h with timers }.record (.fired id expiry.owner)) :=
    ⟨hr.timely.fire hfire, hr.maxSlots, hr.tidy⟩
  exact hfired.minor (expireReplies_minor _ expiry.owner id)

lemma Regular.installDriver {factory : Factory P} (hr : Regular starts pool h)
    (hfactory : ∀ name driver, factory.create name = some driver → driver.Tidy pool)
    (slot : SlotId) (name : String) (core : Option CoreId) :
    Regular starts pool (h.installDriver factory slot name core).2 := by
  have hstaffs : Staffs (fun inst => inst.driver.Tidy pool) h
      (h.installDriver factory slot name core).2 :=
    installDriver_staffs fun driver _ _ hcreate => hfactory name driver hcreate
  exact hr.of_hires (hr.timely.installDriver factory slot name core) hstaffs.maxSlots hstaffs.hires

lemma Regular.armReply (hr : Regular starts pool h) (slot : SlotId) (i : Nat) (session : SessionId)
    (timeout token now : Nat) :
    Regular starts pool (h.armReply slot i session timeout token now).2 := by
  have hstaffs : Staffs (fun inst => inst.driver.Tidy pool) h
      (h.armReply slot i session timeout token now).2 := armReply_staffs ..
  refine hr.of_hires ?_ hstaffs.maxSlots hstaffs.hires
  rcases armReply_cases h slot i session timeout token now with ⟨_, heq⟩ | ⟨r, _, _, hresource, _⟩
  · rw [heq]
    exact hr.timely
  · obtain ⟨s, hs, _⟩ := Registry.resource?_eq_some.mp hresource
    rcases armReply_minor h slot i session timeout token now with hminor | harms
    · exact hr.timely.minor hminor
    · exact hr.timely.arms (by rw [hs]; rfl) harms

/-- At first there is no timer and no slot in use. -/
lemma Regular.of_free (hfree : ∀ id, h.registry.slot? id = none)
    (htimers : ∀ id, h.timers.get? id = none) (hwell : h.timers.WellFormed)
    (hjournal : h.journal = []) : Regular [] h.registry.maxSlots h := by
  refine ⟨⟨hwell, fun id timer hget => ?_, fun id timer hget => ?_, ?_⟩, rfl, fun slot s inst hs => ?_⟩
  · cases (htimers id).symm.trans hget
  · cases (htimers id).symm.trans hget
  · rw [hjournal]
    exact Journal.punctual_nil
  · cases (hfree slot).symm.trans hs

/-- A start fills the slot of the enumerator. -/
lemma Regular.start {name : String} (hr : Regular starts pool h)
    (hfresh : h.installFresh .enumerator name = .ok h') :
    Regular (starts ++ [h.journal.length]) pool h' := by
  have hcalm : Calm (fun inst => inst.driver.Tidy pool) h h' := installFresh_calm hfresh
  exact hr.of_hires (hr.timely.start hfresh) hcalm.maxSlots hcalm.hires

/-- A tidy driver is put into a slot in use. -/
lemma Regular.setDriver {driver : Occupant P} (hr : Regular starts pool h)
    (hset : h.setDriver slot driver = .ok h') (hdriver : driver.Tidy pool) :
    Regular starts pool h' := by
  have hcalm : Calm (fun inst => inst.driver.Tidy pool) h h' := setDriver_calm hset hdriver
  exact hr.of_hires (hr.timely.setDriver hset) hcalm.maxSlots hcalm.hires

private lemma command_timely {c : Registry.Command (Occupant P)} {known : Set TimerId}
    (hop : Op.Tidy pool (Occupant.KeepsTo (Op.Tidy pool)) known (.registry c))
    (hr : Regular starts pool h) : Timely starts (h.command c).2 := by
  rcases command_minor h c with
      hminor | ⟨id, name, registry, ⟨rfl, halloc⟩ | ⟨rfl, _⟩, heq⟩ | ⟨id, driver, registry, _, hset, heq⟩
  · exact hr.timely.minor hminor
  · -- a place that is allocated was free, and so no timer has it for an owner
    have hfree := Registry.slot?_of_allocate (hr.maxSlots ▸ hop) halloc
    rw [heq]
    refine hr.timely.install (Registry.install_of_allocate halloc) (fun id' timer hget => ?_)
      (h.nextSerial + 1) (h.holders id)
    rintro rfl
    have hinUse := hr.timely.inUse id' timer hget
    rw [hfree] at hinUse
    cases hinUse
  · cases hop
  · rw [heq]
    have hinUse := hr.timely.of_inUse (Registry.samePlaces_setDriver hset).stayInUse
      (h.nextSerial + 1)
    exact hinUse.record nofun nofun nofun nofun

variable [Link L] {setting : Setting P}

private lemma perform_regular {known : Set TimerId} {op : Op P}
    (hop : Op.Tidy pool (Occupant.KeepsTo (Op.Tidy pool)) known op)
    (hfactory : ∀ name driver, setting.factory.create name = some driver → driver.Tidy pool)
    (hslot : (h.registry.slot? slot).isSome) (hr : Regular starts pool h) :
    Regular starts pool (h.perform setting slot op).2 := by
  have hstaffs : Staffs (fun inst => inst.driver.Tidy pool) h (h.perform setting slot op).2 := by
    refine perform_staffs fun driver n _ hbrings => ?_
    cases op with
    | installDriver target name core => exact hfactory name driver hbrings
    | registry c =>
      cases c with
      | setDriver id driver' =>
        cases hbrings
        exact ⟨known, hop⟩
      | _ => cases hbrings
    | _ => cases hbrings
  refine hr.of_hires ?_ hstaffs.maxSlots hstaffs.hires
  -- only an operation that can seat a driver changes which slots stand behind the timers
  cases hkind : op.staffs with
  | false =>
    rcases perform_minor setting h slot hkind with hminor | harms
    · exact hr.timely.minor hminor
    · exact hr.timely.arms hslot harms
  | true =>
    cases op with
    | installDriver target name core => exact hr.timely.installDriver setting.factory target name core
    | registry c => exact command_timely hop hr
    | _ => cases hkind

/-- A call of a tidy driver leaves everything in order if its entry in the journal does. -/
private lemma call_regular {c : Callback} {result : c.Result} {slots : List SlotId}
    (hcall : h.call setting slot c = some (result, h', slots))
    (hfactory : ∀ name driver, setting.factory.create name = some driver → driver.Tidy pool)
    (hr : Regular starts pool h)
    (hcalled : ∀ registry serial, h.registry.StayInUse registry →
      Timely starts ({ h with registry }.record (.called slot serial c))) :
    Regular starts pool h' := by
  obtain ⟨inst, generation, registry, driver, h₁, htake, hrun, rfl⟩ := call_eq_some hcall
  obtain ⟨s, hs, hinst, hupdated⟩ := Registry.takeDriver_cases htake
  have hinUse := (Registry.samePlaces_takeDriver htake).stayInUse
  have haway : Regular starts pool ({ h with registry }.record (.called slot inst.serial c)) :=
    hr.of_hires (hcalled registry inst.serial hinUse) hupdated.maxSlots (hupdated.hires_of_none rfl)
  obtain ⟨known, hkeeps⟩ := hr.tidy slot s inst hs hinst
  -- while the driver answers, its slot stays in use even though the instance is taken out of it
  obtain ⟨hregular, known', hkeeps'⟩ := ends_follows
    (R := fun h h' => (h.registry.slot? slot).isSome ∧ Regular starts pool h →
      (h'.registry.slot? slot).isSome ∧ Regular starts pool h')
    (fun _ => id) (fun hfirst hsecond hr => hsecond (hfirst hr))
    (fun {h _ op} hop hr => ⟨perform_stayInUse setting h slot op slot hr.1,
      perform_regular hop hfactory hr.1 hr.2⟩)
    (hkeeps.respond (tidy_monotone pool) c) ({ h with registry }.record (.called slot inst.serial c))
  rw [ends, hrun] at hregular hkeeps'
  obtain ⟨_, hr₁⟩ := hregular ⟨hinUse slot (by rw [hs]; rfl), haway⟩
  have hback : Staffs (fun inst => inst.driver.Tidy pool) h₁
      { h₁ with registry := h₁.registry.restoreDriver slot { inst with driver } generation } :=
    restoreDriver_staffs h₁ slot generation ⟨known', hkeeps'⟩
  refine hr₁.of_hires ?_ hback.maxSlots hback.hires
  exact hr₁.timely.of_inUse
    (Registry.samePlaces_restoreDriver h₁.registry slot _ generation).stayInUse h₁.nextSerial

/-! ### Turns -/

/-- Every turn leaves everything in order. -/
lemma Turn.regular {c c' : Stage L P} (hturn : Turn setting c c')
    (hfactory : ∀ name driver, setting.factory.create name = some driver → driver.Tidy pool)
    (hr : Regular starts pool c.1) : Regular starts pool c'.1 := by
  -- what a call that is about no timer puts in the journal
  have hcalled {h : Host L P} (hr : Regular starts pool h) (slot : SlotId) {c : Callback}
      (hc : ∀ token, c ≠ .timer token) (registry : Registry (Instance P)) (serial : Nat)
      (hinUse : h.registry.StayInUse registry) :
      Timely starts ({ h with registry }.record (.called slot serial c)) := by
    refine (hr.timely.of_inUse hinUse h.nextSerial).record nofun nofun (fun _ _ token he => ?_) nofun
    cases he
    exact hc token rfl
  cases hturn with
  | skip => exact hr
  | init hcall => exact call_regular hcall hfactory hr (hcalled hr _ nofun)
  | call _ htimer hcall => exact call_regular hcall hfactory hr (hcalled hr _ htimer)
  | ring hfire hcall =>
    refine call_regular hcall hfactory (hr.rung hfire) fun registry serial hinUse => ?_
    exact hr.timely.hear hfire hinUse serial _
  | lapse hfire _ => exact hr.rung hfire
  | @load h _ slot name core hload =>
    have hregular := hr.installDriver hfactory slot name core
    rw [hload] at hregular
    exact hregular
  | @refuse h _ slot name core _ hload =>
    have hregular := hr.installDriver hfactory slot name core
    rw [hload] at hregular
    exact hregular
  | transmit transmitter => exact hr.minor (.of_eq rfl rfl rfl rfl)
  | tell outbox => exact hr.minor (.of_eq rfl rfl rfl rfl)
  | arm _ slot i session timeout token => exact hr.armReply slot i session timeout token _
  | abandon _ slot i session => exact hr.minor (abandonReply_minor _ slot i session)
  | subscribe broadcast hr' => exact hr.minor (.setResource _ _ _ _)

lemma Turns.regular {c c' : Stage L P} (hturns : Turns setting c c')
    (hfactory : ∀ name driver, setting.factory.create name = some driver → driver.Tidy pool)
    (hr : Regular starts pool c.1) : Regular starts pool c'.1 := by
  induction hturns with
  | refl => exact hr
  | tail _ hturn ih => exact hturn.regular hfactory ih

end Host

end BoardLink
