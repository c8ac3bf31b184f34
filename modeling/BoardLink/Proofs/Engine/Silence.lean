import BoardLink.Config.Basic
import BoardLink.Link.Memory
import BoardLink.Proofs.Engine.Enumeration
import BoardLink.Proofs.Engine.Turns
import BoardLink.Proofs.Host.Confined
import BoardLink.Proofs.Host.Timeout

/-!
# A board that never answers

An engine is started, the board is silent, and the wait for its table is over. Then every driver that
the configuration assigns is in its slot, as long as identifiers tell all of these slots apart: a slot
number beyond sixteen bits is cut to another one, and its place stays free.
-/

namespace BoardLink

namespace Config

open Enumerator

variable {config : Config}

/-- What is left to be loaded at the end of the wait. -/
lemma mem_overloadLoads {l : Load} (hvalid : config.validate = .ok ()) :
    l ∈ overloadLoads config.options.overloads ↔
      ∃ o ∈ config.overloads, l = ⟨o.slot, o.driver, none⟩ := by
  obtain ⟨hfits, hslots⟩ := get?_overloads_of_validate hvalid
  constructor
  · intro hl
    obtain ⟨⟨k, name⟩, hmem, rfl⟩ := List.mem_map.mp hl
    obtain ⟨o, ho, rfl, rfl⟩ := exists_of_overloadFor
      ((get?_overloads_eq hvalid k).symm.trans (hfits.get?_eq_some_iff.mpr hmem))
    exact ⟨o, ho, rfl⟩
  · rintro ⟨o, ho, rfl⟩
    exact List.mem_map.mpr ⟨(o.slot, o.driver), hfits.get?_eq_some_iff.mp (hslots o ho).2.2, rfl⟩

/-- The assignments of a valid configuration are for different slots. -/
lemma sorted_overloadLoads (hvalid : config.validate = .ok ()) :
    (overloadLoads config.options.overloads).Pairwise fun l l' => l.slot < l'.slot := by
  rw [← tableLoads_unnumbered config.maxSlots]
  exact sorted_tableLoads (get?_overloads_of_validate hvalid).1 fun p => pos_of_mem_overloads hvalid

/-- Where identifiers tell all slots apart that were assigned, the loads at the end of the wait are for
different slots of the pool other than the first. -/
lemma targets_overloadLoads (hvalid : config.validate = .ok ())
    (hslots : ∀ o ∈ config.overloads, o.slot < 65536) :
    ((overloadLoads config.options.overloads).Pairwise fun l l' => l.target ≠ l'.target) ∧
      ∀ l ∈ overloadLoads config.options.overloads,
        l.target ≠ .enumerator ∧ l.target.toNat < config.maxSlots := by
  have htarget {l : Load} (hl : l ∈ overloadLoads config.options.overloads) :
      l.target.toNat = l.slot ∧ 1 ≤ l.slot ∧ l.slot < config.maxSlots := by
    obtain ⟨o, ho, rfl⟩ := (mem_overloadLoads hvalid).mp hl
    obtain ⟨hpos, hlt, _⟩ := (get?_overloads_of_validate hvalid).2 o ho
    exact ⟨SlotId.toNat_ofNat (hslots o ho), hpos, hlt⟩
  refine ⟨(sorted_overloadLoads hvalid).imp_of_mem fun hl hl' hlt heq => ?_, fun l hl => ?_⟩
  · rw [← (htarget hl).1, heq, (htarget hl').1] at hlt
    exact Nat.lt_irrefl _ hlt
  · obtain ⟨htoNat, hpos, hlt⟩ := htarget hl
    refine ⟨fun heq => ?_, htoNat ▸ hlt⟩
    rw [heq] at htoNat
    exact Nat.ne_of_lt hpos htoNat

lemma length_overloadLoads_le (hvalid : config.validate = .ok ()) :
    (overloadLoads config.options.overloads).length ≤ config.maxSlots := by
  rw [← tableLoads_unnumbered config.maxSlots]
  exact length_tableLoads_le (get?_overloads_of_validate hvalid).1 fun p =>
    pos_of_mem_overloads hvalid

end Config

namespace Engine

open Enumerator

variable {L P : Type} [Link L] [Driver P] {e e' : Engine L P} {now : Nat}

/-! ### Places -/

/-- In every run only places that an identifier names are in use. -/
lemma Reachable.confined {options : EngineOptions} {factory : Factory P}
    (he : Reachable options factory e) : e.host.registry.Confined := by
  induction he with
  | create link limit => exact fun k _ => Registry.slotAt?_empty options.maxSlots _ k
  | act now a _ hact ih =>
    refine act_rel (R := fun e e' => e.host.registry.Confined → e'.host.registry.Confined) hact id
      (fun hfirst hsecond hc => hsecond (hfirst hc)) ?_ ?_ ?_ ?_ ih
    · exact fun hprogress hc => hprogress.steps.preserve Host.Step.confined hc
    · exact fun slot name core hc => Host.installDriver_confined hc _ slot name core
    · exact fun host hfresh hc => Host.installFresh_confined hc hfresh
    · exact fun host host' hfresh hset hc =>
        Host.setDriver_confined (Host.installFresh_confined hc hfresh) hset

/-! ### The end of the wait -/

/-- A timer that alone is due fires. -/
lemma pollTimers_of_call {id : TimerId} {expiry : Expiry} {timers : TimerTable}
    {result : Option Unit} (hdue : e.host.timers.due now = [id])
    (hfire : e.host.timers.fire id now = some (expiry, timers))
    (hcall : { e with host := e.host.rung timers id expiry.owner }.call now expiry.owner
      (.timer expiry.token) = some (result, e')) : e.pollTimers now = some (1, e') := by
  simp only [pollTimers, hdue, fireTimers, fireTimer_of_call hfire hcall]
  rfl

/-- The enumerator waits for the table since the engine was started. -/
abbrev Waiting (config : Config) (started : Nat) (id : TimerId) (e : Engine L P) : Prop :=
  Host.Waiting config.maxSlots config.options.overloads (Host.ackAlarm started config.ackTimeout) id
    e.host

/-- A new engine with a valid configuration starts, and then its enumerator waits. -/
lemma exists_waiting {config : Config} (hvalid : config.validate = .ok ()) (link : L)
    (factory : Factory P) (limit started : Nat) :
    ∃ e id,
      ({ create config.options link factory with initLimit := limit } : Engine L P).start started =
        some (.ok (), e) ∧
      e.Waiting config started id ∧ e.decoder = {} ∧ e.factory = factory ∧ e.initLimit = limit := by
  obtain ⟨hslots, hresources, _, htimers⟩ := Config.checks_of_validate hvalid
  obtain ⟨e, timer, hstart, hsolitary, harms, hdecoder, hfactory, hlimit⟩ :=
    exists_solitary config.options link factory limit started hslots hresources
  obtain ⟨id, timers, hadd, hsole⟩ :=
    TimerTable.exists_sole htimers config.ackTimeout .enumerator ackToken started
  obtain ⟨rfl, hsame⟩ := harms id timers hadd
  exact ⟨e, id, hstart, ⟨hsolitary, hsame ▸ hsole⟩, hdecoder, hfactory, hlimit⟩

/-- With unobtrusive drivers, what is assigned is in its slots at the end of the wait, and no other
slot is in use, if the assignments are for different slots. -/
lemma exists_timeout {config : Config} {factory : Factory P} (hvalid : config.validate = .ok ())
    (hquiet : ∀ name driver, factory.create name = some driver → driver.Unobtrusive) (link : L)
    (limit started now : Nat) (hlimit : config.maxSlots ≤ limit)
    (hnow : started + config.ackTimeout ≤ now)
    (hdistinct : (overloadLoads config.options.overloads).Pairwise fun l l' => l.target ≠ l'.target)
    (htargets : ∀ l ∈ overloadLoads config.options.overloads,
      l.target ≠ .enumerator ∧ l.target.toNat < config.maxSlots) :
    ∃ e e' ids r,
      ({ create config.options link factory with initLimit := limit } : Engine L P).start started =
        some (.ok (), e) ∧
      e.pollTimers now = some (1, e') ∧
      Host.Equipped ids (overloadLoads config.options.overloads) r e'.host.registry := by
  obtain ⟨e, id, hstart, hwaiting, _, rfl, hlimit'⟩ := exists_waiting hvalid link factory limit started
  obtain ⟨timers, h', ids, r, hdue, hfire, hcall, hequipped, hfilled⟩ :=
    hwaiting.timeout (e.setting now) hnow hdistinct htargets
  -- no more slots are filled than there are, so the initialisations end
  have hlength : ((overloadLoads config.options.overloads).map Load.target).length ≤ e.initLimit := by
    rw [List.length_map, hlimit']
    exact Nat.le_trans (Config.length_overloadLoads_le hvalid) hlimit
  obtain ⟨h'', hinit, hspares⟩ := Host.initialise_spares (e.setting now)
    (h := (e.withHost h').host) hlength (List.pairwise_map.mpr hdistinct) (by
      intro slot hslot s inst hs hinst
      obtain ⟨l, hl, rfl⟩ := List.mem_map.mp hslot
      obtain ⟨s', hs', hcreate⟩ := hfilled l hl
      cases hs.symm.trans hs'
      rw [hinst] at hcreate
      exact hquiet l.name inst.driver hcreate.symm)
  let rung : Engine L P := { e with host := e.host.rung timers id .enumerator }
  have hcalled : rung.call now .enumerator (.timer ackToken) =
      some (some (), (rung.withHost h').withHost h'') := call_of_host hcall hinit
  exact ⟨e, _, ids, r, hstart, pollTimers_of_call hdue hfire hcalled,
    hequipped.spares hspares fun l hl => (htargets l hl).1⟩

/-! ### Slots in use -/

/-- The enumerator is in the first place, every driver that is assigned is in the place of its number
and has no core, and no other place is in use. -/
structure Alone (config : Config) (r : Registry (Instance P)) : Prop where
  enumerator : ∃ s e, r.slot? .enumerator = some s ∧ Host.Houses s e
  assigned : ∀ o ∈ config.overloads, (r.slotAt? o.slot).map Slot.label = some (o.driver, none)
  free : ∀ k ≠ 0, (∀ o ∈ config.overloads, o.slot ≠ k) → r.slotAt? k = none

omit [Driver P] in
/-- No driver is in a place beyond all identifiers. -/
private lemma Alone.slot_lt {config : Config} {r : Registry (Instance P)} (h : Alone config r)
    (hconfined : r.Confined) {o : Overload} (ho : o ∈ config.overloads) : o.slot < 65536 := by
  by_contra hslot
  have hassigned := h.assigned o ho
  rw [hconfined o.slot (Nat.le_of_not_lt hslot)] at hassigned
  cases hassigned

omit [Driver P] in
/-- What the loads come to, in words of the configuration. -/
private lemma alone_of_equipped {config : Config} {ids : CoreId → UInt16}
    {r r' : Registry (Instance P)} (hvalid : config.validate = .ok ())
    (hslots : ∀ o ∈ config.overloads, o.slot < 65536) (hconfined : r'.Confined)
    (h : Host.Equipped ids (overloadLoads config.options.overloads) r r') : Alone config r' := by
  have hslotAt {k : Nat} (hk : k < 65536) : r'.slotAt? k = r'.slot? (.ofNat k) := by
    rw [← Registry.slotAt?_toNat, SlotId.toNat_ofNat hk]
  obtain ⟨s, e, hs, hhouses, _⟩ := h.enumerator
  refine ⟨⟨s, e, hs, hhouses⟩, fun o ho => ?_, fun k hk hother => ?_⟩
  · rw [hslotAt (hslots o ho)]
    exact h.loaded _ ((Config.mem_overloadLoads hvalid).mpr ⟨o, ho, rfl⟩)
  · by_cases hlt : k < 65536
    · rw [hslotAt hlt]
      refine h.free _ (fun heq => hk ?_) fun l hl heq => ?_
      · rw [← SlotId.toNat_ofNat hlt, heq]
        rfl
      · obtain ⟨o, ho, rfl⟩ := (Config.mem_overloadLoads hvalid).mp hl
        exact hother o ho ((SlotId.ofNat_inj (hslots o ho) hlt).mp heq)
    · exact hconfined k (Nat.le_of_not_lt hlt)

/-- A new engine whose board stays silent has the enumerator and all drivers that were assigned in
their places once the wait is over, and no others, just when all slots that were assigned have numbers
of sixteen bits. -/
theorem alone_iff {config : Config} {factory : Factory P} (hvalid : config.validate = .ok ())
    (hquiet : ∀ name driver, factory.create name = some driver → driver.Unobtrusive) (link : L)
    (limit started now : Nat) (hlimit : config.maxSlots ≤ limit)
    (hnow : started + config.ackTimeout ≤ now) :
    ∃ e, ({ create config.options link factory with initLimit := limit } : Engine L P).start started =
        some (.ok (), e) ∧
      ((∃ n e', e.pollTimers now = some (n, e') ∧ Alone config e'.host.registry) ↔
        ∀ o ∈ config.overloads, o.slot < 65536) := by
  obtain ⟨e, _, hstart, _⟩ := exists_waiting hvalid link factory limit started
  have hreachable {n : Nat} {e' : Engine L P} (hpoll : e.pollTimers now = some (n, e')) :
      Reachable config.options factory e' := by
    have hstarted : Reachable config.options factory e :=
      .act started .start (.create link limit) (by rw [act, hstart]; rfl)
    exact .act now .pollTimers hstarted (by rw [act, hpoll]; rfl)
  refine ⟨e, hstart, ?_, fun hslots => ?_⟩
  · rintro ⟨n, e', hpoll, halone⟩ o ho
    exact halone.slot_lt (hreachable hpoll).confined ho
  · obtain ⟨hdistinct, htargets⟩ := Config.targets_overloadLoads hvalid hslots
    obtain ⟨e₁, e', ids, r, hstart₁, hpoll, hequipped⟩ :=
      exists_timeout hvalid hquiet link limit started now hlimit hnow hdistinct htargets
    cases hstart.symm.trans hstart₁
    exact ⟨1, e', hpoll, alone_of_equipped hvalid hslots (hreachable hpoll).confined hequipped⟩

/-- Both drivers that are assigned are in their places when the board does not answer, and the place
between them is free. -/
theorem alone_iff_mixed :
    mixedConfig.validate = .ok () ∧
    (∀ name driver, greeters.create name = some driver → driver.Unobtrusive) ∧
    mixedConfig.maxSlots ≤ 8 ∧ 0 + mixedConfig.ackTimeout ≤ 120 ∧
    ∃ (e e' : Engine MemoryLink TestDriver) (n : Nat),
      ({ create mixedConfig.options {} greeters with initLimit := 8 } : Engine _ _).start 0 =
        some (.ok (), e) ∧
      e.pollTimers 120 = some (n, e') ∧
      (e'.host.registry.slotAt? 2).map Slot.label = some ("special", none) ∧
      (e'.host.registry.slotAt? 7).map Slot.label = some ("special", none) ∧
      e'.host.registry.slotAt? 5 = none := by
  have hvalid : mixedConfig.validate = .ok () := by decide
  obtain ⟨e, hstart, hiff⟩ := alone_iff hvalid unobtrusive_of_greeters ({} : MemoryLink) 8 0 120
    (by decide) (by decide)
  obtain ⟨n, e', hpoll, halone⟩ := hiff.mpr (by decide)
  refine ⟨hvalid, unobtrusive_of_greeters, by decide, by decide, e, e', n, hstart, hpoll,
    halone.assigned { slot := 2, driver := "special" } ?_,
    halone.assigned { slot := 7, driver := "special" } ?_, halone.free 5 ?_ ?_⟩
  all_goals decide

/-- A configuration that assigns a slot whose number has more than sixteen bits. -/
def wideConfig : Config :=
  { maxSlots := 70000, overloads := [{ slot := 65541, driver := "special" }] }

/-- The driver is loaded into the slot that is left of the number, and its own place stays free. -/
theorem not_alone_wide :
    wideConfig.validate = .ok () ∧
    (∀ name driver, greeters.create name = some driver → driver.Unobtrusive) ∧
    ∃ e e' : Engine MemoryLink TestDriver,
      (create wideConfig.options {} greeters).start 0 = some (.ok (), e) ∧
      e.pollTimers 100 = some (1, e') ∧ e'.host.registry.slotAt? 65541 = none ∧
      (e'.host.registry.slotAt? 5).map Slot.label = some ("special", none) ∧
      ¬ Alone wideConfig e'.host.registry := by
  have hvalid : wideConfig.validate = .ok () := by decide
  have hloads : overloadLoads wideConfig.options.overloads = [⟨65541, "special", none⟩] := rfl
  obtain ⟨e, e', ids, r, hstart, hpoll, hequipped⟩ :=
    exists_timeout hvalid unobtrusive_of_greeters ({} : MemoryLink) 1000000 0 100 (by decide)
      (by decide) (hloads ▸ List.pairwise_singleton _ _) (by rw [hloads]; decide)
  have hstarted : Reachable wideConfig.options greeters e :=
    .act 0 .start (.create {} 1000000) (by rw [act, hstart]; rfl)
  have hconfined : e'.host.registry.Confined :=
    Reachable.confined (.act 100 .pollTimers hstarted (by rw [act, hpoll]; rfl))
  have hfree : e'.host.registry.slotAt? 65541 = none := hconfined 65541 (by decide)
  have hloaded := hequipped.loaded ⟨65541, "special", none⟩ (by rw [hloads]; exact List.mem_cons_self)
  refine ⟨hvalid, unobtrusive_of_greeters, e, e', hstart, hpoll, hfree, ?_, fun halone => ?_⟩
  -- slot 65541 is taken for slot 5
  · have hplace := Registry.slotAt?_toNat e'.host.registry (.ofNat 65541)
    rw [show (SlotId.ofNat 65541).toNat = 5 by decide] at hplace
    rw [hplace]
    exact hloaded
  · have hslot := halone.slot_lt hconfined (o := { slot := 65541, driver := "special" })
      List.mem_cons_self
    exact absurd hslot (by decide)

end Engine

end BoardLink
