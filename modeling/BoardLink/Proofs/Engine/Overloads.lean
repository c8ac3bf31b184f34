import Mathlib.Tactic.Common
import BoardLink.Config.Basic
import BoardLink.Link.Memory
import BoardLink.Proofs.Driver.Script
import BoardLink.Proofs.Engine.Run
import BoardLink.Proofs.Host.Assigned

/-!
# Assigned drivers win unless the table comes late

Once the board's table came or the wait for it was over, each slot that the configuration assigns
has the driver assigned to it, but for one case. When the wait is over, the enumerator loads all
assignments and forgets them, and a table that comes after that puts the drivers of the catalog in
their place.
-/

namespace BoardLink.Engine

open Enumerator

variable {L P : Type}

/-- What the enumerator was called for. It is the first instance of an engine that was started. -/
def heard (e : Engine L P) : List Callback := e.host.journal.calls 0

variable [Link L] [Driver P] {e e₀ e' : Engine L P}

/-- The engine was new, and was just started. -/
def Started (options : EngineOptions) (factory : Factory P) (e : Engine L P) : Prop :=
  ∃ link limit now,
    ({ create options link factory with initLimit := limit } : Engine L P).start now = some (.ok (), e)

/-- One action other than to start the engine or to fill a slot from outside. -/
def Goes (e e' : Engine L P) : Prop :=
  ∃ now a, a ≠ .start ∧ (∀ slot name core, a ≠ .install slot name core) ∧ e.act now a = some e'

/-- Any number of such actions. -/
abbrev Runs : Engine L P → Engine L P → Prop := Relation.ReflTransGen Goes

lemma Goes.progress (h : Goes e e') : ∃ now, Progress now e e' := by
  obtain ⟨now, a, hstart, hinstall, hact⟩ := h
  exact ⟨now, act_progress hact hstart hinstall⟩

/-- What was settled stays settled. -/
lemma Runs.isSettled (h : Runs e e') (hsettled : isSettled e.heard) : isSettled e'.heard := by
  induction h with
  | refl => exact hsettled
  | tail _ hgoes ih =>
    obtain ⟨now, hprogress⟩ := hgoes.progress
    exact isSettled_of_isPrefix (hprogress.steps.journal.filterMap _) ih

/-! ### Names of slots -/

/-- With modest drivers the slots of an engine have the names that they should have. -/
structure Manned (options : EngineOptions) (factory : Factory P) (e : Engine L P) : Prop where
  factory : e.factory = factory
  assigned : e.host.Assigned options.overloads

section Manned

variable {options : EngineOptions} {factory : Factory P}

lemma Started.manned (h : Started options factory e) (hmax : options.maxSlots ≤ 65536)
    (hfits : options.overloads.Fits options.maxSlots)
    (hfactory : ∀ name driver, factory.create name = some driver → driver.Modest) :
    Manned options factory e := by
  obtain ⟨link, limit, now, hstart⟩ := h
  rcases start_progress hstart with
      ⟨herror, _⟩ | ⟨host, hinstall, ⟨herror, _⟩ | ⟨host', hset, hprogress⟩⟩
  · exact absurd rfl herror
  · exact absurd rfl herror
  · have hpool : (create options link factory).host.registry.maxSlots = options.maxSlots :=
      Array.size_replicate
    have hfree := Registry.slot?_empty (D := Instance P) options.maxSlots options.maxResources
    have hassigned : host'.Assigned options.overloads :=
      Host.assigned_of_start hfree rfl rfl (hpool ▸ hmax) (hpool ▸ hfits) hinstall hset
    exact ⟨hprogress.factory, hprogress.steps.assigned hfactory hassigned⟩

lemma Runs.manned (h : Runs e e') (hmanned : Manned options factory e)
    (hfactory : ∀ name driver, factory.create name = some driver → driver.Modest) :
    Manned options factory e' := by
  induction h with
  | refl => exact hmanned
  | tail _ hgoes ih =>
    obtain ⟨now, hprogress⟩ := hgoes.progress
    refine ⟨hprogress.factory.trans ih.factory, hprogress.steps.assigned ?_ ih.assigned⟩
    rw [setting, ih.factory]
    exact hfactory

end Manned

/-- In a run with modest drivers of an engine with a valid configuration, from when the table came
or the wait for it was over, every slot that was assigned is in use, and it has the name assigned to
it just when no table that came late has another name for it. -/
theorem driverName_iff {config : Config} {factory : Factory P}
    (hvalid : config.validate = .ok ()) (hmax : config.maxSlots ≤ 65536)
    (hfactory : ∀ name driver, factory.create name = some driver → driver.Modest)
    (hstarted : Started config.options factory e₀) (hrun : Runs e₀ e)
    (hsettled : isSettled e.heard) (hlater : Runs e e') :
    ∀ o ∈ config.overloads, ∃ s, e'.host.registry.slot? (.ofNat o.slot) = some s ∧
      s.driverName = nameAfter e'.heard o.slot o.driver ∧
      (s.driverName = o.driver ↔ ∀ table, late? e'.heard = some table →
        ∀ other, catalogName 1 table.words o.slot = some other → other = o.driver) := by
  intro o ho
  obtain ⟨hfits, hassigns⟩ := Config.get?_overloads_of_validate hvalid
  obtain ⟨_, _, hget⟩ := hassigns o ho
  have hmanned := Runs.manned (hrun.trans hlater) (hstarted.manned hmax hfits hfactory) hfactory
  have hlt := hmanned.assigned.fits.lt_of_get? hget
  have hname := hmanned.assigned.named (hlater.isSettled hsettled) o.slot hlt o.driver hget
  obtain ⟨s, hs, hname⟩ := Option.map_eq_some_iff.mp hname
  refine ⟨s, hs, hname, ?_⟩
  rw [hname]
  exact nameAfter_eq_iff _ o.slot o.driver

/-! ### A table in time and a late one -/

/-- The engine after it took bytes over and the decoder made something of them. -/
def withDecoded (e : Engine L P) (bytes : Bytes) (decoder : Decoder) : Engine L P :=
  { e.mapStats fun s => { s with bytesRead := s.bytesRead + bytes.length } with decoder }

/-- Bytes that are a single valid frame are as good as the packet in it. -/
private lemma feed_of_frame {bytes frame body : Bytes} {decoder : Decoder} {core : CoreId}
    {packet : Packet} (now : Nat) (hdecode : e.decoder.feed bytes = (decoder, [.frame frame]))
    (hvalid : Frame.validate frame = .ok { core, packet := body })
    (hpacket : Packet.ofBytes body = .ok packet) (htrace : e.host.transmitter.trace = false) :
    e.feed now bytes =
      ((e.withDecoded bytes decoder).route now core packet).map fun r => ([r.1], r.2) := by
  have htrace' : (e.withDecoded bytes decoder).host.transmitter.trace = false := htrace
  have hdispatch : (e.withDecoded bytes decoder).dispatch now frame =
      (e.withDecoded bytes decoder).route now core packet := by
    simp only [dispatch, hvalid, htrace', hpacket, Bool.false_eq_true, if_false]
  have hfeed : e.feed now bytes = (e.withDecoded bytes decoder).dispatchAll now [frame] := by
    have hdecode' : (e.mapStats fun s =>
        { s with bytesRead := s.bytesRead + bytes.length }).decoder.feed bytes =
          (decoder, [.frame frame]) := hdecode
    rw [feed, hdecode']
    simp [decoded, Emission.discards, Emission.frames, withDecoded]
  rw [hfeed, dispatchAll, hdispatch]
  cases (e.withDecoded bytes decoder).route now core packet <;> rfl

/-- Drivers for three numbers of the catalog and one that is only assigned. -/
def silentFactory : Factory TestDriver where
  drivers := [("bb4io", .loaded .silent), ("in4", .loaded .silent), ("out4", .loaded .silent),
    ("special", .loaded .silent)]

lemma modest_of_silentFactory (name : String) (driver : Occupant TestDriver)
    (hcreate : silentFactory.create name = some driver) : driver.Modest := by
  have hmem : (name, driver) ∈ silentFactory.drivers := mem_of_lookup_eq_some hcreate
  have hsilent : driver = .loaded .silent := by
    simp only [silentFactory, List.mem_cons, Prod.mk.injEq, List.not_mem_nil, or_false] at hmem
    tauto
  rw [hsilent]
  exact TestDriver.modest_silent

/-- A configuration that assigns one slot. -/
def specialConfig : Config := { overloads := [{ slot := 2, driver := "special" }] }

/-- The header and the data of the board's answer when three of its cores have a number. -/
def tableAnswer : Packet where
  header := { command := 0xF6, core := 0xE0, register := 0x40, count := 0x20 }
  data := [0, 42, 0, 24, 0, 0, 0, 23] ++ List.replicate 25 0

/-- That answer as it is sent. -/
def tableBytes : Bytes :=
  [0xC0, 0xF6, 0xE0, 0x40, 0x20, 0, 42, 0, 24, 0, 0, 0, 23] ++ List.replicate 25 0 ++
    [0x40, 0x08, 0xC0]

/-- The decoder after that answer. -/
def tableDecoder : Decoder := { phase := .inPacket, stats := { frames := 1 } }

private lemma act_feed_tableBytes {e : Engine MemoryLink TestDriver} (now : Nat)
    (hdecoder : e.decoder = {}) (htrace : e.host.transmitter.trace = false) :
    e.act now (.feed tableBytes) =
      ((e.withDecoded tableBytes tableDecoder).route now .zero tableAnswer).map Prod.snd := by
  have hdecode : e.decoder.feed tableBytes =
      (tableDecoder, [.frame (tableAnswer.toBytes ++ [0x40, 0x08])]) := by
    rw [hdecoder]
    decide
  have hvalid : Frame.validate (tableAnswer.toBytes ++ [0x40, 0x08]) =
      .ok { core := .zero, packet := tableAnswer.toBytes } := by
    decide +kernel
  rw [act, feed_of_frame now hdecode hvalid rfl htrace, Option.map_map]
  rfl

/-- The board answers in time, and the slot that was assigned has the driver assigned to it. -/
theorem driverName_iff_in_time :
    ∃ e₀ e : Engine MemoryLink TestDriver,
      specialConfig.validate = .ok () ∧ specialConfig.maxSlots ≤ 65536 ∧
      (∀ name driver, silentFactory.create name = some driver → driver.Modest) ∧
      Started specialConfig.options silentFactory e₀ ∧ e₀.act 50 (.feed tableBytes) = some e ∧
      isSettled e.heard ∧
      ∃ s, e.host.registry.slot? (.ofNat 2) = some s ∧ s.driverName = "special" := by
  let new : Engine MemoryLink TestDriver :=
    { create specialConfig.options {} silentFactory with initLimit := 3 }
  have hrun : ((new.start 0).bind fun started =>
      ((started.2.withDecoded tableBytes tableDecoder).route 50 .zero tableAnswer).map fun routed =>
        (started.1, started.2.decoder, started.2.host.transmitter.trace, routed.2.heard)) =
      some (.ok (), {}, false, [.init, .packet tableAnswer]) := by
    decide +kernel
  obtain ⟨⟨r, e₀⟩, hstart, hrun⟩ := Option.bind_eq_some_iff.mp hrun
  obtain ⟨⟨status, e⟩, hroute, hrun⟩ := Option.map_eq_some_iff.mp hrun
  simp only [Prod.mk.injEq] at hrun
  obtain ⟨rfl, hdecoder, htrace, hheard⟩ := hrun
  have hsettled : isSettled e.heard := by
    rw [hheard]
    rfl
  have hvalid : specialConfig.validate = .ok () := by decide
  have hstarted : Started specialConfig.options silentFactory e₀ := ⟨{}, 3, 0, hstart⟩
  have hact : e₀.act 50 (.feed tableBytes) = some e := by
    rw [act_feed_tableBytes 50 hdecoder htrace, hroute]
    rfl
  -- the table comes 50 ms before the enumerator stops to wait
  have hrun : Runs e₀ e := by
    refine .single ⟨50, .feed tableBytes, ?_, ?_, hact⟩
    · simp
    · simp
  obtain ⟨s, hs, _, hiff⟩ := driverName_iff hvalid (by decide) modest_of_silentFactory hstarted hrun
    hsettled .refl { slot := 2, driver := "special" } List.mem_cons_self
  -- only one table came, and nothing was over before it
  have hlate : late? e.heard = none := by
    rw [hheard]
    rfl
  rw [hlate] at hiff
  exact ⟨e₀, e, hvalid, by decide, modest_of_silentFactory, hstarted, hact, hsettled, s, hs,
    hiff.mpr (by simp)⟩

/-- The board answers after the wait was over. The slot that was assigned had the driver assigned to
it, and loses it to the driver of the catalog. -/
theorem driverName_of_late_table :
    ∃ e₀ e e' : Engine MemoryLink TestDriver,
      specialConfig.validate = .ok () ∧ specialConfig.maxSlots ≤ 65536 ∧
      (∀ name driver, silentFactory.create name = some driver → driver.Modest) ∧
      Started specialConfig.options silentFactory e₀ ∧ e₀.act 100 .pollTimers = some e ∧
      isSettled e.heard ∧ e.host.registry.driverName? (.ofNat 2) = some "special" ∧
      e.act 150 (.feed tableBytes) = some e' ∧
      e'.host.registry.driverName? (.ofNat 2) = some "out4" := by
  let new : Engine MemoryLink TestDriver :=
    { create specialConfig.options {} silentFactory with initLimit := 3 }
  have hrun : ((new.start 0).bind fun started => (started.2.act 100 .pollTimers).bind fun e =>
      ((e.withDecoded tableBytes tableDecoder).route 150 .zero tableAnswer).map fun routed =>
        ((started.1, e.decoder, e.host.transmitter.trace), isSettled e.heard,
          e.host.registry.driverName? (.ofNat 2), routed.2.host.registry.driverName? (.ofNat 2))) =
      some ((.ok (), {}, false), true, some "special", some "out4") := by
    decide +kernel
  obtain ⟨⟨r, e₀⟩, hstart, hrun⟩ := Option.bind_eq_some_iff.mp hrun
  obtain ⟨e, hpoll, hrun⟩ := Option.bind_eq_some_iff.mp hrun
  obtain ⟨⟨status, e'⟩, hroute, hrun⟩ := Option.map_eq_some_iff.mp hrun
  simp only [Prod.mk.injEq] at hrun
  obtain ⟨⟨rfl, hdecoder, htrace⟩, hsettled, hbefore, hafter⟩ := hrun
  -- the bytes of the table are one frame, so to feed them is to route its packet
  have hact : e.act 150 (.feed tableBytes) = some e' := by
    rw [act_feed_tableBytes 150 hdecoder htrace, hroute]
    rfl
  exact ⟨e₀, e, e', by decide, by decide, modest_of_silentFactory, ⟨{}, 3, 0, hstart⟩, hpoll,
    hsettled, hbefore, hact, hafter⟩

end BoardLink.Engine
