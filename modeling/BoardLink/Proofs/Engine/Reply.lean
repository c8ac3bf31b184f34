import BoardLink.Proofs.Engine.Overloads
import BoardLink.Proofs.Engine.Silence
import BoardLink.Proofs.Host.Spent

/-!
# A reply while the enumerator waits

An engine is started, the board answers when it is asked for the table, and then the time to wait is
over. Every slot that was assigned has its driver by then if the answer brings the whole table, or if
it is none at all because the board sent it unasked. A reply that brings less ends the wait all the
same, and then nothing is loaded when the time is over.
-/

namespace BoardLink

namespace Host

open Enumerator

variable {L P : Type} [Driver P] {h : Host L P} {ids : CoreId → UInt16} {ls : List Load}
  {r : Registry (Instance P)} {factory : Factory P}

/-- After all was loaded nobody has anything left to load, if the factory makes modest drivers. -/
lemma Equipped.spent (hequipped : Equipped ids ls r h.registry)
    (hfilled : ∀ l ∈ ls, ∃ s, h.registry.slot? l.target = some s ∧
      s.driver.map Instance.driver = factory.create l.name)
    (hmodest : ∀ name driver, factory.create name = some driver → driver.Modest) :
    h.registry.Spent := by
  intro id s inst hs hinst
  by_cases hid : id = .enumerator
  · obtain ⟨s', e, hs', hhouses, hnil⟩ := hequipped.enumerator
    obtain ⟨serial, hdriver⟩ := hhouses.driver
    cases hs.symm.trans (hid ▸ hs')
    cases hinst.symm.trans hdriver
    exact .inr ⟨e, rfl, hnil⟩
  · by_cases hload : ∃ l ∈ ls, l.target = id
    · obtain ⟨l, hl, rfl⟩ := hload
      obtain ⟨s', hs', hcreate⟩ := hfilled l hl
      cases hs.symm.trans hs'
      rw [hinst] at hcreate
      exact .inl (hmodest l.name inst.driver hcreate.symm)
    · rw [hequipped.free id hid fun l hl htarget => hload ⟨l, hl, htarget⟩] at hs
      cases hs

end Host

namespace Engine

open Enumerator Registry

variable {L P : Type} [Link L] [Driver P] {e e' : Engine L P} {now : Nat}

/-! ### Timers when nothing is left to load -/

/-- A timer that fires, or cannot, leaves all names as they are. -/
private lemma exists_fireTimer (hspent : e.host.registry.Spent) (now : Nat) (id : TimerId) :
    ∃ b e', e.fireTimer now id = some (b, e') ∧ Rests e.host.registry e'.host.registry := by
  cases hfire : e.host.timers.fire id now with
  | none => exact ⟨false, e, by simp only [fireTimer, hfire], .refl _⟩
  | some fired =>
    obtain ⟨expiry, timers⟩ := fired
    let rung : Engine L P := { e with host := e.host.rung timers id expiry.owner }
    have hrung : Rests e.host.registry rung.host.registry :=
      Host.rung_rests e.host timers id expiry.owner
    obtain ⟨result, e', hcall, hrests⟩ : ∃ result e',
        rung.call now expiry.owner (.timer expiry.token) = some (result, e') ∧
          Rests rung.host.registry e'.host.registry := by
      cases hcall : rung.host.call (rung.setting now) expiry.owner (.timer expiry.token) with
      | none => exact ⟨none, rung, by simp only [call, hcall], .refl _⟩
      | some called =>
        obtain ⟨result, host, _⟩ := called
        obtain ⟨rfl, hrests⟩ :=
          Host.call_rests (hrung.spent hspent) (fun _ => Callback.noConfusion) hcall
        exact ⟨_, _, call_of_host hcall (Host.initialise_nil _ _ _), hrests⟩
    exact ⟨true, e', fireTimer_of_call hfire hcall, hrung.trans hrests⟩

private lemma exists_fireTimers (hspent : e.host.registry.Spent) (now : Nat) (timers : List TimerId) :
    ∃ n e', e.fireTimers now timers = some (n, e') ∧ Rests e.host.registry e'.host.registry := by
  induction timers generalizing e with
  | nil => exact ⟨0, e, rfl, .refl _⟩
  | cons id timers ih =>
    obtain ⟨b, e₁, hfirst, hrests⟩ := exists_fireTimer hspent now id
    obtain ⟨n, e', hothers, hrests'⟩ := ih (hrests.spent hspent)
    exact ⟨n + b.toNat, e', by simp [fireTimers, hfirst, hothers], hrests.trans hrests'⟩

/-! ### Slots that were assigned -/

/-- Every slot that was assigned has the driver assigned to it. -/
def Complete (config : Config) (r : Registry (Instance P)) : Prop :=
  ∀ o ∈ config.overloads, r.driverName? (.ofNat o.slot) = some o.driver

variable {config : Config}

omit [Driver P] in
/-- Assignments need not be complete while only the enumerator is there. -/
private lemma complete_iff_of_free {r : Registry (Instance P)} (hvalid : config.validate = .ok ())
    (hmax : config.maxSlots ≤ 65536) (hfree : ∀ id ≠ .enumerator, r.slot? id = none) :
    Complete config r ↔ config.overloads = [] := by
  constructor
  · intro hcomplete
    refine List.eq_nil_iff_forall_not_mem.mpr fun o ho => ?_
    obtain ⟨hpos, hlt, _⟩ := (Config.get?_overloads_of_validate hvalid).2 o ho
    have hother : SlotId.ofNat o.slot ≠ .enumerator := fun heq => by
      have hslot := SlotId.toNat_ofNat (Nat.lt_of_lt_of_le hlt hmax)
      rw [heq] at hslot
      exact Nat.ne_of_lt hpos hslot
    have hname := hcomplete o ho
    rw [driverName?, hfree _ hother] at hname
    cases hname
  · intro hnil o ho
    rw [hnil] at ho
    cases ho

/-- A call loads all that a table leads to, or all that is left, and then nobody has anything left to
load and the assignments are complete. -/
private lemma complete_of_call {slot : SlotId} {c : Callback} {result : c.Result} {h' : Host L P}
    {ids numbers : CoreId → UInt16} {r : Registry (Instance P)}
    (hvalid : config.validate = .ok ())
    (hmodest : ∀ name driver, e.factory.create name = some driver → driver.Modest)
    (hlimit : config.maxSlots ≤ e.initLimit)
    (hcall : e.host.call (e.setting now) slot c = some (result, h',
      (tableLoads config.maxSlots config.options.overloads ids).map Load.target))
    (hequipped : Host.Equipped numbers (tableLoads config.maxSlots config.options.overloads ids) r
      h'.registry)
    (hfilled : ∀ l ∈ tableLoads config.maxSlots config.options.overloads ids, ∃ s,
      h'.registry.slot? l.target = some s ∧
        s.driver.map Instance.driver = e.factory.create l.name) :
    ∃ e', e.call now slot c = some (some result, e') ∧ e'.host.registry.Spent ∧
      Complete config e'.host.registry := by
  obtain ⟨hfits, hslots⟩ := Config.get?_overloads_of_validate hvalid
  have hpos (p : Nat × String) (hp : p ∈ config.options.overloads) : 0 < p.1 :=
    Config.pos_of_mem_overloads hvalid hp
  have hlength : ((tableLoads config.maxSlots config.options.overloads ids).map
      Load.target).length ≤ e.initLimit := by
    rw [List.length_map]
    exact Nat.le_trans (length_tableLoads_le hfits hpos) hlimit
  have hspent : h'.registry.Spent := hequipped.spent hfilled hmodest
  obtain ⟨h'', hinit, hrests⟩ := Host.initialise_rests (e.setting now)
    (h := (e.withHost h').host) hspent hlength
  -- drivers that keep their slots initialise nothing more
  refine ⟨_, call_of_host hcall hinit, hrests.spent hspent, fun o ho => ?_⟩
  -- every assignment is among the loads for the table, whatever driver number a core has
  obtain ⟨l, hl, hslot, hname⟩ := exists_load_of_get? hfits hpos (hslots o ho).2.2 ids
  have hlabel := hequipped.loaded l hl
  rw [Load.target, hslot, hname] at hlabel
  obtain ⟨s, hs, hlabel⟩ := Option.map_eq_some_iff.mp hlabel
  refine (hrests.names _).trans ?_
  show (h'.registry.slot? (.ofNat o.slot)).map Slot.driverName = _
  rw [hs, Option.map_some]
  exact congrArg (fun label => some label.1) hlabel

/-! ### What the enumerator makes of the answer -/

section Answer

variable {id : TimerId} {p : Packet} {started later : Nat}

/-- The engine while it gives out a packet. -/
private def accepting (e : Engine L P) : Engine L P :=
  e.mapStats fun s => { s with packetsAccepted := s.packetsAccepted + 1 }

/-- The packet comes to the enumerator that waits for it, which loads nothing. -/
private lemma exists_route_of_quiet {h' : Host L P} (hwaiting : e.Waiting config started id)
    (hcall : e.accepting.host.call (e.setting now) .enumerator (.packet p) = some ((), h', [])) :
    ∃ e', e.route now .zero p = some (.delivered .enumerator, e') ∧
      e'.host.registry = h'.registry ∧ e'.host.timers = h'.timers ∧ e'.factory = e.factory ∧
      e'.initLimit = e.initLimit := by
  have hcalled : e.accepting.call now .enumerator (.packet p) = _ :=
    call_of_host hcall (Host.initialise_nil _ _ _)
  exact ⟨_, route_of_call (hwaiting.solitary.awaits rfl).route hcalled, rfl, rfl, rfl, rfl⟩

/-- The wait goes on after a packet that the board sent unasked, and at its end all that was assigned
is loaded. -/
private lemma complete_of_unsolicited (hvalid : config.validate = .ok ())
    (hmax : config.maxSlots ≤ 65536)
    (hmodest : ∀ name driver, e.factory.create name = some driver → driver.Modest)
    (hlimit : config.maxSlots ≤ e.initLimit) (hwaiting : e.Waiting config started id)
    (hwrite : p.header.operation ≠ .write) (hunsolicited : p.header.isUnsolicited) (now : Nat)
    (hlater : started + config.ackTimeout ≤ later) :
    ∃ e' n e'', e.route now .zero p = some (.delivered .enumerator, e') ∧
      e'.pollTimers later = some (n, e'') ∧ Complete config e''.host.registry := by
  have hwaiting₁ : e.accepting.Waiting config started id := ⟨hwaiting.solitary, hwaiting.sole⟩
  obtain ⟨h', hcall, hstill⟩ := hwaiting₁.call_unsolicited (e.setting now) hwrite hunsolicited
  obtain ⟨e', hroute, hregistry, htimers, hfactory, hlimit'⟩ := exists_route_of_quiet hwaiting hcall
  have hstill' : e'.Waiting config started id := ⟨hregistry ▸ hstill.solitary, htimers ▸ hstill.sole⟩
  obtain ⟨hdistinct, htargets⟩ := Config.targets_overloadLoads hvalid fun o ho =>
    Nat.lt_of_lt_of_le ((Config.get?_overloads_of_validate hvalid).2 o ho).2.1 hmax
  obtain ⟨timers, h'', ids, r, hdue, hfire, hcall', hequipped, hfilled⟩ :=
    hstill'.timeout (e'.setting later) hlater hdistinct htargets
  -- without a table only the assignments are loaded
  rw [← tableLoads_unnumbered config.maxSlots] at hcall' hequipped hfilled
  obtain ⟨e'', hcalled, _, hcomplete⟩ :=
    complete_of_call (e := { e' with host := e'.host.rung timers id .enumerator }) hvalid
      (hfactory ▸ hmodest) (hlimit' ▸ hlimit) hcall' hequipped hfilled
  exact ⟨e', 1, e'', hroute, pollTimers_of_call hdue hfire hcalled, hcomplete⟩

/-- The table comes, and all that it leads to is loaded at once. -/
private lemma complete_of_table {table : Bytes} (hvalid : config.validate = .ok ())
    (hmax : config.maxSlots ≤ 65536)
    (hmodest : ∀ name driver, e.factory.create name = some driver → driver.Modest)
    (hlimit : config.maxSlots ≤ e.initLimit)
    (hawaits : Host.Awaits config.maxSlots config.options.overloads e.host.registry)
    (htable : table? p = some table) (now later : Nat) :
    ∃ e' n e'', e.route now .zero p = some (.delivered .enumerator, e') ∧
      e'.pollTimers later = some (n, e'') ∧ Complete config e''.host.registry := by
  obtain ⟨hfits, _⟩ := Config.get?_overloads_of_validate hvalid
  obtain ⟨ids, hids⟩ := exists_ids (packet_of_answer (P := P) htable {}).1
  obtain ⟨h', hcall, hequipped, hfilled⟩ := Host.call_table (e.setting now) (h := e.accepting.host)
    hawaits hmax hfits (fun p => Config.pos_of_mem_overloads hvalid) htable hids
  obtain ⟨e₁, hcalled, hspent, hcomplete⟩ := complete_of_call (e := e.accepting) hvalid hmodest hlimit
    hcall hequipped hfilled
  let e' := e₁.mapStats fun s => { s with packetsRouted := s.packetsRouted + 1 }
  obtain ⟨n, e'', hpoll, hrests⟩ := exists_fireTimers (e := e') hspent later (e'.host.timers.due later)
  exact ⟨e', n, e'', route_of_call hawaits.route hcalled, hpoll,
    fun o ho => (hrests.names _).trans (hcomplete o ho)⟩

/-- A reply that brings less than the table ends the wait, and no timer is left that could fire. -/
private lemma free_of_short (hwaiting : e.Waiting config started id)
    (hwrite : p.header.operation ≠ .write) (hsolicited : ¬ p.header.isUnsolicited)
    (hregister : p.header.register = tableRegister)
    (hcount : p.header.count.toNat = tableLength) (hshort : p.readData.length ≠ tableLength)
    (now later : Nat) :
    ∃ e', e.route now .zero p = some (.delivered .enumerator, e') ∧
      e'.pollTimers later = some (0, e') ∧ ∀ id ≠ .enumerator, e'.host.registry.slot? id = none := by
  have hwaiting₁ : e.accepting.Waiting config started id := ⟨hwaiting.solitary, hwaiting.sole⟩
  obtain ⟨h', hcall, hsolitary, hunarmed⟩ :=
    hwaiting₁.call_short (e.setting now) hwrite hsolicited hregister hcount hshort
  obtain ⟨e', hroute, hregistry, htimers, _⟩ := exists_route_of_quiet hwaiting hcall
  refine ⟨e', hroute, ?_, hregistry ▸ hsolitary.free⟩
  rw [pollTimers, htimers, TimerTable.due_eq_nil hunarmed]
  rfl

end Answer

/-! ### The whole of it -/

/-- A new engine starts, and an accepted answer of core 0 comes to it while its enumerator waits. -/
private lemma exists_feed {p : Packet} (hvalid : config.validate = .ok ())
    (haccepted : Frame.validate (Crc.withTrailer p.toBytes) =
      .ok { core := .zero, packet := p.toBytes })
    (hreturns : p.header.operation.returnsData = true) (link : L) (factory : Factory P)
    (started now : Nat) :
    ∃ (e e₁ : Engine L P) (id : TimerId) (bytes : Bytes),
      (create config.options link factory).start started = some (.ok (), e) ∧
      Frame.encode p.toBytes = .ok bytes ∧
      e.feed now bytes = (e₁.route now .zero p).map (fun r => ([r.1], r.2)) ∧
      e₁.Waiting config started id ∧ e₁.factory = factory ∧ e₁.initLimit = 1000000 := by
  obtain ⟨e, id, hstart, hwaiting, hdecoder, hfactory, hlimit⟩ :=
    exists_waiting hvalid link factory 1000000 started
  have hlength : p.toBytes.length ≤ Packet.maxLength := by
    have hframe := Frame.length_le_of_validate haccepted hreturns
    rw [Crc.length_withTrailer] at hframe
    exact Nat.le_trans (Nat.le_of_succ_le (Nat.le_of_succ_le hframe)) (by decide)
  obtain ⟨e₁, hregistry, htimers, hfactory₁, hlimit₁, hfeed⟩ :=
    feed_wire hdecoder now hlength haccepted (Packet.ofBytes_toBytes hlength)
  exact ⟨e, e₁, id, _, hstart, Frame.encode_of_le hlength, hfeed,
    ⟨hregistry ▸ hwaiting.solitary, htimers ▸ hwaiting.sole⟩, hfactory₁.trans hfactory,
    hlimit₁.trans hlimit⟩

/-- A new engine gets an answer from the board to the read of the table, and then the time to wait
is over. The assignments are complete after that just when the answer was sent unasked, or brings the
whole table, or nothing was assigned. -/
theorem complete_iff_of_reply {config : Config} {factory : Factory P} {p : Packet}
    (hvalid : config.validate = .ok ()) (hmax : config.maxSlots ≤ 65536)
    (hmodest : ∀ name driver, factory.create name = some driver → driver.Modest)
    (haccepted : Frame.validate (Crc.withTrailer p.toBytes) =
      .ok { core := .zero, packet := p.toBytes })
    (hreturns : p.header.operation.returnsData = true) (hregister : p.header.register = tableRegister)
    (hcount : p.header.count.toNat = tableLength) (link : L) (started now later : Nat)
    (hlater : started + config.ackTimeout ≤ later) :
    ∃ (e e' e'' : Engine L P) (bytes : Bytes) (n : Nat),
      (create config.options link factory).start started = some (.ok (), e) ∧
      Frame.encode p.toBytes = .ok bytes ∧
      e.feed now bytes = some ([.delivered .enumerator], e') ∧
      e'.pollTimers later = some (n, e'') ∧
      (Complete config e''.host.registry ↔
        p.header.isUnsolicited ∨ p.readData.length = tableLength ∨ config.overloads = []) := by
  obtain ⟨e, e₁, id, bytes, hstart, hencode, hfeed, hwaiting, rfl, hlimit⟩ :=
    exists_feed hvalid haccepted hreturns link factory started now
  have hroom : config.maxSlots ≤ e₁.initLimit := hlimit ▸ Nat.le_trans hmax (by decide)
  have hwrite : p.header.operation ≠ .write := Operation.ne_write_of_returnsData hreturns
  -- the frame is decoded as it was sent, so the packet is all that counts
  suffices hrouted : ∃ e' n e'', e₁.route now .zero p = some (.delivered .enumerator, e') ∧
      e'.pollTimers later = some (n, e'') ∧ (Complete config e''.host.registry ↔
        p.header.isUnsolicited ∨ p.readData.length = tableLength ∨ config.overloads = []) by
    obtain ⟨e', n, e'', hroute, hpoll, hiff⟩ := hrouted
    refine ⟨e, e', e'', bytes, n, hstart, hencode, ?_, hpoll, hiff⟩
    rw [hfeed, hroute, Option.map_some]
  by_cases hunsolicited : p.header.isUnsolicited
  · obtain ⟨e', n, e'', hroute, hpoll, hcomplete⟩ := complete_of_unsolicited hvalid hmax hmodest
      hroom hwaiting hwrite hunsolicited now hlater
    exact ⟨e', n, e'', hroute, hpoll, iff_of_true hcomplete (.inl hunsolicited)⟩
  -- an unsolicited packet leaves the wait to its timer, a whole table ends it with loads
  by_cases hwhole : p.readData.length = tableLength
  · have htable : table? p = some p.readData :=
      if_pos ⟨hwrite, hunsolicited, hregister, hcount, hwhole⟩
    obtain ⟨e', n, e'', hroute, hpoll, hcomplete⟩ := complete_of_table hvalid hmax hmodest hroom
      (hwaiting.solitary.awaits rfl) htable now later
    exact ⟨e', n, e'', hroute, hpoll, iff_of_true hcomplete (.inr (.inl hwhole))⟩
  -- a short reply ends the wait and loads nothing
  · obtain ⟨e', hroute, hpoll, hfree⟩ :=
      free_of_short hwaiting hwrite hunsolicited hregister hcount hwhole now later
    refine ⟨e', 0, e', hroute, hpoll, (complete_iff_of_free hvalid hmax hfree).trans ?_⟩
    simp [hunsolicited, hwhole]

/-- The board answers with the whole table, and the slot that was assigned has the driver assigned to
it. -/
theorem complete_iff_of_reply_whole :
    specialConfig.validate = .ok () ∧ specialConfig.maxSlots ≤ 65536 ∧
    (∀ name driver, silentFactory.create name = some driver → driver.Modest) ∧
    Frame.validate (Crc.withTrailer tableAnswer.toBytes) =
      .ok { core := .zero, packet := tableAnswer.toBytes } ∧
    tableAnswer.header.operation.returnsData = true ∧ tableAnswer.header.register = tableRegister ∧
    tableAnswer.header.count.toNat = tableLength ∧ 0 + specialConfig.ackTimeout ≤ 100 ∧
    ∃ (e e' e'' : Engine MemoryLink TestDriver) (bytes : Bytes) (n : Nat),
      (create specialConfig.options {} silentFactory).start 0 = some (.ok (), e) ∧
      Frame.encode tableAnswer.toBytes = .ok bytes ∧
      e.feed 50 bytes = some ([.delivered .enumerator], e') ∧ e'.pollTimers 100 = some (n, e'') ∧
      e''.host.registry.driverName? (.ofNat 2) = some "special" := by
  have hvalid : specialConfig.validate = .ok () := by decide
  have haccepted : Frame.validate (Crc.withTrailer tableAnswer.toBytes) =
      .ok { core := .zero, packet := tableAnswer.toBytes } := by
    decide +kernel
  obtain ⟨e, e', e'', bytes, n, hstart, hencode, hfeed, hpoll, hiff⟩ :=
    complete_iff_of_reply hvalid (by decide) modest_of_silentFactory haccepted (by decide)
      (by decide) (by decide) ({} : MemoryLink) 0 50 100 (by decide)
  have hcomplete := hiff.mpr (.inr (.inl (by decide)))
  exact ⟨hvalid, by decide, modest_of_silentFactory, haccepted, by decide, by decide, by decide,
    by decide, e, e', e'', bytes, n, hstart, hencode, hfeed, hpoll,
    hcomplete { slot := 2, driver := "special" } List.mem_cons_self⟩

/-- The board's answer when it keeps back the last byte of the table. -/
def shortAnswer : Packet where
  header := { command := 0xF6, core := 0xE0, register := 0x40, count := 0x20 }
  data := List.replicate 31 0 ++ [1]

/-- The answer lacks one byte. When the time to wait is over no timer fires, and the slot that was
assigned is free. -/
theorem not_complete_short :
    specialConfig.validate = .ok () ∧ specialConfig.maxSlots ≤ 65536 ∧
    (∀ name driver, silentFactory.create name = some driver → driver.Modest) ∧
    Frame.validate (Crc.withTrailer shortAnswer.toBytes) =
      .ok { core := .zero, packet := shortAnswer.toBytes } ∧
    ∃ (e e' : Engine MemoryLink TestDriver) (bytes : Bytes),
      (create specialConfig.options {} silentFactory).start 0 = some (.ok (), e) ∧
      Frame.encode shortAnswer.toBytes = .ok bytes ∧
      e.feed 50 bytes = some ([.delivered .enumerator], e') ∧ e'.pollTimers 100 = some (0, e') ∧
      e'.host.registry.slot? (.ofNat 2) = none ∧ ¬ Complete specialConfig e'.host.registry := by
  have hvalid : specialConfig.validate = .ok () := by decide
  have haccepted : Frame.validate (Crc.withTrailer shortAnswer.toBytes) =
      .ok { core := .zero, packet := shortAnswer.toBytes } := by
    decide +kernel
  obtain ⟨e, e₁, id, bytes, hstart, hencode, hfeed, hwaiting, _⟩ :=
    exists_feed hvalid haccepted (by decide) ({} : MemoryLink) silentFactory 0 50
  obtain ⟨e', hroute, hpoll, hfree⟩ := free_of_short hwaiting (p := shortAnswer) (by decide)
    (by decide) (by decide) (by decide) (by decide) 50 100
  rw [hroute, Option.map_some] at hfeed
  refine ⟨hvalid, by decide, modest_of_silentFactory, haccepted, e, e', bytes, hstart, hencode, hfeed,
    hpoll, hfree _ (by decide), fun hcomplete => ?_⟩
  cases (complete_iff_of_free hvalid (by decide) hfree).mp hcomplete

end Engine

end BoardLink
