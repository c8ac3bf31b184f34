import BoardLink.Config.Basic
import BoardLink.Link.Memory
import BoardLink.Proofs.Decoder.RoundTrip
import BoardLink.Proofs.Driver.Script
import BoardLink.Proofs.Engine.Run
import BoardLink.Proofs.Frame.Validation
import BoardLink.Proofs.Host.Table

/-!
# What the board's table comes to

A new engine is started, and then the board answers with its table. Every core has its number after
that, each slot the driver that the table and the assignments say, and users can read the table.
-/

namespace BoardLink

lemma Operation.ne_write_of_returnsData {operation : Operation}
    (h : operation.returnsData = true) : operation ≠ .write := by
  rintro rfl
  cases h

/-- A packet that is not too long can be read back from its bytes. -/
lemma Packet.ofBytes_toBytes {p : Packet} (h : p.toBytes.length ≤ Packet.maxLength) :
    Packet.ofBytes p.toBytes = .ok p := by
  have hlength : Header.size + p.data.length ≤ Packet.maxLength := by
    rwa [Packet.toBytes, List.length_append] at h
  simp only [Packet.ofBytes, Packet.toBytes, Header.toBytes, List.cons_append, List.nil_append]
  exact if_pos hlength

namespace Config

/-- The driver for a slot that a core with a driver number comes to: the one assigned to the slot,
or else the one in the catalog. -/
def nameFor (config : Config) (slot : Nat) (id : UInt16) : Option String :=
  (config.overloadFor slot).or ((Catalog.byId id).map Peripheral.name)

lemma driverFor_eq {config : Config} (hvalid : config.validate = .ok ()) (slot : Nat)
    (id : UInt16) :
    Enumerator.driverFor config.options.overloads slot id = config.nameFor slot id := by
  rw [nameFor, ← get?_overloads_eq hvalid]
  exact Option.orElse_eq_or

end Config

namespace Enumerator

/-! ### The board's answer -/

/-- The table as the board sends it, the high byte of each number first. -/
def tableOf (ids : CoreId → UInt16) : Bytes := (CoreId.all.map ids).flatMap Bytes.ofWord

/-- The answer with a table of which nothing is kept back. -/
def replyOf (command core : UInt8) (ids : CoreId → UInt16) : Packet where
  header := { command, core, register := tableRegister, count := UInt8.ofNat tableLength }
  data := tableOf ids ++ [0]

/-- The table as users see it, four hexadecimal digits for each core. -/
def lineOf (ids : CoreId → UInt16) : String :=
  " ".intercalate (CoreId.all.map fun c => (Bytes.ofWord (ids c)).hex) ++ "\n"

variable {command core : UInt8} {ids : CoreId → UInt16}

lemma length_tableOf (ids : CoreId → UInt16) : (tableOf ids).length = tableLength := by
  have hlength (ws : List UInt16) : (ws.flatMap Bytes.ofWord).length = 2 * ws.length := by
    induction ws with
    | nil => rfl
    | cons w ws ih =>
      rw [List.flatMap_cons, List.length_append, ih, List.length_cons, Nat.mul_succ, Nat.add_comm]
      rfl
  rw [tableOf, hlength, List.length_map, CoreId.all, List.length_finRange, tableLength]

lemma zip_words_tableOf (ids : CoreId → UInt16) :
    CoreId.all.zip (tableOf ids).words = CoreId.all.map fun c => (c, ids c) := by
  rw [tableOf, Bytes.words_flatMap_ofWord]
  have hzip := List.zip_map' (f := id) (g := ids) (l := CoreId.all)
  rwa [List.map_id] at hzip

/-- A complete table has a number for each core. -/
lemma exists_ids {table : Bytes} (hlength : table.length = tableLength) :
    ∃ ids : CoreId → UInt16, CoreId.all.zip table.words = CoreId.all.map fun c => (c, ids c) := by
  have hwords : table.words.length = coreCount := by
    rw [Bytes.length_words, hlength]
    rfl
  refine ⟨fun c => table.words[c.val], List.ext_getElem ?_ fun i _ _ => ?_⟩
  · rw [List.length_map, List.length_zip, hwords, CoreId.all, List.length_finRange, Nat.min_self]
  · simp [CoreId.all]

lemma length_replyOf_le (command core : UInt8) (ids : CoreId → UInt16) :
    (replyOf command core ids).toBytes.length ≤ Packet.maxLength := by
  have hlength : (replyOf command core ids).toBytes.length = Header.size + (tableLength + 1) := by
    rw [Packet.toBytes, List.length_append, replyOf, List.length_append, length_tableOf]
    rfl
  rw [hlength]
  decide

lemma table?_replyOf (hreturns : (Operation.ofCommand command).returnsData = true)
    (hreply : command &&& replyBit ≠ 0) : table? (replyOf command core ids) = some (tableOf ids) := by
  have hwrite : Operation.ofCommand command ≠ .write := Operation.ne_write_of_returnsData hreturns
  have hremaining : (replyOf command core ids).remaining = some 0 := by
    rw [Packet.remaining]
    exact (if_pos hreturns).trans List.getLast?_concat
  have hdata : (replyOf command core ids).readData = tableOf ids := by
    rw [Packet.readData, hremaining]
    exact List.dropLast_concat
  rw [table?, hdata, if_pos]
  exact ⟨hwrite, fun hunsolicited => hreply (beq_iff_eq.mp hunsolicited), rfl, rfl,
    length_tableOf ids⟩

lemma validate_replyOf (hreturns : (Operation.ofCommand command).returnsData = true)
    (hcore : CoreId.ofWire core = .ok .zero) :
    Frame.validate (Crc.withTrailer (replyOf command core ids).toBytes) =
      .ok { core := .zero, packet := (replyOf command core ids).toBytes } :=
  Frame.validate_reply hreturns hcore (by rw [length_tableOf]; rfl)

lemma renderTable_eq (ids : CoreId → UInt16) : renderTable (CoreId.all.map ids) = lineOf ids := by
  rw [renderTable, lineOf, List.map_map]
  congr 2
  exact List.map_congr_left fun c _ => hexNat_eq_hex (ids c)

end Enumerator

namespace Engine

open Enumerator

variable {L P : Type} [Link L] [Driver P] {e e' : Engine L P} {now : Nat}

/-! ### The start -/

lemma start_of_call {host host' : Host L P} {result : Except Error Unit}
    (hfresh : e.host.installFresh .enumerator Enumerator.name = .ok host)
    (hset : host.setDriver .enumerator (.enumerator (.ofOverloads e.overloads)) = .ok host')
    (hcall : ({ e with host := host', overloads := [] } : Engine L P).call now .enumerator .init =
      some (some result, e')) : e.start now = some (result, e') := by
  simp only [start, hfresh, hset, hcall]

/-- A new engine can be started. Then the enumerator is alone, with the timer of its wait if there is
room for one. -/
lemma exists_solitary (options : EngineOptions) (link : L) (factory : Factory P) (limit now : Nat)
    (hslots : 0 < options.maxSlots) (hresources : 0 < options.maxResources) :
    ∃ e timer,
      ({ create options link factory with initLimit := limit } : Engine L P).start now =
        some (.ok (), e) ∧
      Host.Solitary options.maxSlots 0
        { Enumerator.ofOverloads options.overloads with ackTimer := timer } e.host.registry ∧
      Host.ArmsAck { factory, ackTimeout := options.ackTimeout, now } .enumerator
        (.empty options.maxTimers) timer e.host.timers ∧
      e.decoder = {} ∧ e.factory = factory ∧ e.initLimit = limit := by
  let new : Engine L P := { create options link factory with initLimit := limit }
  obtain ⟨h₁, h₂, h', timer, hfresh, hset, hcall, hsolitary, harms⟩ := Host.exists_solitary
    (new.setting now) (h := new.host) options.overloads rfl hslots hresources
  let e₂ : Engine L P := { new with host := h₂, overloads := [] }
  refine ⟨(e₂.withHost h').withHost (e₂.withHost h').host, timer, ?_, hsolitary, harms, rfl, rfl, rfl⟩
  refine start_of_call hfresh hset (call_of_host hcall ?_)
  exact Host.initialise_nil _ _ _

/-- A new engine can be started, and then waits for the table. -/
lemma exists_start (options : EngineOptions) (link : L) (factory : Factory P) (now : Nat)
    (hslots : 0 < options.maxSlots) (hresources : 0 < options.maxResources) :
    ∃ e, (create options link factory).start now = some (.ok (), e) ∧
      Host.Awaits options.maxSlots options.overloads e.host.registry ∧ e.decoder = {} ∧
      e.factory = factory ∧ e.initLimit = 1000000 := by
  obtain ⟨e, timer, hstart, hsolitary, _, hdecoder, hfactory, hlimit⟩ :=
    exists_solitary options link factory 1000000 now hslots hresources
  exact ⟨e, hstart, hsolitary.awaits rfl, hdecoder, hfactory, hlimit⟩

/-! ### The table -/

/-- The frame of a packet is as good as the packet, to a decoder that is at its beginning. -/
lemma feed_wire {packet : Packet} {core : CoreId} (hdecoder : e.decoder = {}) (now : Nat)
    (hlength : packet.toBytes.length ≤ Packet.maxLength)
    (hvalid : Frame.validate (Crc.withTrailer packet.toBytes) = .ok { core, packet := packet.toBytes })
    (hpacket : Packet.ofBytes packet.toBytes = .ok packet) :
    ∃ e₁ : Engine L P, e₁.host.registry = e.host.registry ∧ e₁.host.timers = e.host.timers ∧
      e₁.factory = e.factory ∧ e₁.initLimit = e.initLimit ∧
      e.feed now (Frame.wire packet.toBytes) = (e₁.route now core packet).map fun r => ([r.1], r.2) := by
  let decoder := (({} : Decoder).step Frame.delimiter).1.begun 1
  let frame := Crc.withTrailer packet.toBytes
  -- the decoder is new, so the wire gives out one frame, and nothing is left over
  have hdecode : e.decoder.feed (Frame.wire packet.toBytes) = (decoder, [.frame frame]) := by
    have hdecode := Decoder.feed_wires_of_wellFormed .fresh (List.cons_ne_nil packet.toBytes [])
      (by simpa using hlength)
    rw [List.map_singleton, List.flatten_singleton] at hdecode
    rw [hdecoder]
    exact hdecode
  -- what the engine is after it counted the bytes and showed the frame
  let e₂ : Engine L P := { e.mapStats fun s =>
    { s with bytesRead := s.bytesRead + (Frame.wire packet.toBytes).length } with decoder }
  let e₁ := if e₂.host.transmitter.trace then e₂.dump (.accepted frame) else e₂
  have hdispatch : e₂.dispatch now frame = e₁.route now core packet := by
    simp only [dispatch, frame, hvalid, hpacket]
    rfl
  have hfeed : e.feed now (Frame.wire packet.toBytes) = e₂.dispatchAll now [frame] := by
    have hdecode' : (e.mapStats fun s =>
        { s with bytesRead := s.bytesRead + (Frame.wire packet.toBytes).length }).decoder.feed
          (Frame.wire packet.toBytes) = (decoder, [.frame frame]) := hdecode
    rw [feed, hdecode']
    simp [decoded, Emission.discards, Emission.frames, e₂]
  refine ⟨e₁, ?_, ?_, ?_, ?_, ?_⟩
  · simp only [e₁]
    split_ifs <;> rfl
  · simp only [e₁]
    split_ifs <;> rfl
  · simp only [e₁]
    split_ifs <;> rfl
  · simp only [e₁]
    split_ifs <;> rfl
  · rw [hfeed, dispatchAll, hdispatch]
    cases e₁.route now core packet <;> rfl

/-- A packet comes to the driver in the slot that its core is bound to. -/
lemma route_of_call {core : CoreId} {slot : SlotId} {packet : Packet} {result : Option Unit}
    (hroute : e.host.registry.route core = some slot)
    (hcall : (e.mapStats fun s => { s with packetsAccepted := s.packetsAccepted + 1 }).call now slot
      (.packet packet) = some (result, e')) :
    e.route now core packet = some (.delivered slot,
      e'.mapStats fun s => { s with packetsRouted := s.packetsRouted + 1 }) := by
  have haccepted : (e.mapStats fun s =>
      { s with packetsAccepted := s.packetsAccepted + 1 }).host.registry.route core = some slot := hroute
  simp only [route, haccepted, hcall]
  rfl

/-- The table comes to an engine that waits for it, and the drivers that it loads are initialised. -/
lemma route_table (now : Nat) {n : Nat} {o : Overloads} {p : Packet} {ids : CoreId → UInt16}
    (hawaits : Host.Awaits n o e.host.registry) (hn : n ≤ 65536) (ho : o.Fits n)
    (hpos : ∀ p ∈ o, 0 < p.1) (hlimit : n ≤ e.initLimit)
    (hquiet : ∀ name driver, e.factory.create name = some driver → driver.Unobtrusive)
    (hanswer : table? p = some (tableOf ids)) :
    ∃ e', e.route now .zero p = some (.delivered .enumerator, e') ∧
      Host.Equipped ids (tableLoads n o ids) e.host.registry e'.host.registry := by
  let e₁ := e.mapStats fun s => { s with packetsAccepted := s.packetsAccepted + 1 }
  obtain ⟨h', hcall, hequipped, hfilled⟩ := Host.call_table (e₁.setting now)
    (h := e₁.host) hawaits hn ho hpos hanswer (zip_words_tableOf ids)
  have htargets (l : Load) (hl : l ∈ tableLoads n o ids) : l.target ≠ .enumerator :=
    (Host.target_of_mem_tableLoads hn ho hpos hl).2
  -- every load takes a slot of its own, so the slots to initialise are within the limit
  have hlength : ((tableLoads n o ids).map Load.target).length ≤ e.initLimit := by
    rw [List.length_map]
    exact Nat.le_trans (length_tableLoads_le ho hpos) hlimit
  obtain ⟨h'', hinit, hspares⟩ := Host.initialise_spares (e₁.setting now)
    (h := (e₁.withHost h').host) hlength (Host.nodup_targets hn ho hpos) (by
      intro slot hslot s inst hs hinst
      obtain ⟨l, hl, rfl⟩ := List.mem_map.mp hslot
      obtain ⟨s', hs', hcreate⟩ := hfilled l hl
      cases hs.symm.trans hs'
      rw [hinst] at hcreate
      exact hquiet l.name inst.driver hcreate.symm)
  have hcalled : e₁.call now .enumerator (.packet p) =
      some (some (), (e₁.withHost h').withHost h'') := call_of_host hcall hinit
  exact ⟨_, route_of_call hawaits.route hcalled, hequipped.spares hspares htargets⟩

/-- A session that asks for the table gets it at once. -/
lemma request_table {s : Slot (Instance P)} {en : Enumerator} {ids : CoreId → UInt16}
    (hs : e.host.registry.slot? .enumerator = some s) (hhouses : Host.Houses s en)
    (hnumbers : ∀ c, (e.host.registry.core c).driverId = ids c) (session : SessionId) (now : Nat) :
    ∃ e', e.request now .enumerator tableResource session .get =
        some (.ok (.reply (lineOf ids)), e') ∧
      e'.host.outbox = e.host.outbox.answer session (lineOf ids) := by
  obtain ⟨h', hcall, houtbox⟩ := Host.call_request (e.setting now) hs hhouses hnumbers session
  have hfind : e.findResource .enumerator tableResource =
      .ok (tableIndex, { name := tableResource, flags := 0x01 }) := by
    have hget : e.host.registry.getSlot .enumerator = .ok s := by
      simp only [Registry.getSlot, hs]
    have hindex : s.resourceIndex tableResource = some tableIndex := by
      rw [Slot.resourceIndex, hhouses.resources]
      decide
    have hresource : s.resource? tableIndex = some { name := tableResource, flags := 0x01 } := by
      rw [Slot.resource?, hhouses.resources]
      rfl
    refine except_bind_eq_ok.mpr ⟨s, hget, ?_⟩
    simp only [hindex, hresource]
    rfl
  have hscreen : screen tableResource { name := tableResource, flags := 0x01 } .get = .ok () := by decide
  have hcalled := call_of_host hcall (Host.initialise_nil _ _ _)
  rw [renderTable_eq] at hcalled
  have hrequest : e.request now .enumerator tableResource session .get =
      some (((e.withHost h').withHost (e.withHost h').host).settle now .enumerator tableIndex session
        (.ok (.reply (lineOf ids)))) := by
    simp only [request, hfind, hscreen, hcalled]
  refine ⟨_, hrequest, ?_⟩
  exact congrArg (fun o : Outbox => o.answer session (lineOf ids)) houtbox

/-! ### Slots and cores after the table -/

/-- What a table makes of slots and cores, with what the configuration assigns. -/
structure Enumerated (config : Config) (ids : CoreId → UInt16) (r r' : Registry (Instance P)) :
    Prop where
  numbers : ∀ c, (r'.core c).driverId = ids c
  loaded : ∀ c name, ids c ≠ 0 → rank ids c < config.maxSlots →
    config.nameFor (rank ids c) (ids c) = some name →
      (r'.core c).slot = some (.ofNat (rank ids c)) ∧
        (r'.slot? (.ofNat (rank ids c))).map Slot.label = some (name, some c)
  nameless : ∀ c, ids c ≠ 0 → rank ids c < config.maxSlots →
    config.nameFor (rank ids c) (ids c) = none →
      (r'.core c).slot = (r.core c).slot ∧ r'.slot? (.ofNat (rank ids c)) = none
  beyond : ∀ c, ids c ≠ 0 → config.maxSlots ≤ rank ids c → (r'.core c).slot = (r.core c).slot
  unnumbered : ∀ c, ids c = 0 → (r'.core c).slot = (r.core c).slot
  spare : ∀ o ∈ config.overloads, (numbered ids).length < o.slot →
    (r'.slot? (.ofNat o.slot)).map Slot.label = some (o.driver, none)
  enumerator : ∃ s e, r'.slot? .enumerator = some s ∧ Host.Houses s e
  free : ∀ id ≠ .enumerator,
    (∀ c name, ids c ≠ 0 → rank ids c < config.maxSlots →
      config.nameFor (rank ids c) (ids c) = some name → id ≠ .ofNat (rank ids c)) →
    (∀ o ∈ config.overloads, (numbered ids).length < o.slot → id ≠ .ofNat o.slot) →
      r'.slot? id = none

section Enumerated

variable {config : Config} {ids : CoreId → UInt16} {l : Load}

/-- What a table leads to be loaded with the assignments of a valid configuration. -/
private lemma mem_tableLoads_iff (hvalid : config.validate = .ok ()) :
    l ∈ tableLoads config.maxSlots config.options.overloads ids ↔
      (∃ c name, ids c ≠ 0 ∧ rank ids c < config.maxSlots ∧
        config.nameFor (rank ids c) (ids c) = some name ∧ l = ⟨rank ids c, name, some c⟩) ∨
      ∃ o ∈ config.overloads, (numbered ids).length < o.slot ∧ l = ⟨o.slot, o.driver, none⟩ := by
  obtain ⟨hfits, hslots⟩ := Config.get?_overloads_of_validate hvalid
  rw [tableLoads, List.mem_append, mem_coreLoads,
    mem_overloadLoads hfits fun p => Config.pos_of_mem_overloads hvalid]
  simp only [Config.driverFor_eq hvalid]
  refine or_congr_right ⟨?_, ?_⟩
  · rintro ⟨k, name, hget, hk, rfl⟩
    obtain ⟨o, ho, rfl, rfl⟩ :=
      Config.exists_of_overloadFor ((Config.get?_overloads_eq hvalid k).symm.trans hget)
    exact ⟨o, ho, hk, rfl⟩
  · rintro ⟨o, ho, hk, rfl⟩
    exact ⟨o.slot, o.driver, (hslots o ho).2.2, hk, rfl⟩

/-- A core gets its driver through the load for it alone. -/
private lemma core_of_mem_tableLoads (hvalid : config.validate = .ok ()) {c : CoreId}
    (hl : l ∈ tableLoads config.maxSlots config.options.overloads ids) (hcore : l.core = some c) :
    ids c ≠ 0 ∧ rank ids c < config.maxSlots ∧ config.nameFor (rank ids c) (ids c) = some l.name := by
  rcases (mem_tableLoads_iff hvalid).mp hl with ⟨c', name, hid, hlt, hname, rfl⟩ | ⟨o, _, _, rfl⟩
  · cases hcore
    exact ⟨hid, hlt, hname⟩
  · cases hcore

/-- Without a driver for it, nothing is loaded into the slot that a core comes to. -/
private lemma slot_ne_of_nameless (hvalid : config.validate = .ok ()) {c : CoreId} (hid : ids c ≠ 0)
    (hname : config.nameFor (rank ids c) (ids c) = none)
    (hl : l ∈ tableLoads config.maxSlots config.options.overloads ids) : l.slot ≠ rank ids c := by
  rcases (mem_tableLoads_iff hvalid).mp hl with ⟨c', name, hid', _, hname', rfl⟩ | ⟨o, _, hk, rfl⟩
  · intro hrank
    obtain rfl : c' = c := eq_of_rank_eq hid' hid hrank
    rw [hname] at hname'
    cases hname'
  · exact Nat.ne_of_gt (Nat.lt_of_le_of_lt (rank_le hid) hk)

omit [Driver P] in
/-- What the loads come to, in words of the table and the configuration. -/
private lemma enumerated_of_equipped {r r' : Registry (Instance P)} (hvalid : config.validate = .ok ())
    (hmax : config.maxSlots ≤ 65536)
    (h : Host.Equipped ids (tableLoads config.maxSlots config.options.overloads ids) r r') :
    Enumerated config ids r r' := by
  have hfits := (Config.get?_overloads_of_validate hvalid).1
  -- slots are numbers below 65536, so loads for different slots have different targets
  have hlt {l : Load} (hl : l ∈ tableLoads config.maxSlots config.options.overloads ids) :
      l.slot < 65536 :=
    Nat.lt_of_lt_of_le (slot_of_mem_tableLoads hfits (fun p => Config.pos_of_mem_overloads hvalid) hl).2
      hmax
  have hunbound (c : CoreId) (hc : ids c ≠ 0 → rank ids c < config.maxSlots →
      config.nameFor (rank ids c) (ids c) = none) : (r'.core c).slot = (r.core c).slot := by
    refine h.unbound c fun l hl hcore => ?_
    obtain ⟨hid, hrank, hname⟩ := core_of_mem_tableLoads hvalid hl hcore
    rw [hc hid hrank] at hname
    cases hname
  constructor
  · exact h.numbers
  · intro c name hid hrank hname
    have hl := (mem_tableLoads_iff hvalid).mpr (.inl ⟨c, name, hid, hrank, hname, rfl⟩)
    exact ⟨h.bound _ hl c rfl, h.loaded _ hl⟩
  · intro c hid hrank hname
    refine ⟨hunbound c fun _ _ => hname, h.free _ (fun hzero => ?_) fun l hl heq => ?_⟩
    · have hrank' := SlotId.toNat_ofNat (Nat.lt_of_lt_of_le hrank hmax)
      rw [hzero] at hrank'
      exact Nat.succ_ne_zero _ hrank'.symm
    · exact slot_ne_of_nameless hvalid hid hname hl
        ((SlotId.ofNat_inj (hlt hl) (Nat.lt_of_lt_of_le hrank hmax)).mp heq)
  · exact fun c _ hrank => hunbound c fun _ hlt => absurd hlt (Nat.not_lt_of_le hrank)
  · exact fun c hid => hunbound c fun hid' => absurd hid hid'
  · intro o ho hk
    exact h.loaded _ ((mem_tableLoads_iff hvalid).mpr (.inr ⟨o, ho, hk, rfl⟩))
  · obtain ⟨s, e, hs, hhouses, _⟩ := h.enumerator
    exact ⟨s, e, hs, hhouses⟩
  -- a slot that no load is meant for stays free
  · intro id hid hcores hspare
    refine h.free id hid fun l hl heq => ?_
    rcases (mem_tableLoads_iff hvalid).mp hl with ⟨c, name, hne, hrank, hname, rfl⟩ | ⟨o, ho, hk, rfl⟩
    · exact hcores c name hne hrank hname heq.symm
    · exact hspare o ho hk heq.symm

end Enumerated

/-! ### The whole of it -/

/-- A new engine that gets the board's answer does with the table in it what the configuration
says, and users can read the table from then on. -/
theorem enumerated_of_feed {config : Config} {factory : Factory P} {command core : UInt8}
    (hvalid : config.validate = .ok ()) (hmax : config.maxSlots ≤ 65536)
    (hquiet : ∀ name driver, factory.create name = some driver → driver.Unobtrusive)
    (hreturns : (Operation.ofCommand command).returnsData = true) (hreply : command &&& replyBit ≠ 0)
    (hcore : CoreId.ofWire core = .ok .zero) (link : L) (started now : Nat) (ids : CoreId → UInt16) :
    ∃ (e e' : Engine L P) (bytes : Bytes),
      (create config.options link factory).start started = some (.ok (), e) ∧
      Frame.encode (replyOf command core ids).toBytes = .ok bytes ∧
      e.feed now bytes = some ([.delivered .enumerator], e') ∧
      Enumerated config ids e.host.registry e'.host.registry ∧
      ∀ later session, ∃ e'', e'.request later .enumerator tableResource session .get =
          some (.ok (.reply (lineOf ids)), e'') ∧
        e''.host.outbox = e'.host.outbox.answer session (lineOf ids) := by
  obtain ⟨hslots, hresources, _⟩ := Config.checks_of_validate hvalid
  obtain ⟨hfits, _⟩ := Config.get?_overloads_of_validate hvalid
  obtain ⟨e, hstart, hawaits, hdecoder, hfactory, hlimit⟩ :=
    exists_start config.options link factory started hslots hresources
  -- the answer is a single frame, and comes to the enumerator
  have hshort := length_replyOf_le command core ids
  obtain ⟨e₁, hregistry, _, hfactory₁, hlimit₁, hfeed⟩ := feed_wire hdecoder now hshort
    (validate_replyOf hreturns hcore) (Packet.ofBytes_toBytes hshort)
  rw [← hregistry] at hawaits
  have hlimit₁ : config.maxSlots ≤ e₁.initLimit := by
    rw [hlimit₁, hlimit]
    exact Nat.le_trans hmax (by decide)
  have hquiet₁ : ∀ name driver, e₁.factory.create name = some driver → driver.Unobtrusive := by
    rw [hfactory₁, hfactory]
    exact hquiet
  obtain ⟨e', hroute, hequipped⟩ := route_table now hawaits hmax hfits
    (fun p => Config.pos_of_mem_overloads hvalid) hlimit₁ hquiet₁ (table?_replyOf hreturns hreply)
  rw [hregistry] at hequipped
  refine ⟨e, e', _, hstart, Frame.encode_of_le hshort, ?_,
    enumerated_of_equipped hvalid hmax hequipped, fun later session => ?_⟩
  · rw [hfeed, hroute, Option.map_some]
  · obtain ⟨s, en, hs, hhouses, _⟩ := hequipped.enumerator
    exact request_table hs hhouses hequipped.numbers session later

/-- A configuration that assigns a slot among those of the board's cores and one beyond them. -/
def mixedConfig : Config :=
  { maxSlots := 8, overloads := [{ slot := 2, driver := "special" }, { slot := 7, driver := "special" }] }

/-- Three cores have a number of the catalog, and one has a number that is not in it. -/
def mixedIds (c : CoreId) : UInt16 := [42, 24, 0, 999, 24].getD c 0

/-- A driver that adds a resource when it is initialised. -/
def greeter : Occupant TestDriver :=
  .loaded (.scripted { rules := [
    { kind := .init, conditions := [], steps := [{ action := .addResource "input" 0x01 }] }] })

/-- Such a driver for three names. -/
def greeters : Factory TestDriver where
  drivers := ["bb4io", "out4", "special"].map fun name => (name, greeter)

private lemma unobtrusive_greeter : greeter.Unobtrusive := by
  have hinit : (greeter.respond .init).Follows (fun _ op => op.staysHome) (fun _ _ => True) ∅ := by
    -- it looks at its slot, notes the call, adds the resource and notes what that came to
    refine ⟨rfl, fun _ => ⟨rfl, fun () => ⟨rfl, fun added => ⟨rfl, fun () => ?_⟩⟩⟩⟩
    match added with
    | .ok _ => exact trivial
    | .error _ => exact trivial
  exact Occupant.unobtrusive_of_follows hinit

lemma unobtrusive_of_greeters (name : String) (driver : Occupant TestDriver)
    (hcreate : greeters.create name = some driver) : driver.Unobtrusive := by
  obtain ⟨_, _, heq⟩ := List.mem_map.mp (mem_of_lookup_eq_some hcreate)
  cases heq
  exact unobtrusive_greeter

/-- The slot that is assigned gets the driver assigned to it, the number that is not in the catalog
leaves its slot free, and the assignment beyond the cores gets a slot without a core. -/
theorem enumerated_of_feed_mixed :
    mixedConfig.validate = .ok () ∧ mixedConfig.maxSlots ≤ 65536 ∧
    (∀ name driver, greeters.create name = some driver → driver.Unobtrusive) ∧
    (Operation.ofCommand 0xF6).returnsData = true ∧ (0xF6 : UInt8) &&& replyBit ≠ 0 ∧
    CoreId.ofWire 0xE0 = .ok .zero ∧
    ∃ (e e' e'' : Engine MemoryLink TestDriver) (bytes : Bytes),
      (create mixedConfig.options {} greeters).start 0 = some (.ok (), e) ∧
      Frame.encode (replyOf 0xF6 0xE0 mixedIds).toBytes = .ok bytes ∧
      e.feed 50 bytes = some ([.delivered .enumerator], e') ∧
      (e'.host.registry.slot? (.ofNat 1)).map Slot.label = some ("bb4io", some .zero) ∧
      (e'.host.registry.slot? (.ofNat 2)).map Slot.label = some ("special", some ⟨1, by decide⟩) ∧
      e'.host.registry.slot? (.ofNat 3) = none ∧
      (e'.host.registry.slot? (.ofNat 4)).map Slot.label = some ("out4", some ⟨4, by decide⟩) ∧
      (e'.host.registry.slot? (.ofNat 7)).map Slot.label = some ("special", none) ∧
      e'.request 60 .enumerator tableResource ⟨1⟩ .get = some (.ok (.reply
        ("002a 0018 0000 03e7 0018 0000 0000 0000 0000 0000 0000 0000 0000 0000 0000 0000" ++ "\n")),
        e'') := by
  have hvalid : mixedConfig.validate = .ok () := by decide
  have hmax : mixedConfig.maxSlots ≤ 65536 := by decide
  have hreturns : (Operation.ofCommand 0xF6).returnsData = true := by decide
  have hreply : (0xF6 : UInt8) &&& replyBit ≠ 0 := by decide
  have hcore : CoreId.ofWire 0xE0 = .ok .zero := by decide
  have hline : lineOf mixedIds =
      "002a 0018 0000 03e7 0018 0000 0000 0000 0000 0000 0000 0000 0000 0000 0000 0000" ++ "\n" := by
    decide +kernel
  obtain ⟨e, e', bytes, hstart, hbytes, hfeed, hdone, hread⟩ := enumerated_of_feed hvalid hmax
    unobtrusive_of_greeters hreturns hreply hcore ({} : MemoryLink) 0 50 mixedIds
  obtain ⟨e'', hrequest, _⟩ := hread 60 ⟨1⟩
  rw [hline] at hrequest
  refine ⟨hvalid, hmax, unobtrusive_of_greeters, hreturns, hreply, hcore, e, e', e'', bytes, hstart,
    hbytes, hfeed, (hdone.loaded .zero "bb4io" ?_ ?_ ?_).2,
    (hdone.loaded ⟨1, by decide⟩ "special" ?_ ?_ ?_).2, (hdone.nameless ⟨3, by decide⟩ ?_ ?_ ?_).2,
    (hdone.loaded ⟨4, by decide⟩ "out4" ?_ ?_ ?_).2,
    hdone.spare { slot := 7, driver := "special" } ?_ ?_, hrequest⟩
  all_goals decide

end Engine

end BoardLink
