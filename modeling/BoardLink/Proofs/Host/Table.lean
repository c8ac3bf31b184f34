import BoardLink.Proofs.Bytes
import BoardLink.Proofs.Driver.Enumerator
import BoardLink.Proofs.Host.Layout
import BoardLink.Proofs.Host.Loading
import BoardLink.Proofs.Host.Newcomers
import BoardLink.Proofs.Registry.Occupants

/-!
# The enumerator and the table

The enumerator takes core 0 and waits alone. When the table comes, it notes the number of each core
and loads what the table leads to, and it is still in its slot after that.
-/

namespace BoardLink

namespace Registry

variable {D : Type} {r r' r'' : Registry D} {id : SlotId} {s : Slot D} {driver : D}
  {generation : UInt32}

/-- The numbers of all cores, one by one. -/
lemma driverIds_eq (r : Registry D) : r.driverIds = CoreId.all.map fun c => (r.core c).driverId := by
  refine List.ext_getElem (by simp [driverIds, CoreId.all]) fun i _ _ => ?_
  simp [driverIds, CoreId.all, core]

/-- Nothing but driver numbers of cores differs. -/
structure Noted (r r' : Registry D) : Prop where
  slots : Unchanged r r'
  generation? : ∀ id, r'.generation? id = r.generation? id
  bindings : ∀ c, (r'.core c).slot = (r.core c).slot

lemma Noted.refl (r : Registry D) : Noted r r := ⟨.refl r, fun _ => rfl, fun _ => rfl⟩

lemma Noted.trans (h : Noted r r') (h' : Noted r' r'') : Noted r r'' where
  slots := ⟨h'.slots.maxSlots.trans h.slots.maxSlots,
    fun id => (h'.slots.slot? id).trans (h.slots.slot? id)⟩
  generation? id := (h'.generation? id).trans (h.generation? id)
  bindings c := (h'.bindings c).trans (h.bindings c)

lemma noted_setDriverId (r : Registry D) (c : CoreId) (number : UInt16) :
    Noted r (r.setDriverId c number) := by
  refine ⟨unchanged_setCore r c _, fun _ => rfl, fun c' => ?_⟩
  rw [setDriverId, core_setCore]
  split_ifs with hc
  · rw [hc]
  · rfl

lemma Updated.trans {s' : Slot D} (h : Updated r id s r') (h' : Updated r' id s' r'') :
    Updated r id s' r'' := by
  refine ⟨h'.maxSlots.trans h.maxSlots, fun id' => ?_⟩
  rw [h'.slot?, h.slot?]
  split_ifs
  · rfl
  · rfl

/-- A driver comes back to its slot if the slot is in the same generation and without a driver. -/
lemma updated_restoreDriver (hgeneration : r.generation? id = some generation)
    (hs : r.slot? id = some s) (hdriver : s.driver = none) (driver : D) :
    Updated r id { s with driver := some driver } (r.restoreDriver id driver generation) := by
  obtain ⟨g, hplace⟩ := place_of_slot? hs
  have hg : g = generation := by
    rw [Registry.generation?, hplace, Option.map_some] at hgeneration
    exact Option.some.inj hgeneration
  simp only [restoreDriver, hplace]
  rw [if_pos ⟨hg, by simp [Slot.hasDriver, hdriver]⟩]
  exact updated_setSlot hs _

end Registry

namespace Host

open Enumerator

variable {L P : Type} [Link L] {setting : Setting P} {slot : SlotId} {h : Host L P}
  {ids : CoreId → UInt16}

/-! ### Programs of the enumerator -/

lemma run_cancelAck (setting : Setting P) (slot : SlotId) (e : Enumerator) (h : Host L P) :
    ∃ h', run setting slot e.cancelAck h = ({ e with ackTimer := none }, h', []) ∧
      h'.registry = h.registry := by
  simp only [cancelAck]
  cases htimer : e.ackTimer with
  | none =>
    refine ⟨h, ?_, rfl⟩
    show (e, h, []) = _
    rw [← htimer]
  | some id => exact ⟨_, run_bind (run_perform rfl) rfl, rfl⟩

/-- The timer that bounds the wait for the table is known if there was room for it. -/
def ArmsAck (setting : Setting P) (slot : SlotId) (t : TimerTable) (timer : Option TimerId)
    (t' : TimerTable) : Prop :=
  ∀ id timers, t.add .oneShot setting.ackTimeout slot ackToken setting.now = .ok (id, timers) →
    timer = some id ∧ t' = timers

lemma run_requestTable (setting : Setting P) (slot : SlotId) {e : Enumerator}
    (htimer : e.ackTimer = none) (h : Host L P) :
    ∃ h' timer, run setting slot e.requestTable h = ({ e with ackTimer := timer }, h', []) ∧
      h'.registry = h.registry ∧ ArmsAck setting slot h.timers timer h'.timers := by
  simp only [requestTable, htimer]
  let read := Packet.read .zero tableRegister (UInt8.ofNat tableLength)
  have hsend : h.perform setting slot (.sendTo .zero read) =
      ((h.sendTo .zero read).1, (h.sendTo .zero read).2) := rfl
  -- a full table is no failure here: the request goes out and no timer guards it
  rcases hadd : (h.sendTo .zero read).2.timers.add .oneShot setting.ackTimeout slot ackToken
    setting.now with err | ⟨id, timers⟩
  · have hperform : (h.sendTo .zero read).2.perform setting slot
        (.addTimer .oneShot setting.ackTimeout ackToken) = (.error err, (h.sendTo .zero read).2) := by
      simp only [perform, hadd]
    refine ⟨(h.sendTo .zero read).2, none, ?_, rfl, fun id timers hok => ?_⟩
    · rw [← htimer]
      exact run_bind (run_perform hsend) (run_bind (run_perform rfl)
        (run_bind (run_perform hperform) rfl))
    · cases hadd.symm.trans hok
  · have hperform : (h.sendTo .zero read).2.perform setting slot
        (.addTimer .oneShot setting.ackTimeout ackToken) =
        (.ok id, { (h.sendTo .zero read).2 with timers }.record (.armed id slot)) := by
      simp only [perform, hadd]
    refine ⟨{ (h.sendTo .zero read).2 with timers }.record (.armed id slot), some id, ?_, rfl,
      fun id' timers' hok => ?_⟩
    · exact run_bind (run_perform hsend) (run_bind (run_perform rfl)
        (run_bind (run_perform hperform) rfl))
    · cases hadd.symm.trans hok
      exact ⟨rfl, rfl⟩

/-- The enumerator names its slot, adds the resource and takes core 0. -/
lemma run_init (setting : Setting P) {e : Enumerator} {s : Slot (Instance P)}
    (hs : h.registry.slot? slot = some s) (hresources : s.resources = []) (hroom : 0 < s.maxResources)
    (hcore : (h.registry.core .zero).slot = none) (htimer : e.ackTimer = none) :
    ∃ h' timer s', run setting slot e.init h = ((.ok (), { e with ackTimer := timer }), h', []) ∧
      Registry.Updated h.registry slot s' h'.registry ∧ s'.driverName = s.driverName ∧
      s'.resources = [{ name := tableResource, flags := 0x01 }] ∧ s'.driver = s.driver ∧
      (∀ id, h'.registry.generation? id = h.registry.generation? id) ∧
      (∀ c, (h'.registry.core c).slot = if c = .zero then some slot else (h.registry.core c).slot) ∧
      ArmsAck setting slot h.timers timer h'.timers := by
  -- the four operations of `init` one after the other, each with the registry it leaves
  let named := { s with
    name := Enumerator.name, description := "The table of driver IDs for this FPGA image" }
  let h₁ : Host L P := { h with registry := h.registry.setSlot slot named }
  have hname : h.perform setting slot
      (.setIdentity Enumerator.name "The table of driver IDs for this FPGA image") = (.ok (), h₁) := by
    simp only [perform, onSlot, Registry.getSlot, hs]
    rfl
  have hnamed := Registry.updated_setSlot hs named
  have hs₁ : h₁.registry.slot? slot = some named := (hnamed.slot? slot).trans (if_pos rfl)
  let shown := { named with resources := [{ name := tableResource, flags := 0x01 }] }
  let h₂ : Host L P := { h₁ with registry := h₁.registry.setSlot slot shown }
  have hadd : h₁.perform setting slot (.addResource { name := tableResource, flags := 0x01 }) = (.ok 0, h₂) := by
    have hresource : named.addResource { name := tableResource, flags := 0x01 } = .ok (0, shown) := by
      have hnone : named.resources = [] := hresources
      rw [Slot.addResource, hnone]
      exact if_pos hroom
    simp only [perform, onSlot, Registry.getSlot, hs₁, hresource]
    rfl
  have hshown := Registry.updated_setSlot hs₁ shown
  have hs₂ : h₂.registry.slot? slot = some shown := (hshown.slot? slot).trans (if_pos rfl)
  let taken := { shown with core := some .zero }
  let h₃ : Host L P :=
    { h₂ with registry := (h₂.registry.setSlot slot taken).setCoreSlot .zero (some slot) }
  have hbind : h₂.perform setting slot (.bindCore .zero) = (.ok (), h₃) := by
    have hfree : (h₂.registry.core .zero).slot = none := hcore
    simp only [perform, Registry.bindCore, hfree, hs₂]
    rfl
  have htaken := (Registry.updated_setSlot hs₂ taken).unchanged
    (Registry.unchanged_setCore (h₂.registry.setSlot slot taken) .zero
      { h.registry.core .zero with slot := some slot })
  obtain ⟨h', timer, hrequest, hsame, harms⟩ := run_requestTable setting slot htimer h₃
  refine ⟨h', timer, taken, ?_, ?_, rfl, rfl, rfl, fun id => ?_, fun c => ?_, harms⟩
  · exact run_bind (run_perform hname) (run_bind (run_perform hadd) (run_bind (run_perform hbind)
      (run_map _ hrequest)))
  · rw [hsame]
    exact (hnamed.trans hshown).trans htaken
  -- none of the four touches a generation
  · rw [hsame]
    show ((h₂.registry.setSlot slot taken).setCoreSlot .zero (some slot)).generation? id = _
    rw [Registry.generation?_setCoreSlot, Registry.generation?_setSlot]
    show ((h.registry.setSlot slot named).setSlot slot shown).generation? id = _
    rw [Registry.generation?_setSlot, Registry.generation?_setSlot]
  · rw [hsame]
    exact Registry.rebound_setCoreSlot (h₂.registry.setSlot slot taken) .zero (some slot) c

/-- The cores of the list get their numbers, and the others keep theirs. -/
lemma run_recordIds (setting : Setting P) (slot : SlotId) (ids : CoreId → UInt16)
    (cores : List CoreId) (h : Host L P) :
    ∃ h', run setting slot (recordIds (cores.map fun c => (c, ids c))) h = ((), h', []) ∧
      Registry.Noted h.registry h'.registry ∧
      (∀ c ∈ cores, (h'.registry.core c).driverId = ids c) ∧
      ∀ c ∉ cores, (h'.registry.core c).driverId = (h.registry.core c).driverId := by
  induction cores generalizing h with
  | nil => exact ⟨h, rfl, .refl _, fun _ hc => absurd hc List.not_mem_nil, fun _ _ => rfl⟩
  -- a later entry of the same core would overwrite the number, which is why membership is asked first
  | cons c cores ih =>
    obtain ⟨h', hrun, hnoted, hmem, hother⟩ := ih (h.command (.setDriverId c (ids c))).2
    have hcore (c' : CoreId) : ((h.command (.setDriverId c (ids c))).2.registry.core c').driverId =
        if c' = c then ids c else (h.registry.core c').driverId := by
      show ((h.registry.setDriverId c (ids c)).core c').driverId = _
      rw [Registry.setDriverId, Registry.core_setCore]
      split_ifs
      · rfl
      · rfl
    refine ⟨h', run_bind (run_perform rfl) hrun,
      (Registry.noted_setDriverId h.registry c (ids c)).trans hnoted, fun c' hc' => ?_,
      fun c' hc' => ?_⟩
    · by_cases htail : c' ∈ cores
      · exact hmem c' htail
      · obtain rfl : c' = c := (List.mem_cons.mp hc').resolve_right htail
        rw [hother c' htail, hcore, if_pos rfl]
    · obtain ⟨hne, htail⟩ := List.ne_and_not_mem_of_not_mem_cons hc'
      rw [hother c' htail, hcore, if_neg hne]

/-- The enumerator notes the numbers in the table and loads what the table leads to. -/
lemma run_enumerate (setting : Setting P) (slot : SlotId) {e : Enumerator} {table : Bytes} {n : Nat}
    (htable : CoreId.all.zip table.words = CoreId.all.map fun c => (c, ids c))
    (hmax : h.registry.maxSlots = n) (hfits : e.overloads.Fits n)
    (hloadable : ∀ r, Registry.Noted h.registry r → Loadable (tableLoads n e.overloads ids) r) :
    ∃ h' r, run setting slot (e.enumerate table) h =
        ({ e with enumerated := true, overloads := [] }, h',
          (tableLoads n e.overloads ids).map Load.target) ∧
      Registry.Noted h.registry r ∧ (∀ c, (r.core c).driverId = ids c) ∧
      Laid setting.factory (tableLoads n e.overloads ids) r h'.registry := by
  obtain ⟨h₁, hrecord, hnoted, hnumbers, _⟩ := run_recordIds setting slot ids CoreId.all h
  obtain ⟨h', hloads, hlaid⟩ := run_loads setting slot h₁ (hloadable h₁.registry hnoted)
  refine ⟨h', h₁.registry, ?_, hnoted, fun c => hnumbers c (List.mem_finRange c), hlaid⟩
  have hview : h₁.registry.outline.maxSlots = n := by
    rw [Registry.outline, Registry.maxSlots, Array.size_map]
    exact hnoted.slots.maxSlots.trans hmax
  have hload : run setting slot (loadCores h₁.registry.outline.maxSlots e.overloads 1
        (CoreId.all.map fun c => (c, ids c)) >>= fun overloads =>
        loadRemaining { e with enumerated := true, overloads }) h₁ =
      ({ e with enumerated := true, overloads := [] }, h',
        (tableLoads n e.overloads ids).map Load.target) := by
    rw [hview, loadTable_eq e hfits]
    exact run_map _ hloads
  -- what remains are the loads, listed beforehand by `tableLoads`
  rw [enumerate, htable]
  exact run_bind hrecord (run_bind (run_perform rfl) hload)

/-! ### Calls of a driver -/

/-- A driver is away for a call, and all else is as it was when its program begins. -/
lemma exists_taken [Driver P] (setting : Setting P) {s : Slot (Instance P)} {inst : Instance P}
    (hs : h.registry.slot? slot = some s) (hinst : s.driver = some inst) (c : Callback) :
    ∃ h₀ : Host L P, ∃ generation,
      Registry.Updated h.registry slot { s with driver := none } h₀.registry ∧
      (∀ c, h₀.registry.core c = h.registry.core c) ∧
      (∀ id, h₀.registry.generation? id = h.registry.generation? id) ∧
      h.registry.generation? slot = some generation ∧ h₀.outbox = h.outbox ∧ h₀.timers = h.timers ∧
      ∀ {result driver h₁ slots},
        run setting slot (inst.driver.respond c) h₀ = ((result, driver), h₁, slots) →
        h.call setting slot c = some (result, { h₁ with
          registry := h₁.registry.restoreDriver slot { inst with driver } generation }, slots) := by
  obtain ⟨generation, taken, htake⟩ := Registry.exists_takeDriver hs hinst
  obtain ⟨s', hs', _, hupdated⟩ := Registry.takeDriver_cases htake
  cases hs.symm.trans hs'
  obtain ⟨hgeneration, hgenerations⟩ := Registry.generation?_takeDriver htake
  refine ⟨{ h with registry := taken }.record (.called slot inst.serial c), generation, hupdated,
    Registry.core_takeDriver htake, hgenerations, hgeneration, rfl, rfl, fun hrun => ?_⟩
  simp only [call, htake, hrun]

/-! ### The enumerator in its slot -/

/-- The slot has the enumerator, with the resource that shows the table. -/
structure Houses (s : Slot (Instance P)) (e : Enumerator) : Prop where
  driverName : s.driverName = Enumerator.name
  resources : s.resources = [{ name := tableResource, flags := 0x01 }]
  driver : ∃ serial, s.driver = some { serial, driver := .enumerator e }

/-- The enumerator waits for the table, and no other slot is in use. -/
structure Awaits (n : Nat) (overloads : Overloads) (r : Registry (Instance P)) : Prop where
  maxSlots : r.maxSlots = n
  enumerator : ∃ s e, r.slot? .enumerator = some s ∧ Houses s e ∧ e.overloads = overloads ∧
    e.enumerated = false
  free : ∀ id ≠ .enumerator, r.slot? id = none
  bindings : ∀ c, (r.core c).slot = if c = .zero then some .enumerator else none

/-- Packets of core 0 come to the enumerator. -/
lemma Awaits.route {n : Nat} {o : Overloads} {r : Registry (Instance P)} (h : Awaits n o r) :
    r.route .zero = some .enumerator := by
  obtain ⟨s, _, hs, hhouses, _⟩ := h.enumerator
  obtain ⟨serial, hdriver⟩ := hhouses.driver
  have hbound : (r.core .zero).slot = some .enumerator := h.bindings .zero
  simp only [Registry.route, hbound, hs, Slot.hasDriver, hdriver, Option.isSome_some, if_true]

/-- The enumerator is in its slot and has its core, and no other slot is in use. -/
structure Solitary (n serial : Nat) (e : Enumerator) (r : Registry (Instance P)) : Prop where
  maxSlots : r.maxSlots = n
  enumerator : ∃ s, r.slot? .enumerator = some s ∧ Houses s e ∧
    s.driver = some { serial, driver := .enumerator e }
  free : ∀ id ≠ .enumerator, r.slot? id = none
  bindings : ∀ c, (r.core c).slot = if c = .zero then some .enumerator else none

lemma Solitary.awaits {n serial : Nat} {e : Enumerator} {r : Registry (Instance P)}
    (h : Solitary n serial e r) (hopen : e.enumerated = false) : Awaits n e.overloads r where
  maxSlots := h.maxSlots
  enumerator := by
    obtain ⟨s, hs, hhouses, _⟩ := h.enumerator
    exact ⟨s, e, hs, hhouses, rfl, hopen⟩
  free := h.free
  bindings := h.bindings

/-- A new enumerator in a slot of a new registry takes core 0, and then it waits. -/
lemma call_init [Driver P] (setting : Setting P) {n serial : Nat} {o : Overloads}
    {s : Slot (Instance P)} (hmax : h.registry.maxSlots = n) (hs : h.registry.slot? .enumerator = some s)
    (hname : s.driverName = Enumerator.name) (hresources : s.resources = [])
    (hroom : 0 < s.maxResources)
    (hdriver : s.driver = some { serial, driver := .enumerator (.ofOverloads o) })
    (hfree : ∀ id ≠ .enumerator, h.registry.slot? id = none)
    (hbindings : ∀ c, (h.registry.core c).slot = none) :
    ∃ h' timer, h.call setting .enumerator .init = some (.ok (), h', []) ∧
      Solitary n serial { Enumerator.ofOverloads o with ackTimer := timer } h'.registry ∧
      ArmsAck setting .enumerator h.timers timer h'.timers := by
  -- the instance is out while it runs; `exists_taken` lists what the run starts from
  obtain ⟨h₀, generation, htaken, hcores, hgenerations, hgeneration, -, htimers, hcall⟩ :=
    exists_taken setting hs hdriver .init
  obtain ⟨h₁, timer, s₁, hinit, hupdated, hname₁, hresources₁, hdriver₁, hgenerations₁, hbindings₁,
    harms⟩ := run_init setting (h := h₀) ((htaken.slot? _).trans (if_pos rfl)) hresources hroom
      (by rw [hcores, hbindings]) (e := .ofOverloads o) rfl
  -- nobody refilled the slot during the run, so the instance goes back
  have hgeneration₁ : h₁.registry.generation? .enumerator = some generation := by
    rw [hgenerations₁, hgenerations, hgeneration]
  have hback := Registry.updated_restoreDriver hgeneration₁
    ((hupdated.slot? _).trans (if_pos rfl)) hdriver₁
    { serial, driver := .enumerator { Enumerator.ofOverloads o with ackTimer := timer } }
  rw [htimers] at harms
  refine ⟨_, timer, hcall (run_bind hinit rfl), ⟨?_, ⟨_, (hback.slot? _).trans (if_pos rfl),
    ⟨hname₁.trans hname, hresources₁, serial, rfl⟩, rfl⟩, fun id hid => ?_, fun c => ?_⟩, harms⟩
  · exact ((hback.maxSlots.trans hupdated.maxSlots).trans htaken.maxSlots).trans hmax
  · rw [hback.slot?, if_neg hid, hupdated.slot?, if_neg hid, htaken.slot?, if_neg hid, hfree id hid]
  · rw [Registry.core_restoreDriver, hbindings₁, hcores, hbindings]

/-- A new host with room for it takes the enumerator in. -/
lemma exists_solitary [Driver P] (setting : Setting P) {maxSlots maxResources : Nat} (o : Overloads)
    (hregistry : h.registry = .empty maxSlots maxResources) (hslots : 0 < maxSlots)
    (hresources : 0 < maxResources) :
    ∃ h₁ h₂ h' timer, h.installFresh .enumerator Enumerator.name = .ok h₁ ∧
      h₁.setDriver .enumerator (.enumerator (.ofOverloads o)) = .ok h₂ ∧
      h₂.call setting .enumerator .init = some (.ok (), h', []) ∧
      Solitary maxSlots h.nextSerial { Enumerator.ofOverloads o with ackTimer := timer }
        h'.registry ∧
      ArmsAck setting .enumerator h.timers timer h'.timers := by
  -- the pool has room for slot 0, so the installation cannot fail
  have hsize : h.registry.maxSlots = maxSlots := by
    rw [hregistry]
    exact Array.size_replicate
  have hroom : SlotId.enumerator.toNat < h.registry.maxSlots := hsize ▸ hslots
  obtain ⟨r₁, hinstall⟩ := Registry.exists_install hroom Enumerator.name
  have hfresh : h.installFresh .enumerator Enumerator.name =
      .ok ({ h with registry := r₁ }.record (.installed .enumerator (h.holders .enumerator))) := by
    simp only [installFresh, hinstall]
    rfl
  have hinstalled := Registry.updated_install hinstall
  have hs₁ := (hinstalled.slot? .enumerator).trans (if_pos rfl)
  obtain ⟨r₂, hset⟩ : ∃ r₂, r₁.setDriver .enumerator
      { serial := h.nextSerial, driver := .enumerator (.ofOverloads o) } = .ok r₂ := by
    simp only [Registry.setDriver, Registry.getSlot, hs₁]
    exact ⟨_, rfl⟩
  obtain ⟨s, hs, hhired⟩ := Registry.setDriver_cases hset
  obtain rfl : _ = s := Option.some.inj (hs₁.symm.trans hs)
  -- the registry was empty, hence no core is bound yet
  have hunbound (c : CoreId) : (r₂.core c).slot = none := by
    have hnew : (h.registry.core c).slot = none := by
      rw [hregistry]
      simp [Registry.core, Registry.empty]
    rw [Registry.core_setDriver hset, Registry.install_bindings hinstall, hnew, ite_self]
  have hfree (id : SlotId) (hid : id ≠ .enumerator) : r₂.slot? id = none := by
    rw [hhired.slot?, if_neg hid, hinstalled.slot?, if_neg hid, hregistry, Registry.slot?_empty]
  let h₁ : Host L P := { h with registry := r₁ }.record (.installed .enumerator (h.holders .enumerator))
  let h₂ : Host L P := { h₁ with registry := r₂, nextSerial := h₁.nextSerial + 1 }.record
    (.created h₁.nextSerial .enumerator)
  obtain ⟨h', timer, hcall, hsolitary, harms⟩ := call_init setting (h := h₂)
    ((hhired.maxSlots.trans hinstalled.maxSlots).trans hsize) ((hhired.slot? _).trans (if_pos rfl)) rfl
    rfl (hregistry ▸ hresources) rfl hfree hunbound
  exact ⟨h₁, h₂, h', timer, hfresh, except_map_eq_ok.mpr ⟨r₂, hset, rfl⟩, hcall, hsolitary, harms⟩

/-- The cores have their numbers and the slots what was loaded into them, and the enumerator has
nothing left to load. -/
structure Equipped (ids : CoreId → UInt16) (ls : List Load) (r r' : Registry (Instance P)) :
    Prop where
  numbers : ∀ c, (r'.core c).driverId = ids c
  loaded : ∀ l ∈ ls, (r'.slot? l.target).map Slot.label = some (l.name, l.core)
  bound : ∀ l ∈ ls, ∀ c, l.core = some c → (r'.core c).slot = some l.target
  unbound : ∀ c, (∀ l ∈ ls, l.core ≠ some c) → (r'.core c).slot = (r.core c).slot
  enumerator : ∃ s e, r'.slot? .enumerator = some s ∧ Houses s e ∧ e.overloads = []
  free : ∀ id ≠ .enumerator, (∀ l ∈ ls, l.target ≠ id) → r'.slot? id = none

lemma Equipped.spares {ls : List Load} {r r' r'' : Registry (Instance P)}
    (h : Equipped ids ls r r') (hspares : Registry.Spares (ls.map Load.target) r' r'')
    (htargets : ∀ l ∈ ls, l.target ≠ .enumerator) : Equipped ids ls r r'' where
  numbers c := by rw [hspares.core, h.numbers]
  loaded l hl := by rw [hspares.label, h.loaded l hl]
  bound l hl c hc := by rw [hspares.core, h.bound l hl c hc]
  unbound c hc := by rw [hspares.core, h.unbound c hc]
  enumerator := by
    rw [hspares.slot? .enumerator (by simpa using htargets)]
    exact h.enumerator
  free id hid hfree := by
    rw [hspares.slot? id (by simpa using hfree)]
    exact h.free id hid hfree

/-- The enumerator is called while no other slot is in use, loads drivers into other slots, and comes
back into its own, which at most lost its core. -/
lemma call_loads [Driver P] (setting : Setting P) {s : Slot (Instance P)} {e : Enumerator}
    {ls : List Load} {c : Callback} {result : c.Result}
    (hs : h.registry.slot? .enumerator = some s) (hhouses : Houses s e)
    (hfree : ∀ id ≠ .enumerator, h.registry.slot? id = none)
    (htargets : ∀ l ∈ ls, l.target ≠ .enumerator)
    (hrun : ∀ h₀ : Host L P,
      Registry.Updated h.registry .enumerator { s with driver := none } h₀.registry →
      (∀ c, h₀.registry.core c = h.registry.core c) →
      ∃ h₁ r e', run setting .enumerator ((Occupant.enumerator e : Occupant P).respond c) h₀ =
          ((result, .enumerator e'), h₁, ls.map Load.target) ∧ e'.overloads = [] ∧
        Registry.Noted h₀.registry r ∧ (∀ c, (r.core c).driverId = ids c) ∧
        Laid setting.factory ls r h₁.registry) :
    ∃ h', h.call setting .enumerator c = some (result, h', ls.map Load.target) ∧
      Equipped ids ls h.registry h'.registry ∧
      ∀ l ∈ ls, ∃ s, h'.registry.slot? l.target = some s ∧
        s.driver.map Instance.driver = setting.factory.create l.name := by
  obtain ⟨serial, hdriver⟩ := hhouses.driver
  obtain ⟨h₀, generation, htaken, hcores, hgenerations, hgeneration, -, -, hcall⟩ :=
    exists_taken setting hs hdriver c
  obtain ⟨h₁, r, e', hrun, hdone, hnoted, hnumbers, hlaid⟩ := hrun h₀ htaken hcores
  -- the loads go to other slots, so the enumerator's own is as it was when taken
  have hslot := hlaid.withoutCore .enumerator htargets
  rw [hnoted.slots.slot?, htaken.slot?, if_pos rfl, Option.map_some] at hslot
  obtain ⟨s₁, hs₁, hslot⟩ := Option.map_eq_some_iff.mp hslot
  have hdriver₁ : s₁.driver = none := congrArg Slot.driver hslot
  have hgeneration₁ : h₁.registry.generation? .enumerator = some generation := by
    rw [hlaid.generation? _ htargets, hnoted.generation?, hgenerations, hgeneration]
  have hback := Registry.updated_restoreDriver hgeneration₁ hs₁ hdriver₁
    { serial, driver := .enumerator e' }
  refine ⟨_, hcall hrun, ⟨fun c => ?_, fun l hl => ?_, fun l hl c hc => ?_, fun c hc => ?_, ?_,
    fun id hid hother => ?_⟩, fun l hl => ?_⟩
  · rw [Registry.core_restoreDriver, hlaid.numbers, hnumbers]
  · obtain ⟨s', hs', hname, hcore, _⟩ := hlaid.filled l hl
    rw [hback.slot?, if_neg (htargets l hl), hs', Option.map_some, Slot.label, hname, hcore]
  · rw [Registry.core_restoreDriver, hlaid.bound l hl c hc]
  · rw [Registry.core_restoreDriver, hlaid.unbound c hc, hnoted.bindings, hcores]
  · refine ⟨_, e', (hback.slot? _).trans (if_pos rfl), ⟨?_, ?_, serial, rfl⟩, hdone⟩
    · exact (congrArg Slot.driverName hslot).trans hhouses.driverName
    · exact (congrArg Slot.resources hslot).trans hhouses.resources
  · have hnone := hlaid.withoutCore id hother
    rw [hnoted.slots.slot?, htaken.slot?, if_neg hid, hfree id hid, Option.map_none] at hnone
    rw [hback.slot?, if_neg hid]
    exact Option.map_eq_none_iff.mp hnone
  · obtain ⟨s', hs', _, _, hcreate⟩ := hlaid.filled l hl
    exact ⟨s', by rw [hback.slot?, if_neg (htargets l hl), hs'], hcreate⟩

section Table

variable {n : Nat} {o : Overloads} {l : Load}

lemma target_of_mem_tableLoads (hn : n ≤ 65536) (ho : o.Fits n) (hpos : ∀ p ∈ o, 0 < p.1)
    (hl : l ∈ tableLoads n o ids) : l.target.toNat = l.slot ∧ l.target ≠ .enumerator := by
  obtain ⟨hlpos, hlt⟩ := slot_of_mem_tableLoads ho hpos hl
  have htarget : l.target.toNat = l.slot := SlotId.toNat_ofNat (Nat.lt_of_lt_of_le hlt hn)
  refine ⟨htarget, fun heq => ?_⟩
  rw [heq] at htarget
  exact Nat.ne_of_lt hlpos htarget

lemma nodup_targets (hn : n ≤ 65536) (ho : o.Fits n) (hpos : ∀ p ∈ o, 0 < p.1) :
    ((tableLoads n o ids).map Load.target).Nodup := by
  refine List.pairwise_map.mpr ((sorted_tableLoads ho hpos).imp_of_mem fun hl hl' hlt heq => ?_)
  rw [← (target_of_mem_tableLoads hn ho hpos hl).1, heq,
    (target_of_mem_tableLoads hn ho hpos hl').1] at hlt
  exact Nat.lt_irrefl _ hlt

/-- What a table leads to can be loaded while only the enumerator is there. -/
lemma loadable_tableLoads {r : Registry (Instance P)} (hmax : r.maxSlots = n) (hn : n ≤ 65536)
    (ho : o.Fits n) (hpos : ∀ p ∈ o, 0 < p.1) (hfree : ∀ id ≠ .enumerator, r.slot? id = none)
    (hbound : ∀ c id, (r.core c).slot = some id → id = .enumerator) :
    Loadable (tableLoads n o ids) r := by
  refine ⟨List.pairwise_map.mp (nodup_targets hn ho hpos), ?_, fun l hl => ?_⟩
  · refine (sorted_tableLoads ho hpos).imp_of_mem fun hl hl' hlt c hc hc' => ?_
    exact Nat.ne_of_lt hlt (slot_eq_of_core_eq hl hl' hc hc')
  · obtain ⟨htarget, hother⟩ := target_of_mem_tableLoads hn ho hpos hl
    refine ⟨?_, hfree _ hother, fun c hc => hother (hbound c _ hc)⟩
    rw [htarget, hmax]
    exact (slot_of_mem_tableLoads ho hpos hl).2

variable [Driver P] {p : Packet} {table : Bytes}

/-- The first complete table is put to use. -/
private lemma run_packet (setting : Setting P) (slot : SlotId) {e : Enumerator}
    (hanswer : table? p = some table)
    (htable : CoreId.all.zip table.words = CoreId.all.map fun c => (c, ids c))
    (hopen : e.enumerated = false) (hmax : h.registry.maxSlots = n) (he : e.overloads.Fits n)
    (hloadable : ∀ r, Registry.Noted h.registry r → Loadable (tableLoads n e.overloads ids) r) :
    ∃ h' r e', run setting slot ((Occupant.enumerator e : Occupant P).respond (.packet p)) h =
        (((), .enumerator e'), h', (tableLoads n e.overloads ids).map Load.target) ∧
      e'.overloads = [] ∧ Registry.Noted h.registry r ∧ (∀ c, (r.core c).driverId = ids c) ∧
      Laid setting.factory (tableLoads n e.overloads ids) r h'.registry := by
  obtain ⟨h₁, hcancel, hsame⟩ := run_cancelAck setting slot e h
  -- cancelling the timer leaves the registry alone, so the facts about it carry over
  rw [← hsame] at hmax hloadable
  obtain ⟨h', r, henumerate, hfacts⟩ := run_enumerate setting slot
    (e := { e with ackTimer := none }) htable hmax he hloadable
  rw [hsame] at hfacts
  refine ⟨h', r, { e with ackTimer := none, enumerated := true, overloads := [] }, ?_, rfl, hfacts⟩
  have hpacket : run setting slot (e.packet p) h =
      ({ e with ackTimer := none, enumerated := true, overloads := [] }, h',
        (tableLoads n e.overloads ids).map Load.target) := by
    rw [(packet_of_answer hanswer e).2]
    refine run_bind hcancel ?_
    rw [if_neg (by simp [hopen])]
    exact henumerate
  have hrespond := run_map (fun e : Enumerator => ((), e)) hpacket
  rw [← List.append_nil (List.map Load.target _)]
  exact run_bind hrespond rfl

/-- The table comes to the enumerator that waits for it, which loads what the table leads to. -/
lemma call_table (setting : Setting P) (hawaits : Awaits n o h.registry) (hn : n ≤ 65536)
    (ho : o.Fits n) (hpos : ∀ p ∈ o, 0 < p.1) (hanswer : table? p = some table)
    (htable : CoreId.all.zip table.words = CoreId.all.map fun c => (c, ids c)) :
    ∃ h', h.call setting .enumerator (.packet p) =
        some ((), h', (tableLoads n o ids).map Load.target) ∧
      Equipped ids (tableLoads n o ids) h.registry h'.registry ∧
      ∀ l ∈ tableLoads n o ids, ∃ s, h'.registry.slot? l.target = some s ∧
        s.driver.map Instance.driver = setting.factory.create l.name := by
  obtain ⟨s, e, hs, hhouses, rfl, hopen⟩ := hawaits.enumerator
  have htargets (l : Load) (hl : l ∈ tableLoads n e.overloads ids) : l.target ≠ .enumerator :=
    (target_of_mem_tableLoads hn ho hpos hl).2
  refine call_loads setting hs hhouses hawaits.free htargets fun h₀ htaken hcores => ?_
  have hmax : h₀.registry.maxSlots = n := htaken.maxSlots.trans hawaits.maxSlots
  refine run_packet setting .enumerator hanswer htable hopen hmax ho fun r hr => ?_
  refine loadable_tableLoads (hr.slots.maxSlots.trans hmax) hn ho hpos (fun id hid => ?_)
    fun c id hc => ?_
  · rw [hr.slots.slot?, htaken.slot?, if_neg hid, hawaits.free id hid]
  · rw [hr.bindings, hcores, hawaits.bindings] at hc
    split_ifs at hc
    exact (Option.some.inj hc).symm

end Table

/-! ### Reading the table -/

/-- The enumerator shows the numbers of all cores. -/
lemma call_request [Driver P] (setting : Setting P) {s : Slot (Instance P)} {e : Enumerator}
    (hs : h.registry.slot? .enumerator = some s) (hhouses : Houses s e)
    (hnumbers : ∀ c, (h.registry.core c).driverId = ids c) (session : SessionId) :
    ∃ h', h.call setting .enumerator (.request tableIndex session .get) =
        some (.ok (.reply (renderTable (CoreId.all.map ids))), h', []) ∧ h'.outbox = h.outbox := by
  obtain ⟨serial, hdriver⟩ := hhouses.driver
  obtain ⟨h₀, generation, _, hcores, _, _, houtbox, -, hcall⟩ :=
    exists_taken setting hs hdriver (.request tableIndex session .get)
  have hids : h₀.registry.outline.driverIds = CoreId.all.map ids := by
    have hnumber (c : CoreId) : ids c = (h₀.registry.core c).driverId := by
      rw [hcores, hnumbers]
    rw [funext hnumber]
    exact h₀.registry.driverIds_eq
  have hrun : run setting .enumerator ((Occupant.enumerator e : Occupant P).respond
      (.request tableIndex session .get)) h₀ =
      ((.ok (.reply (renderTable h₀.registry.outline.driverIds)), .enumerator e), h₀, []) := rfl
  rw [← hids]
  exact ⟨_, hcall hrun, houtbox⟩

end Host

end BoardLink
