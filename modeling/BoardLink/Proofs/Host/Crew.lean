import BoardLink.Proofs.Host.Seats

/-!
# Seats from call to call

With drivers that change who is in a slot only by loading drivers, every call leaves each slot to
whoever was loaded into it last during the call, and to whoever was there before if nobody was. This
goes for turns of a host and for all that an action leads to.
-/

namespace BoardLink.Host

variable {L P : Type} {factory : Factory P} {own : SlotId → Prop} {h h' h'' : Host L P}
  {slot : SlotId} {name : String} {core : Option CoreId} {slots : List SlotId}
  {entries : Journal}

/-! ### Loading -/

/-- A slot got a fresh occupant, whose driver is still to come. -/
structure Freshens (slot : SlotId) (name : String) (h h' : Host L P) : Prop where
  occupant? : ∀ id, h'.registry.occupant? id =
    if id = slot then some (name, none) else h.registry.occupant? id
  journal : h'.journal = h.journal ++ [.installed slot (h.holders slot)]
  nextSerial : h'.nextSerial = h.nextSerial

lemma installFresh_freshens (hfresh : h.installFresh slot name = .ok h') :
    Freshens slot name h h' := by
  obtain ⟨registry, hinstall, rfl⟩ := except_map_eq_ok.mp hfresh
  exact ⟨Registry.occupant?_install hinstall, rfl, rfl⟩

lemma Freshens.bindTo (hf : Freshens slot name h h') (hbind : h'.bindTo slot core = .ok h'') :
    Freshens slot name h h'' := by
  cases core with
  | none =>
    cases hbind
    exact hf
  | some c =>
    obtain ⟨registry, hregistry, rfl⟩ := except_map_eq_ok.mp hbind
    have hsame := Registry.sameOccupants_bindCore hregistry
    exact ⟨fun id => (hsame id).trans (hf.occupant? id), hf.journal, hf.nextSerial⟩

/-- A driver comes into a slot in use. -/
private lemma occupant?_setDriver {driver : Occupant P} (hset : h.setDriver slot driver = .ok h') :
    (∃ name held, h.registry.occupant? slot = some (name, held) ∧
      ∀ id, h'.registry.occupant? id =
        if id = slot then some (name, some ⟨h.nextSerial, driver⟩) else h.registry.occupant? id) ∧
      h'.journal = h.journal ++ [.created h.nextSerial slot] ∧ h'.nextSerial = h.nextSerial + 1 := by
  obtain ⟨registry, hregistry, rfl⟩ := except_map_eq_ok.mp hset
  exact ⟨Registry.occupant?_setDriver hregistry, rfl, rfl⟩

variable [Driver P]

lemma loads_of_installs
    (hfactory : ∀ name driver, factory.create name = some driver → driver.Installs) (name : String)
    (driver : Occupant P) (hcreate : factory.create name = some driver) : driver.Loads :=
  (hfactory name driver hcreate).loads

/-- No driver comes, since nobody knows one by that name. -/
lemma Freshens.seats (hf : Freshens slot name h h') (hunknown : factory.create name = none) :
    Seats factory own h h' (.installed slot (h.holders slot) :: Journal.coming slot none) := by
  refine .fill hf.occupant? hf.journal (Nat.le_of_eq hf.nextSerial.symm) nofun fun _ => ?_
  rw [hunknown]
  exact Iff.rfl

/-- The driver comes. -/
lemma Freshens.setDriver {driver : Occupant P} (hf : Freshens slot name h h')
    (hset : h'.setDriver slot driver = .ok h'') (hdriver : driver.Installs)
    (hknown : ¬ own slot → factory.create name = some driver) :
    Seats factory own h h''
      (.installed slot (h.holders slot) :: Journal.coming slot (some h.nextSerial)) := by
  obtain ⟨⟨name', held, hbefore, hoccupant⟩, hjournal, hserial⟩ := occupant?_setDriver hset
  -- the slot was freshly installed, so the name found there is the new one
  cases ((hf.occupant? slot).trans (if_pos rfl)).symm.trans hbefore
  rw [hf.nextSerial] at hoccupant hjournal hserial
  have hcomes (id : SlotId) : h''.registry.occupant? id =
      if id = slot then some (name, some ⟨h.nextSerial, driver⟩) else h.registry.occupant? id := by
    rw [hoccupant, hf.occupant?]
    split_ifs
    · rfl
    · rfl
  refine .fill hcomes ?_ ?_ ?_ fun hnot => ?_
  · rw [hjournal, hf.journal, List.append_assoc]
    rfl
  · rw [hserial]
    exact Nat.le_succ _
  · intro inst hinst
    cases hinst
    rw [hserial]
    exact ⟨Nat.le_refl _, Nat.lt_succ_self _, hdriver⟩
  · rw [hknown hnot]
    exact Iff.rfl

/-- Loading a driver brings it into the slot, and fails only where nobody comes or goes. -/
lemma installDriver_seats
    (hfactory : ∀ name driver, factory.create name = some driver → driver.Installs) (h : Host L P)
    (slot : SlotId) (name : String) (core : Option CoreId) :
    ∃ entries, Seats factory own h (h.installDriver factory slot name core).2 entries := by
  have hvacate : ∃ entries, Seats factory own h (h.vacate slot core) entries :=
    Seats.minor (vacate_minor h slot core)
  obtain ⟨vacated, hvacate⟩ := hvacate
  rcases installDriver_cases h factory slot name core with
      ⟨_, heq⟩ | ⟨h₁, h₂, h', hfresh, hbind, hload, heq⟩
  · rw [heq]
    exact ⟨vacated, hvacate⟩
  · rw [heq]
    have hf := (installFresh_freshens hfresh).bindTo hbind
    simp only [loadDriver] at hload
    split at hload
    · rename_i driver hcreate
      exact ⟨_, hvacate.trans (hf.setDriver hload (hfactory name driver hcreate) fun _ => hcreate)⟩
    · rename_i hunknown
      cases hload
      exact ⟨_, hvacate.trans (hf.seats hunknown)⟩

/-! ### Calls -/

variable [Link L] {setting : Setting P}

lemma perform_seats {known : Set TimerId} {op : Op P}
    (hfactory : ∀ name driver, setting.factory.create name = some driver → driver.Installs)
    (hop : Op.Installs (Occupant.KeepsTo Op.Installs) known op) :
    ∃ entries, Seats setting.factory own h (h.perform setting slot op).2 entries := by
  cases hkind : op.staffs with
  | false =>
    rcases perform_minor setting h slot hkind with hminor | harms
    · exact Seats.minor hminor
    · exact Seats.arms harms
  | true =>
    cases op with
    | installDriver target name core => exact installDriver_seats hfactory h target name core
    | registry c =>
      rcases command_minor h c with
          hminor | ⟨id, name, registry, ⟨rfl, _⟩ | ⟨rfl, _⟩, _⟩ | ⟨id, driver, registry, rfl, _⟩
      · exact Seats.minor hminor
      · cases hop
      · cases hop
      · cases hop
    | _ => cases hkind

omit [Link L] in
/-- Whoever is in a slot changes who is in a slot only by loading drivers. -/
def Crew (h : Host L P) : Prop :=
  ∀ slot s inst, h.registry.slot? slot = some s → s.driver = some inst → inst.driver.Installs

omit [Link L] in
lemma Crew.of_hires (hc : h.Crew)
    (hhires : Registry.Hires (fun inst => inst.driver.Installs) h.registry h'.registry) :
    h'.Crew := by
  intro slot s inst hs hinst
  rcases hhires slot s inst hs hinst with ⟨s', hs', hinst'⟩ | hinstalls
  · exact hc slot s' inst hs' hinst'
  · exact hinstalls

omit [Link L] in
/-- A driver is away from its slot while it is called, and it comes back unless the slot was filled
meanwhile. -/
private lemma Seats.called {inst : Instance P} {driver : Occupant P} {c : Callback}
    {away back : Registry (Instance P)}
    (hs : Seats factory own ({ h with registry := away }.record (.called slot inst.serial c)) h' entries)
    (hheld : h.registry.occupant? slot = some (name, some inst))
    (haway : ∀ id, away.occupant? id =
      if id = slot then some (name, none) else h.registry.occupant? id)
    (hback : ∀ id, back.occupant? id =
      if id = slot ∧ entries.fills slot = 0 then some (name, some { inst with driver })
      else h'.registry.occupant? id)
    (hhires : Registry.Hires (fun inst => inst.driver.Installs) h.registry back) :
    Seats factory own h { h' with registry := back } (.called slot inst.serial c :: entries) := by
  have hfills (id : SlotId) : Journal.fills (.called slot inst.serial c :: entries) id =
      entries.fills id := Journal.fills_cons _ _ _
  -- elsewhere, and after a refill of this very slot, putting the instance back changes no seat
  have hseat (id : SlotId) (hid : ¬ (id = slot ∧ entries.fills slot = 0)) :
      seat { h' with registry := back } id = h'.seat id := by
    rw [seat, hback, if_neg hid, seat]
  refine ⟨?_, hs.nextSerial, hhires, hs.range, hs.sorted, fun id hid => ?_,
    fun id first dropped last heq hlast => ?_, fun id name' held hid hnot hheld => ?_⟩
  · show h'.journal = _
    rw [hs.journal, Host.record, List.append_assoc]
    rfl
  · rw [hfills] at hid
    obtain ⟨hstays, hnobody⟩ := hs.stays id hid
    refine ⟨?_, hnobody⟩
    by_cases heq : id = slot
    · subst heq
      rw [seat, hback, if_pos ⟨rfl, hid⟩, seat, hheld]
      rfl
    · rw [hseat id fun h => heq h.1, hstays, seat, Host.record, haway, if_neg heq, seat]
  · cases first with
    | nil => cases heq
    | cons e first =>
      obtain ⟨_, rfl⟩ := List.cons.inj heq
      have hmem : .installed id dropped ∈ first ++ .installed id dropped :: last :=
        List.mem_append_right first List.mem_cons_self
      rw [hseat id fun h => Journal.fills_ne_zero hmem (h.1 ▸ h.2)]
      exact hs.comes id first dropped last rfl hlast
  · rw [hfills] at hid
    rw [hseat id fun h => hid (h.1 ▸ h.2)] at hheld
    exact hs.known id name' held hid hnot hheld

omit [Link L] [Driver P] in
/-- Where nobody filled the slot, its generation is the one from before. -/
private lemma Dated.generation?_eq {generation : UInt32} {s : Slot (Instance P)} (hd : h.Dated)
    (hd' : h'.Dated) (hfills : h'.journal.fills slot = h.journal.fills slot)
    (hgeneration : h.registry.generation? slot = some generation)
    (hs : h'.registry.slot? slot = some s) : h'.registry.generation? slot = some generation := by
  obtain ⟨g, hplace⟩ := Registry.place_of_slot? hs
  have hg : h'.registry.generation? slot = some g := by
    rw [Registry.generation?, hplace, Option.map_some]
  rw [hg, hd' slot g hg, hfills, ← hd slot generation hgeneration]

omit [Link L] in
/-- A driver that was away comes back unless its slot was filled. -/
private lemma Seats.occupant?_restoreDriver {generation : UInt32}
    (hs : Seats factory own h h' entries) (hd : h.Dated) (hd' : h'.Dated)
    (hunwrapped : h.Unwrapped h') (hgeneration : h.registry.generation? slot = some generation)
    (haway : h.registry.occupant? slot = some (name, none)) (inst : Instance P) (id : SlotId) :
    (h'.registry.restoreDriver slot inst generation).occupant? id =
      if id = slot ∧ entries.fills slot = 0 then some (name, some inst)
      else h'.registry.occupant? id := by
  have hfilled : h'.journal.fills slot = h.journal.fills slot + entries.fills slot := by
    rw [hs.journal, Journal.fills_append]
  -- the generation tells the two cases apart: it stands still exactly when nobody filled the slot
  by_cases hfills : entries.fills slot = 0
  · have hseat : h'.seat slot = some (name, none) := by
      rw [(hs.stays slot hfills).1, seat, haway]
      rfl
    have hvacant := occupant?_of_seat hseat
    obtain ⟨s, hslot, _⟩ := Registry.exists_of_occupant? hvacant
    rw [hfills, Nat.add_zero] at hfilled
    have hgeneration' := hd.generation?_eq hd' hfilled hgeneration hslot
    rw [Registry.occupant?_restoreDriver hgeneration' hvacant]
    simp only [hfills, and_true]
  · have hlt : h.journal.fills slot < h'.journal.fills slot := by
      rw [hfilled]
      exact Nat.lt_add_of_pos_right (Nat.pos_of_ne_zero hfills)
    have hgeneration' := hd.generation?_ne hd' hunwrapped hlt hgeneration
    rw [Registry.restoreDriver_of_generation_ne hgeneration', if_neg fun h => hfills h.2]

/-- What becomes of the instances in slots: they keep numbers of their own and change who is in a
slot only by loading drivers, and a slot that was not filled has the same one. -/
structure Reseats (factory : Factory P) (own : SlotId → Prop) (h h' : Host L P) : Prop
    extends Grows h h' where
  crew : h'.Crew
  seats : h.Unwrapped h' → ∃ entries, Seats factory own h h' entries

namespace Reseats

omit [Link L] in
lemma of_mans (hm : Mans h h' slots) (hr : h.Roster) (hc : h.Crew)
    (hs : ∃ entries, Seats factory own h h' entries) : Reseats factory own h h' := by
  obtain ⟨entries, hs⟩ := hs
  exact ⟨(hm.shifts hr).toGrows, hc.of_hires hs.hires, fun _ => ⟨entries, hs⟩⟩

omit [Link L] in
lemma of_minor (hminor : Minor h h') (hr : h.Roster) (hc : h.Crew) : Reseats factory own h h' :=
  of_mans (.minor hminor) hr hc (Seats.minor hminor)

omit [Link L] in
lemma refl (hr : h.Roster) (hc : h.Crew) : Reseats factory own h h := of_minor (.refl h) hr hc

omit [Link L] in
lemma trans (hr : Reseats factory own h h') (hr' : Reseats factory own h' h'') :
    Reseats factory own h h'' := by
  refine ⟨⟨hr'.roster, Nat.le_trans hr.nextSerial hr'.nextSerial,
    fun slot => Nat.le_trans (hr.fills slot) (hr'.fills slot)⟩, hr'.crew, fun hunwrapped => ?_⟩
  obtain ⟨entries, hs⟩ := hr.seats (hr'.toGrows.unwrapped_left hunwrapped)
  obtain ⟨entries', hs'⟩ := hr'.seats (hr.toGrows.unwrapped_right hunwrapped)
  exact ⟨_, hs.trans hs'⟩

end Reseats

/-- A call of the instance in a slot. -/
lemma call_reseats {c : Callback} {result : c.Result}
    (hfactory : ∀ name driver, setting.factory.create name = some driver → driver.Installs)
    (hr : h.Roster) (hc : h.Crew) (hcall : h.call setting slot c = some (result, h', slots)) :
    Reseats setting.factory own h h' := by
  have hloads := loads_of_installs hfactory
  have hgrows := (call_shifts hloads hr hcall).1.toGrows
  obtain ⟨inst, generation, registry, driver, h₁, htake, hrun, rfl⟩ := call_eq_some hcall
  obtain ⟨s, hs, hinst, hupdated⟩ := Registry.takeDriver_cases htake
  obtain ⟨name, hheld, haway⟩ := Registry.occupant?_takeDriver htake
  obtain ⟨hgeneration, hsame⟩ := Registry.generation?_takeDriver htake
  obtain ⟨known, hkeeps⟩ := hc slot s inst hs hinst
  obtain ⟨⟨hmans, entries, hseats⟩, known', hkeeps'⟩ := run_follows
    (R := fun h h' slots => Mans h h' slots ∧ ∃ entries, Seats setting.factory own h h' entries)
    (fun h => ⟨.refl h, [], .refl h⟩)
    (fun ⟨hmans, _, hs⟩ ⟨hmans', _, hs'⟩ => ⟨hmans.trans hmans', _, hs.trans hs'⟩)
    (fun hop => ⟨perform_mans hloads hop.loads, perform_seats hfactory hop⟩)
    (hkeeps.respond installs_monotone c) ({ h with registry }.record (.called slot inst.serial c))
  rw [hrun] at hmans hseats hkeeps'
  have hr₀ := roster_of_takeDriver hr htake c
  have hr₁ := hmans.roster hr₀
  -- the hires of the whole call: taking out, running and putting back each add only installing drivers
  have hhires : Registry.Hires (fun inst => inst.driver.Installs) h.registry
      (h₁.registry.restoreDriver slot { inst with driver } generation) := by
    have hrestore : Staffs (fun inst => inst.driver.Installs) h₁
        { h₁ with registry := h₁.registry.restoreDriver slot { inst with driver } generation } :=
      restoreDriver_staffs h₁ slot generation ⟨known', hkeeps'⟩
    have htaken : Registry.Hires (fun inst => inst.driver.Installs) h.registry registry :=
      hupdated.hires_of_none rfl
    exact (htaken.trans hseats.hires).trans hrestore.hires
  refine ⟨hgrows, hc.of_hires hhires, fun hunwrapped => ?_⟩
  have hfills₀ (id : SlotId) : Journal.fills (h.journal ++ [.called slot inst.serial c]) id =
      h.journal.fills id := Journal.fills_concat _ rfl
  have hunwrapped₀ : Unwrapped ({ h with registry }.record (.called slot inst.serial c)) h₁ := by
    intro id
    exact (hfills₀ id).symm ▸ hunwrapped id
  have hback := hseats.occupant?_restoreDriver hr₀.dated hr₁.dated hunwrapped₀
    ((hsame slot).trans hgeneration) ((haway slot).trans (if_pos rfl)) { inst with driver }
  exact ⟨_, hseats.called hheld haway hback hhires⟩

/-! ### Turns and moves -/

variable {c c' : Stage L P}

omit [Link L] in
/-- A timer fires, and the waits that it guards end. -/
private lemma rung_reseats (timers : TimerTable) (id : TimerId) (owner : SlotId) (hr : h.Roster)
    (hc : h.Crew) : Reseats factory own h (h.rung timers id owner) := by
  have hfired : Seats factory own h ({ h with timers }.record (.fired id owner)) [.fired id owner] :=
    .record h timers rfl
  have hexpired : ∃ entries, Seats factory own ({ h with timers }.record (.fired id owner))
      (h.rung timers id owner) entries := Seats.minor (expireReplies_minor _ owner id)
  obtain ⟨entries, hexpired⟩ := hexpired
  exact .of_mans (rung_mans h timers id owner) hr hc ⟨_, hfired.trans hexpired⟩

omit [Link L] in
/-- A driver is loaded from outside, or cannot be loaded. -/
private lemma installDriver_reseats {result : Except RegistryError Unit}
    (hfactory : ∀ name driver, factory.create name = some driver → driver.Installs) (hr : h.Roster)
    (hc : h.Crew) (hload : h.installDriver factory slot name core = (result, h')) :
    Reseats factory own h h' := by
  have hmans := installDriver_mans (loads_of_installs hfactory) h slot name core
  have hseats : ∃ entries, Seats factory own h (h.installDriver factory slot name core).2 entries :=
    installDriver_seats hfactory h slot name core
  rw [hload] at hmans hseats
  exact .of_mans hmans hr hc hseats

lemma Turn.reseats (hturn : Turn setting c c')
    (hfactory : ∀ name driver, setting.factory.create name = some driver → driver.Installs)
    (hr : c.1.Roster) (hc : c.1.Crew) : Reseats setting.factory own c.1 c'.1 := by
  cases hturn with
  | skip => exact .refl hr hc
  | init hcall => exact call_reseats hfactory hr hc hcall
  | call _ _ hcall => exact call_reseats hfactory hr hc hcall
  | @ring h h' id expiry timers _ _ _ hcall =>
    have hrung : Reseats setting.factory own h (h.rung timers id expiry.owner) :=
      rung_reseats timers id expiry.owner hr hc
    exact hrung.trans (call_reseats hfactory hrung.roster hrung.crew hcall)
  | @lapse h id expiry timers => exact rung_reseats timers id expiry.owner hr hc
  | load hload => exact installDriver_reseats hfactory hr hc hload
  | refuse hload => exact installDriver_reseats hfactory hr hc hload
  | transmit | tell => exact .of_minor (.of_eq rfl rfl rfl rfl) hr hc
  | arm h slot i session timeout token =>
    rcases armReply_minor h slot i session timeout token setting.now with hunarmed | harms
    · exact .of_minor hunarmed hr hc
    · exact .of_mans (.arms harms) hr hc (Seats.arms harms)
  | abandon h slot i session => exact .of_minor (abandonReply_minor h slot i session) hr hc
  | subscribe => exact .of_minor (.setResource _ _ _ _) hr hc

lemma Turns.reseats (hturns : Turns setting c c')
    (hfactory : ∀ name driver, setting.factory.create name = some driver → driver.Installs)
    (hr : c.1.Roster) (hc : c.1.Crew) : Reseats setting.factory own c.1 c'.1 := by
  induction hturns with
  | refl => exact .refl hr hc
  | tail _ hturn ih => exact ih.trans (hturn.reseats hfactory ih.roster ih.crew)

omit [Link L] in
/-- The enumerator comes into its slot, whoever is known to the factory. -/
lemma start_seats {overloads : Overloads} (hfresh : h.installFresh .enumerator name = .ok h')
    (hset : h'.setDriver .enumerator (.enumerator (.ofOverloads overloads)) = .ok h'') :
    Seats factory (· = .enumerator) h h''
      (.installed .enumerator (h.holders .enumerator) ::
        Journal.coming .enumerator (some h.nextSerial)) :=
  (installFresh_freshens hfresh).setDriver hset (installs_enumerator overloads) fun hnot =>
    absurd rfl hnot

lemma Moves.reseats (hmoves : Moves setting c c')
    (hfactory : ∀ name driver, setting.factory.create name = some driver → driver.Installs)
    (hr : c.1.Roster) (hc : c.1.Crew) :
    Reseats setting.factory (· = .enumerator) c.1 c'.1 := by
  induction hmoves with
  | refl => exact .refl hr hc
  | tail _ hmove ih =>
    refine ih.trans ?_
    cases hmove with
    | turn hturn => exact hturn.reseats hfactory ih.roster ih.crew
    | start hfresh hset =>
      exact .of_mans (start_mans hfresh hset) ih.roster ih.crew ⟨_, start_seats hfresh hset⟩

end BoardLink.Host
