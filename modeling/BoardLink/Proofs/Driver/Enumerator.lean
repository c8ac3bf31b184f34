import BoardLink.Proofs.Driver.Answers
import BoardLink.Proofs.Driver.Discipline

/-!
# What the enumerator keeps to

The enumerator cancels only the timer that it armed, and it commands the registry only to note the
driver numbers of cores. It fills slots when the board's table comes and when the wait for it is
over, and at no other time.
-/

namespace BoardLink

variable {P : Type}

/-- The rule of the enumerator. -/
def Op.Enumerates : Rule P
  | _, .addResource resource => resource.IsFree
  | known, .cancelTimer id => id ∈ known
  | _, .registry (.setDriverId ..) => True
  | _, .registry _ => False
  | _, _ => True

/-- The rule of the enumerator while it fills no slots. -/
def Op.Asks : Rule P := fun known op => Op.Enumerates known op ∧ op.fills = false

lemma Op.Enumerates.careful {drivers : Set TimerId → Occupant P → Prop} {known : Set TimerId}
    {op : Op P} (h : Op.Enumerates known op) : Op.Careful drivers known op := by
  cases op with
  | registry command =>
    cases command with
    | setDriverId => rfl
    | _ => cases h
  | addResource => exact h
  | cancelTimer => exact h
  | _ => trivial

lemma Op.Enumerates.loads {drivers : Set TimerId → Occupant P → Prop} {known : Set TimerId}
    {op : Op P} (h : Op.Enumerates known op) : Op.Loads drivers known op := by
  cases op with
  | registry command =>
    cases command with
    | setDriverId => trivial
    | _ => cases h
  | _ => trivial

lemma Op.Enumerates.installs {drivers : Set TimerId → Occupant P → Prop} {known : Set TimerId}
    {op : Op P} (h : Op.Enumerates known op) : Op.Installs drivers known op := by
  cases op with
  | registry command =>
    cases command with
    | setDriverId => rfl
    | _ => cases h
  | _ => trivial

lemma Op.Enumerates.tidy {pool : Nat} {drivers : Set TimerId → Occupant P → Prop}
    {known : Set TimerId} {op : Op P} (h : Op.Enumerates known op) :
    Op.Tidy pool drivers known op := by
  cases op with
  | registry command =>
    cases command with
    | setDriverId => trivial
    | _ => cases h
  | _ => trivial

namespace Enumerator

variable {known : Set TimerId} {e e' : Enumerator}

/-- The timer that waits for the table is a known one. -/
def Knows (known : Set TimerId) (e : Enumerator) : Prop := ∀ id, e.ackTimer = some id → id ∈ known

/-- The enumerator at most gives up waiting or begins to wait, with a timer that it knows. -/
structure Waits (e : Enumerator) (known : Set TimerId) (e' : Enumerator) : Prop where
  knows : e'.Knows known
  overloads : e'.overloads = e.overloads
  enumerated : e'.enumerated = e.enumerated

lemma Knows.waits (h : e.Knows known) : e.Waits known e := ⟨h, rfl, rfl⟩

/-! ### Calls that fill no slots -/

lemma cancelAck_asks (h : e.Knows known) :
    (e.cancelAck : Program P _).Follows Op.Asks e.Waits known := by
  simp only [cancelAck]
  split
  · exact h.waits
  · rename_i id hid
    exact Program.follows_silent_bind ⟨h id hid, rfl⟩ (fun _ => rfl) fun _ => ⟨nofun, rfl, rfl⟩

private lemma requestTable_asks (h : e.Knows known) :
    (e.requestTable : Program P _).Follows Op.Asks e.Waits known := by
  apply Program.follows_silent_bind ⟨trivial, rfl⟩ (fun _ => rfl)
  intro _
  split
  · exact h.waits
  · apply Program.follows_silent_bind ⟨trivial, rfl⟩ (fun _ => rfl)
    intro view
    apply Program.follows_perform_bind ⟨trivial, rfl⟩
    intro r
    match r with
    | .ok id =>
      refine ⟨?_, rfl, rfl⟩
      rintro _ ⟨⟩
      exact .inr rfl
    | .error _ => exact ⟨fun id hid => .inl (h id hid), rfl, rfl⟩

private lemma init_asks (h : e.Knows known) :
    (e.init : Program P _).Follows Op.Asks (fun known result => e.Waits known result.2) known := by
  apply Program.follows_silent_bind ⟨trivial, rfl⟩ (fun _ => rfl)
  intro named
  split
  · exact h.waits
  · apply Program.follows_silent_bind ⟨⟨rfl, rfl⟩, rfl⟩ (fun _ => rfl)
    intro added
    split
    · exact h.waits
    · apply Program.follows_silent_bind ⟨trivial, rfl⟩ (fun _ => rfl)
      intro bound
      split
      · exact h.waits
      · exact Program.follows_bind (requestTable_asks h)

private lemma request_asks (h : e.Knows known) (resource : Nat) (request : Request) :
    (e.request resource request : Program P _).Follows Op.Asks
      (fun known result => e.Waits known result.2) known := by
  simp only [Enumerator.request]
  split_ifs
  · exact Program.follows_silent_bind ⟨trivial, rfl⟩ (fun _ => rfl) fun view => h.waits
  · exact h.waits

lemma recordIds_asks {post : Set TimerId → Unit → Prop} (ids : List (CoreId × UInt16))
    (hpost : post known ()) : (recordIds ids : Program P _).Follows Op.Asks post known := by
  induction ids with
  | nil => exact hpost
  | cons p rest ih => exact Program.follows_silent_bind ⟨trivial, rfl⟩ (fun _ => rfl) fun _ => ih

private lemma packet_asks {p : Packet} (h : e.Knows known)
    (hanswer : table? p = none ∨ e.enumerated) :
    (e.packet p : Program P _).Follows Op.Asks e.Waits known := by
  simp only [packet]
  split_ifs with hwrite hother
  · exact cancelAck_asks h
  · exact h.waits
  · refine Program.follows_bind ((cancelAck_asks h).mono (fun _ _ => id) fun known e' he' => ?_)
    rw [if_pos]
    · exact he'
    · rw [he'.enumerated]
      apply hanswer.imp_left
      intro hnone hlength
      push Not at hother
      rw [table?, if_pos ⟨hwrite, by simpa using hother.1, hother.2.1, hother.2.2, hlength⟩] at hnone
      cases hnone

/-- A call fills slots only if it ends the wait, or brings the first complete table. -/
lemma respond_asks {c : Callback} (h : e.Knows known) (hanswer : answer? c = none ∨ e.enumerated)
    (htimeout : timesOut c = false) :
    (e.respond c : Program P _).Follows Op.Asks (fun known result => e.Waits known result.2)
      known := by
  cases c with
  | init => exact init_asks h
  | packet p => exact Program.follows_bind (packet_asks h hanswer)
  | request resource session request => exact request_asks h resource request
  | timer token =>
    have htoken : token ≠ ackToken := by simpa [timesOut] using htimeout
    apply Program.follows_bind
    rw [timer, if_neg htoken]
    exact h.waits

/-! ### Calls that fill slots -/

/-- A complete table ends the wait, and it is put to use unless one was before. -/
lemma packet_of_answer {p : Packet} {table : Bytes} (h : table? p = some table) (e : Enumerator) :
    table.length = tableLength ∧
      (e.packet p : Program P _) =
        e.cancelAck >>= fun e => if e.enumerated then pure e else e.enumerate table := by
  simp only [table?] at h
  split_ifs at h with hp
  cases h
  obtain ⟨hwrite, hsolicited, hregister, hcount, hlength⟩ := hp
  refine ⟨hlength, ?_⟩
  rw [packet, if_neg hwrite, if_neg (by simp [hsolicited, hregister, hcount])]
  simp only [hlength, ne_eq, not_true_eq_false, false_or]

private lemma loadAll_enumerates {post : Set TimerId → Unit → Prop} (overloads : Overloads)
    (hpost : post known ()) : (loadAll overloads : Program P _).Follows Op.Enumerates post known := by
  induction overloads with
  | nil => exact hpost
  | cons p rest ih => exact Program.follows_silent_bind trivial (fun _ => rfl) fun _ => ih

private lemma loadRemaining_enumerates (h : e.Knows known) :
    (e.loadRemaining : Program P _).Follows Op.Enumerates Knows known :=
  Program.follows_bind (loadAll_enumerates e.overloads h)

private lemma loadCores_enumerates {post : Set TimerId → Overloads → Prop} (maxSlots : Nat)
    (overloads : Overloads) (slot : Nat) (ids : List (CoreId × UInt16))
    (hpost : ∀ overloads, post known overloads) :
    (loadCores maxSlots overloads slot ids : Program P _).Follows Op.Enumerates post known := by
  induction ids generalizing overloads slot with
  | nil => exact hpost overloads
  | cons p rest ih =>
    simp only [loadCores]
    split_ifs
    · exact ih overloads slot
    · exact hpost overloads
    · split
      · exact ih overloads (slot + 1)
      · exact Program.follows_silent_bind trivial (fun _ => rfl) fun _ => ih _ (slot + 1)

private lemma enumerate_enumerates (h : e.Knows known) (table : Bytes) :
    (e.enumerate table : Program P _).Follows Op.Enumerates Knows known := by
  have hrecord : (recordIds (CoreId.all.zip table.words) : Program P _).Follows Op.Asks
      (fun known _ => e.Knows known) known := recordIds_asks _ h
  refine Program.follows_bind (hrecord.mono (fun _ _ hop => hop.1) fun known _ h => ?_)
  apply Program.follows_silent_bind trivial (fun _ => rfl)
  intro view
  exact Program.follows_bind (loadCores_enumerates _ _ _ _ fun overloads =>
    loadRemaining_enumerates h)

lemma respond_enumerates (h : e.Knows known) (c : Callback) :
    (e.respond c : Program P _).Follows Op.Enumerates (fun known result => result.2.Knows known)
      known := by
  -- only the table and the end of the wait make the enumerator load drivers
  by_cases hquiet : (answer? c = none ∨ e.enumerated) ∧ timesOut c = false
  · exact (respond_asks h hquiet.1 hquiet.2).mono (fun _ _ hop => hop.1) fun _ _ he => he.knows
  · cases c with
    | init => exact absurd ⟨.inl rfl, rfl⟩ hquiet
    | request => exact absurd ⟨.inl rfl, rfl⟩ hquiet
    | timer token =>
      apply Program.follows_bind
      simp only [timer]
      split_ifs
      · exact loadRemaining_enumerates nofun
      · exact h
    | packet p =>
      apply Program.follows_bind
      have hcancel : (e.cancelAck : Program P _).Follows Op.Enumerates Knows known :=
        (cancelAck_asks h).mono (fun _ _ hop => hop.1) fun _ _ he => he.knows
      simp only [packet]
      split_ifs
      · exact hcancel
      · exact h
      · refine Program.follows_bind (hcancel.mono (fun _ _ => id) fun known e he => ?_)
        split_ifs
        · exact he
        · exact enumerate_enumerates he p.readData

end Enumerator

/-- The enumerator keeps to every rule that permits what it does, if it armed the timer that it waits
for. -/
lemma Enumerator.Knows.keepsTo [Driver P] {discipline : Discipline P} {known : Set TimerId}
    {e : Enumerator} (h : e.Knows known)
    (hrule : ∀ drivers known op, Op.Enumerates known op → discipline drivers known op) :
    (Occupant.enumerator e : Occupant P).KeepsTo discipline known := by
  refine ⟨fun known d => ∃ e, d = .enumerator e ∧ e.Knows known, ⟨e, rfl, h⟩, ?_⟩
  rintro known _ ⟨e, rfl, he⟩ c
  have hrespond := e.respond_enumerates (P := P) he c
  refine Program.follows_bind (hrespond.mono (hrule _) ?_)
  intro known result hresult
  exact ⟨result.2, rfl, hresult⟩

/-- The enumerator is careful if it armed the timer that it waits for. -/
lemma careful_enumerator [Driver P] {known : Set TimerId} {e : Enumerator} (h : e.Knows known) :
    (Occupant.enumerator e : Occupant P).Careful known :=
  h.keepsTo fun _ _ _ hop => hop.careful

/-- A new enumerator overwrites slots only by loading drivers. -/
lemma tidy_enumerator [Driver P] (pool : Nat) (overloads : Overloads) :
    (Occupant.enumerator (.ofOverloads overloads) : Occupant P).Tidy pool :=
  ⟨∅, Enumerator.Knows.keepsTo nofun fun _ _ _ hop => hop.tidy⟩

/-- A new enumerator brings drivers into slots only by loading them. -/
lemma loads_enumerator [Driver P] (overloads : Overloads) :
    (Occupant.enumerator (.ofOverloads overloads) : Occupant P).Loads :=
  ⟨∅, Enumerator.Knows.keepsTo nofun fun _ _ _ hop => hop.loads⟩

/-- A new enumerator changes who is in a slot only by loading drivers. -/
lemma installs_enumerator [Driver P] (overloads : Overloads) :
    (Occupant.enumerator (.ofOverloads overloads) : Occupant P).Installs :=
  ⟨∅, Enumerator.Knows.keepsTo nofun fun _ _ _ hop => hop.installs⟩

end BoardLink
