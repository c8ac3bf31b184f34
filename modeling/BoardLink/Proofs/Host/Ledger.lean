import BoardLink.Host.Journal
import BoardLink.Proofs.Registry.Waiting

/-!
# The ledger of waits

The journal tells of every wait when it began and how it ended: with an answer, with the end of the
time for it, with the failure of the request, or with the slot. Read as a ledger, no wait begins where
one is open, and each ends once, for the session that began it.
-/

namespace BoardLink

/-! ### Entries -/

namespace Entry

/-- The open waits after one more entry. The entry must not begin a wait where one is open or end one
that is not open, and whoever loses a lock with a slot must be named once for each. -/
def book (ws : List Wait) : Entry → Option (List Wait)
  | .locked slot i session =>
    if ∃ w ∈ ws, w.slot = slot ∧ w.resource = i then none else some (⟨slot, i, session⟩ :: ws)
  | .answered slot i session | .expired slot i session | .abandoned slot i session =>
    if ⟨slot, i, session⟩ ∈ ws then some (ws.erase ⟨slot, i, session⟩) else none
  | .installed slot dropped =>
    if dropped.Perm ((ws.filter fun w => w.slot = slot).map Wait.session) then
      some (ws.filter fun w => w.slot ≠ slot)
    else none
  | _ => some ws

/-- Is the entry about no wait? -/
def isIdle : Entry → Bool
  | .created .. | .called .. | .armed .. | .fired .. | .noted _ => true
  | _ => false

lemma book_of_isIdle {entry : Entry} (h : entry.isIdle) (ws : List Wait) : entry.book ws = some ws := by
  cases entry with
  | created | called | armed | fired | noted => rfl
  | _ => cases h

end Entry

namespace Journal

/-! ### Tallies -/

/-- How many waits began. -/
def locks (j : Journal) : Nat := j.countP fun | .locked .. => true | _ => false

/-- How many waits ended with an answer. -/
def answers (j : Journal) : Nat := j.countP fun | .answered .. => true | _ => false

/-- How many waits ended with the time for an answer. -/
def expiries (j : Journal) : Nat := j.countP fun | .expired .. => true | _ => false

/-- How many waits ended because the request failed. -/
def failures (j : Journal) : Nat := j.countP fun | .abandoned .. => true | _ => false

/-- How many waits ended because their slot was filled anew. -/
def drops (j : Journal) : Nat :=
  (j.flatMap fun | .installed _ dropped => dropped | _ => []).length

/-- The waits that are open after a journal, if it is a proper ledger. -/
def waits? (j : Journal) : Option (List Wait) := j.foldlM Entry.book []

variable {j j' : Journal} {ws ws' : List Wait}

lemma waits?_append (j j' : Journal) :
    Journal.waits? (j ++ j') = j.waits?.bind fun ws => j'.foldlM Entry.book ws :=
  List.foldlM_append ..

lemma expiries_append (j j' : Journal) : Journal.expiries (j ++ j') = j.expiries + j'.expiries :=
  List.countP_append

/-- One entry moves each wait at most once. -/
private lemma book_tally {entry : Entry} (h : entry.book ws = some ws') :
    ws.length + Journal.locks [entry] = Journal.answers [entry] + Journal.expiries [entry] +
      Journal.failures [entry] + Journal.drops [entry] + ws'.length := by
  cases entry with
  | locked slot i session =>
    simp only [Entry.book] at h
    split_ifs at h
    cases h
    simp [locks, answers, expiries, failures, drops]
  | answered slot i session | expired slot i session | abandoned slot i session =>
    simp only [Entry.book] at h
    split_ifs at h with hmem
    -- one wait is crossed off, which the length of the book shows
    cases h
    have hpos := List.length_pos_of_mem hmem
    have hlength := List.length_erase_of_mem hmem
    simp [locks, answers, expiries, failures, drops]
    omega
  | installed slot dropped =>
    simp only [Entry.book] at h
    split_ifs at h with hperm
    cases h
    -- an installation crosses off all waits of its slot, and `dropped` is a permutation of these
    have hdropped := hperm.length_eq
    have hsplit := List.length_eq_length_filter_add (l := ws) fun w => decide (w.slot = slot)
    simp only [List.length_map] at hdropped
    simp [locks, answers, expiries, failures, drops] at hsplit ⊢
    omega
  | _ =>
    cases h
    simp [locks, answers, expiries, failures, drops]

private lemma foldlM_tally (h : j.foldlM Entry.book ws = some ws') :
    ws.length + j.locks = j.answers + j.expiries + j.failures + j.drops + ws'.length := by
  induction j generalizing ws with
  | nil =>
    cases h
    simp [locks, answers, expiries, failures, drops]
  | cons entry j ih =>
    obtain ⟨ws₁, hentry, hrest⟩ := Option.bind_eq_some_iff.mp h
    have htally := book_tally hentry
    have hih := ih hrest
    rw [← List.singleton_append]
    simp only [locks, answers, expiries, failures, drops, List.countP_append, List.flatMap_append,
      List.length_append] at htally hih ⊢
    omega

/-- In a proper ledger every wait that began has ended in one of four ways or is open. -/
lemma locks_eq (h : j.waits? = some ws) :
    j.locks = j.answers + j.expiries + j.failures + j.drops + ws.length := by
  have htally := foldlM_tally h
  rwa [List.length_nil, Nat.zero_add] at htally

/-- How many waits began, were answered, expired and failed. -/
def tally (j : Journal) : Nat × Nat × Nat × Nat := (j.locks, j.answers, j.expiries, j.failures)

/-- Slots that are filled and entries about no wait count for nothing. -/
lemma tally_append {entries : Journal}
    (h : ∀ entry ∈ entries, entry.isIdle ∨ ∃ slot dropped, entry = .installed slot dropped) :
    tally (j ++ entries) = j.tally := by
  induction entries generalizing j with
  | nil => rw [List.append_nil]
  | cons entry entries ih =>
    obtain ⟨hentry, hrest⟩ := List.forall_mem_cons.mp h
    rw [List.append_cons, ih hrest]
    simp only [tally, locks, answers, expiries, failures, List.countP_append]
    cases entry with
    | locked | answered | expired | abandoned => simp [Entry.isIdle] at hentry
    | _ => rfl

/-! ### Several entries at once -/

/-- Entries about no wait leave the open waits alone. -/
lemma foldlM_of_isIdle (h : ∀ entry ∈ j, entry.isIdle) (ws : List Wait) :
    j.foldlM Entry.book ws = some ws := by
  induction j with
  | nil => rfl
  | cons entry j ih =>
    obtain ⟨hentry, hrest⟩ := List.forall_mem_cons.mp h
    rw [List.foldlM_cons, Entry.book_of_isIdle hentry]
    exact ih hrest

lemma expiries_of_isIdle (h : ∀ entry ∈ j, entry.isIdle) : j.expiries = 0 := by
  refine List.countP_eq_zero.mpr fun entry hentry => ?_
  have hidle := h entry hentry
  cases entry with
  | expired => cases hidle
  | _ => exact Bool.false_ne_true

/-- Several waits of one slot may expire together. -/
lemma foldlM_expired {slot : SlotId} {waiting : List (Nat × SessionId)} (hws : ws.Nodup)
    (hwaiting : waiting.Nodup) (hmem : ∀ p ∈ waiting, ⟨slot, p.1, p.2⟩ ∈ ws) :
    ∃ ws', (waiting.map fun (i, session) => Entry.expired slot i session).foldlM Entry.book ws =
        some ws' ∧ ws'.Nodup ∧
      ∀ w, w ∈ ws' ↔ w ∈ ws ∧ ¬ (w.slot = slot ∧ (w.resource, w.session) ∈ waiting) := by
  induction waiting generalizing ws with
  | nil => exact ⟨ws, rfl, hws, by simp⟩
  | cons p waiting ih =>
    obtain ⟨i, session⟩ := p
    obtain ⟨hfirst, hrest⟩ := List.forall_mem_cons.mp hmem
    obtain ⟨hnotin, hwaiting⟩ := List.nodup_cons.mp hwaiting
    -- crossing off the first wait must leave the others on the book, hence the `Nodup` of `waiting`
    have hrest' : ∀ p ∈ waiting, ⟨slot, p.1, p.2⟩ ∈ ws.erase ⟨slot, i, session⟩ := by
      intro p hp
      refine (List.mem_erase_of_ne ?_).mpr (hrest p hp)
      rintro ⟨⟩
      exact hnotin hp
    obtain ⟨ws', hbook, hnodup, hws'⟩ := ih (hws.erase _) hwaiting hrest'
    refine ⟨ws', ?_, hnodup, ?_⟩
    · rw [List.map_cons, List.foldlM_cons]
      simp only [Entry.book, if_pos hfirst]
      exact hbook
    · rintro ⟨slot', i', session'⟩
      rw [hws', hws.mem_erase_iff, List.mem_cons]
      simp only [Wait.mk.injEq, Prod.mk.injEq, ne_eq]
      tauto

end Journal

end BoardLink
