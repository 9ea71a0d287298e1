import Signoff.Proofs.Workflow.Exactness

/-!
# What is checked of a definition

The checks go through a definition in one pass and stop at the first defect. There is none just if
the definition is well-formed (`Definition.check_eq_ok`), which is said here of its states, its
transitions and its durations as they are, without an order in which to look at them. There is one
lemma for each check, and where the check goes through a list, it also tells what the check
remembers of what came before.

Among deadlines the first that cannot be read is found, and that is the one of the least state
(`checkDeadlines_eq_error`).
-/

namespace Signoff.Definition

/-- What a definition has to satisfy before its durations are looked at. -/
structure Structured (d : Definition) : Prop where
  named : d.name ≠ ""
  inhabited : d.states ≠ []
  statesNamed : ∀ s ∈ d.states, s.name ≠ ""
  statesApart : (d.states.map (·.name)).Nodup
  initial : ∃ s, d.states.filter (·.initial) = [s]
  events : ∀ t ∈ d.transitions, t.event ≠ ""
  sources : ∀ t ∈ d.transitions, ∃ s ∈ d.states, s.name = t.source
  targets : ∀ t ∈ d.transitions, ∃ s ∈ d.states, s.name = t.target
  distinct : (d.transitions.map Transition.key).Nodup

/-- What a definition has to satisfy to be accepted. A deadline may be for a state that is not
declared. -/
structure WellFormed (d : Definition) : Prop extends Structured d where
  deadlines : ∀ state text, d.deadlines.get? state = some text → Duration.IsWritten text
  target : ∀ r, d.reapproval = some r → ∃ s ∈ d.states, s.name = r.target
  after : ∀ r, d.reapproval = some r → Duration.IsWritten r.after

variable {d : Definition}

/-- Two checks that stand one after the other. -/
theorem seq_eq_ok {x y : Except Defect Unit} :
    (do x; y) = .ok () ↔ x = .ok () ∧ y = .ok () := by
  rw [bind_eq_ok]
  exact ⟨fun ⟨_, hx, hy⟩ => ⟨hx, hy⟩, fun ⟨hx, hy⟩ => ⟨(), hx, hy⟩⟩

/-! ## States and transitions -/

theorem checkStates_eq_ok {before : List String} {states : List State} :
    checkStates before states = .ok () ↔
      (∀ s ∈ states, s.name ≠ "" ∧ s.name ∉ before) ∧ (states.map (·.name)).Nodup := by
  induction states generalizing before with
  | nil => simp [checkStates]
  | cons s states ih =>
    have named : (!s.name.isEmpty) = true ↔ s.name ≠ "" := by simp
    have new : (!before.contains s.name) = true ↔ s.name ∉ before := by simp
    simp only [checkStates, seq_eq_ok, require_eq_ok, ih, named, new, List.map_cons,
      List.nodup_cons, List.mem_map, List.mem_cons, not_or]
    grind

theorem checkTransitions_eq_ok {before : List (String × String)} {ts : List Transition} :
    d.checkTransitions before ts = .ok () ↔
      (∀ t ∈ ts, (t.source ≠ "" ∧ t.target ≠ "" ∧ t.event ≠ "") ∧ d.declares t.source = true ∧
        d.declares t.target = true ∧ t.key ∉ before) ∧ (ts.map Transition.key).Nodup := by
  induction ts generalizing before with
  | nil => simp [checkTransitions]
  | cons t ts ih =>
    have complete : (!t.source.isEmpty && !t.target.isEmpty && !t.event.isEmpty) = true ↔
        t.source ≠ "" ∧ t.target ≠ "" ∧ t.event ≠ "" := by
      simp [and_assoc]
    have new : (!before.contains (t.source, t.event)) = true ↔ t.key ∉ before := by
      simp [Transition.key]
    simp only [checkTransitions, seq_eq_ok, require_eq_ok, ih, complete, new, List.map_cons,
      List.nodup_cons, List.mem_map, List.mem_cons, not_or]
    grind [Transition.key]

/-- A state that is named apart from the others is declared under a name that is not empty. -/
theorem ne_empty_of_declares (named : ∀ s ∈ d.states, s.name ≠ "") {name : String}
    (h : d.declares name = true) : name ≠ "" := by
  obtain ⟨s, mem, rfl⟩ := declares_iff.1 h
  exact named s mem

theorem checkStructure_eq_ok : d.checkStructure = .ok () ↔ d.Structured := by
  have named : (!d.name.isEmpty && !d.states.isEmpty) = true ↔ d.name ≠ "" ∧ d.states ≠ [] := by
    simp
  have one : (d.initialCount == 1) = true ↔ ∃ s, d.states.filter (·.initial) = [s] := by
    rw [beq_iff_eq, initialCount, List.countP_eq_length_filter, List.length_eq_one_iff]
  simp only [checkStructure, seq_eq_ok, require_eq_ok, named, one, checkStates_eq_ok,
    checkTransitions_eq_ok, List.not_mem_nil, not_false_eq_true, and_true, declares_iff]
  constructor
  · rintro ⟨⟨named, inhabited⟩, ⟨statesNamed, statesApart⟩, initial, transitions, distinct⟩
    exact {
      named, inhabited, statesNamed, statesApart, initial, distinct
      events := fun t ht => (transitions t ht).1.2.2
      sources := fun t ht => (transitions t ht).2.1
      targets := fun t ht => (transitions t ht).2.2 }
  · intro h
    refine ⟨⟨h.named, h.inhabited⟩, ⟨h.statesNamed, h.statesApart⟩, h.initial, fun t ht => ?_,
      h.distinct⟩
    -- a declared state has a name, so the ends of a transition need no check of their own
    have source := ne_empty_of_declares h.statesNamed (declares_iff.2 (h.sources t ht))
    have target := ne_empty_of_declares h.statesNamed (declares_iff.2 (h.targets t ht))
    exact ⟨⟨source, target, h.events t ht⟩, h.sources t ht, h.targets t ht⟩

/-! ## Durations -/

theorem checkDeadlines_eq_ok {entries : List (String × String)} :
    checkDeadlines entries = .ok () ↔ ∀ x ∈ entries, Duration.IsWritten x.2 := by
  induction entries with
  | nil => simp [checkDeadlines]
  | cons x rest ih =>
    obtain ⟨state, text⟩ := x
    rw [checkDeadlines, List.forall_mem_cons, Duration.IsWritten]
    cases Duration.parse text <;> simp [ih]

/-- The deadline that is found is unreadable, and those before it are not. -/
theorem checkDeadlines_eq_error {entries : List (String × String)} {defect : Defect}
    (h : checkDeadlines entries = .error defect) :
    ∃ good state text rest e, entries = good ++ (state, text) :: rest ∧
      (∀ x ∈ good, Duration.IsWritten x.2) ∧ Duration.parse text = .error e ∧
      defect = .badDeadline state e := by
  induction entries with
  | nil => cases h
  | cons x entries ih =>
    obtain ⟨state, text⟩ := x
    rw [checkDeadlines] at h
    split at h
    · rename_i duration read
      obtain ⟨good, state', text', rest, e, rfl, readable, found⟩ := ih h
      exact ⟨(state, text) :: good, state', text', rest, e, rfl,
        List.forall_mem_cons.2 ⟨⟨duration, read⟩, readable⟩, found⟩
    · rename_i e unread
      exact ⟨[], state, text, entries, e, rfl, nofun, unread, (Except.error.inj h).symm⟩

theorem checkReapproval_eq_ok :
    d.checkReapproval = .ok () ↔ ∀ r, d.reapproval = some r →
      (r.target ≠ "" ∧ d.declares r.target = true) ∧ Duration.IsWritten r.after := by
  rw [checkReapproval]
  cases d.reapproval with
  | none => simp
  | some r =>
    have back : (!r.target.isEmpty && d.declares r.target) = true ↔
        r.target ≠ "" ∧ d.declares r.target = true := by
      simp
    simp only [seq_eq_ok, require_eq_ok, back, Option.some.injEq, forall_eq', Duration.IsWritten]
    cases Duration.parse r.after <;> simp

/-! ## The whole definition -/

/-- What is looked up in the deadlines is what stands in them. -/
theorem forall_deadlines {P : String → Prop} :
    (∀ x ∈ d.deadlines.entries, P x.2) ↔
      ∀ state text, d.deadlines.get? state = some text → P text := by
  simp only [← Table.mem_entries_iff, Prod.forall]

/-- Just the well-formed definitions have no defect. -/
theorem check_eq_ok : d.check = .ok () ↔ d.WellFormed := by
  simp only [check, seq_eq_ok, checkStructure_eq_ok, checkDeadlines_eq_ok, checkReapproval_eq_ok,
    forall_deadlines, declares_iff]
  constructor
  · rintro ⟨structured, deadlines, reapproval⟩
    exact {
      structured with
      deadlines
      target := fun r hr => (reapproval r hr).1.2
      after := fun r hr => (reapproval r hr).2 }
  · intro h
    refine ⟨h.toStructured, h.deadlines, fun r hr => ⟨⟨?_, h.target r hr⟩, h.after r hr⟩⟩
    exact ne_empty_of_declares h.statesNamed (declares_iff.2 (h.target r hr))

end Signoff.Definition
