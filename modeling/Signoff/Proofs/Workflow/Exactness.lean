import Mathlib.Control.Monad.Basic
import Signoff.Proofs.Text.Order
import Signoff.Proofs.Workflow.Machine

/-!
# Machines are exact

A machine is built from any definition, checked or not. There is one just if one state is initial,
no two transitions fire on the same event in the same state, and every duration can be read
(`Definition.Compiles`). Looked up state by state it is the definition (`Machine.Mirrors`), and
without it the defect is told by its class: no state is initial, or something else is wrong.

The main statement is `machine_exact`. Each part of a machine is built by a function of its own, and
there are two lemmas for each: what is enough for it to succeed (`findInitial_of`,
`addTransitions_of`, `addDeadlines_of`, `readReapproval_of`), and what it has found out when it did.
-/

namespace Signoff

/-- The state and the event at which a transition fires. -/
def Transition.key (t : Transition) : String × String := (t.source, t.event)

/-- The text of a duration. -/
def Duration.IsWritten (text : String) : Prop := ∃ d, Duration.parse text = .ok d

/-- A state is declared initial. -/
def Definition.HasInitial (d : Definition) : Prop := ∃ s ∈ d.states, s.initial = true

/-- What a definition needs to have a machine. -/
structure Definition.Compiles (d : Definition) : Prop where
  initial : ∃ s, d.states.filter (·.initial) = [s]
  distinct : (d.transitions.map Transition.key).Nodup
  deadlines : ∀ x ∈ d.deadlines.entries, Duration.IsWritten x.2
  reapproval : ∀ r, d.reapproval = some r → Duration.IsWritten r.after

namespace Machine

/-- The policy is the one that is written, with its duration as it is read. -/
def Reapproval.Reads : Option Signoff.Reapproval → Option Reapproval → Prop
  | none, read => read = none
  | some r, read => ∃ after, Duration.parse r.after = .ok after ∧ read = some ⟨after, r.target⟩

/-- Looked up, the machine is the definition of the workflow. -/
structure Mirrors (m : Machine) (w : Workflow) : Prop where
  workflowId : m.workflowId = w.id
  initial : w.definition.IsInitial m.initial
  terminal : ∀ state, m.isTerminal state = true ↔ w.definition.IsTerminal state
  transition : ∀ state event t, m.transition? state event = some t ↔
    t ∈ w.definition.transitions ∧ t.source = state ∧ t.event = event
  leaving : ∀ state t, t ∈ m.transitionsFrom state ↔
    t ∈ w.definition.transitions ∧ t.source = state
  increasing : ∀ state, (m.transitionsFrom state).Pairwise fun t u => t.event < u.event
  deadline : ∀ state, Duration.Reads (w.definition.deadlines.get? state) (m.deadline? state)
  reapproval : Reapproval.Reads w.definition.reapproval m.reapproval

/-! ## What is enough for a machine -/

theorem findInitial_of {d : Definition} {s : State} (h : d.states.filter (·.initial) = [s]) :
    findInitial d = .ok s.name := by
  rw [findInitial, h]

/-- Transitions that fire apart can be added where none of their places is taken. -/
theorem addTransitions_of (table : Table String (Table String Transition)) {ts : List Transition}
    (distinct : (ts.map Transition.key).Nodup)
    (free : ∀ t ∈ ts, entry table t.source t.event = none) :
    ∃ table', addTransitions table ts = .ok table' := by
  induction ts generalizing table with
  | nil => exact ⟨table, rfl⟩
  | cons t ts ih =>
    obtain ⟨here, others⟩ := List.forall_mem_cons.1 free
    rw [List.map_cons, List.nodup_cons] at distinct
    simp only [addTransitions, contains_eq_isSome_entry, here]
    refine ih _ distinct.2 fun u hu => ?_
    have apart : ¬ (u.source = t.source ∧ u.event = t.event) := by
      rintro ⟨source, event⟩
      exact distinct.1 (List.mem_map.2 ⟨u, hu, Prod.ext source event⟩)
    rw [entry_insert, if_neg apart]
    exact others u hu

theorem addDeadlines_of (table : Table String Duration) {entries : List (String × String)}
    (h : ∀ x ∈ entries, Duration.IsWritten x.2) :
    ∃ table', addDeadlines table entries = .ok table' := by
  induction entries generalizing table with
  | nil => exact ⟨table, rfl⟩
  | cons x rest ih =>
    obtain ⟨⟨duration, read⟩, others⟩ := List.forall_mem_cons.1 h
    simp only [addDeadlines, read]
    exact ih _ others

theorem readReapproval_of {policy : Option Signoff.Reapproval}
    (h : ∀ r, policy = some r → Duration.IsWritten r.after) :
    ∃ read, readReapproval policy = .ok read := by
  cases policy with
  | none => exact ⟨none, rfl⟩
  | some r =>
    obtain ⟨duration, read⟩ := h r rfl
    exact ⟨some ⟨duration, r.target⟩, by rw [readReapproval, read]⟩

/-- A definition that has what it needs has a machine. -/
theorem ofWorkflow_of_compiles {w : Workflow} (h : w.definition.Compiles) :
    ∃ m, ofWorkflow w = .ok m := by
  obtain ⟨s, only⟩ := h.initial
  obtain ⟨transitions, added⟩ := addTransitions_of .empty h.distinct fun _ _ => rfl
  obtain ⟨deadlines, read⟩ := addDeadlines_of .empty h.deadlines
  obtain ⟨reapproval, policy⟩ := readReapproval_of h.reapproval
  exact ⟨_, by simp only [ofWorkflow, findInitial_of only, added, read, policy]; rfl⟩

/-! ## What a machine has found out -/

/-- Transitions that were added fire apart, at places that were free. -/
theorem addTransitions_distinct {table table' : Table String (Table String Transition)}
    {ts : List Transition} (h : addTransitions table ts = .ok table') :
    (ts.map Transition.key).Nodup ∧ ∀ t ∈ ts, entry table t.source t.event = none := by
  induction ts generalizing table with
  | nil => simp
  | cons t ts ih =>
    simp only [addTransitions, contains_eq_isSome_entry] at h
    split at h
    · cases h
    rename_i free
    have free : entry table t.source t.event = none := by simpa using free
    obtain ⟨distinct, others⟩ := ih h
    -- the place of `t` is taken when the others are added
    have taken (u : Transition) (hu : u ∈ ts) : ¬ (u.source = t.source ∧ u.event = t.event) := by
      intro same
      have := others u hu
      rw [entry_insert, if_pos same] at this
      cases this
    refine ⟨List.nodup_cons.2 ⟨fun again => ?_, distinct⟩, List.forall_mem_cons.2 ⟨free, ?_⟩⟩
    · obtain ⟨u, hu, same⟩ := List.mem_map.1 again
      exact taken u hu (Prod.ext_iff.1 same)
    · intro u hu
      have := others u hu
      rwa [entry_insert, if_neg (taken u hu)] at this

theorem addDeadlines_written {table table' : Table String Duration}
    {entries : List (String × String)} (h : addDeadlines table entries = .ok table') :
    ∀ x ∈ entries, Duration.IsWritten x.2 := by
  induction entries generalizing table with
  | nil => simp
  | cons x rest ih =>
    obtain ⟨state, text⟩ := x
    rw [addDeadlines] at h
    split at h
    · rename_i duration read
      exact List.forall_mem_cons.2 ⟨⟨duration, read⟩, ih h⟩
    · cases h

theorem readReapproval_eq_ok {policy : Option Signoff.Reapproval} {read : Option Reapproval} :
    readReapproval policy = .ok read ↔ Reapproval.Reads policy read := by
  cases policy with
  | none => exact ⟨fun h => (Except.ok.inj h).symm, fun h => congrArg Except.ok (Eq.symm h)⟩
  | some r =>
    rw [readReapproval, Reapproval.Reads]
    cases Duration.parse r.after <;> simp [eq_comm]

/-- A definition with a machine has what it needs. -/
theorem compiles_of_ofWorkflow {w : Workflow} {m : Machine} (h : ofWorkflow w = .ok m) :
    w.definition.Compiles := by
  obtain ⟨-, initial, -, transitions, deadlines, reapproval⟩ := ofWorkflow_ok h
  obtain ⟨s, only, -⟩ := findInitial_ok initial
  exact {
    initial := ⟨s, only⟩
    distinct := (addTransitions_distinct transitions).1
    deadlines := addDeadlines_written deadlines
    reapproval := fun r written => by
      have reads := readReapproval_eq_ok.1 reapproval
      rw [written] at reads
      obtain ⟨after, read, -⟩ := reads
      exact ⟨after, read⟩ }

theorem mirrors {w : Workflow} {m : Machine} (h : ofWorkflow w = .ok m) : m.Mirrors w where
  workflowId := (ofWorkflow_ok h).1
  initial := isInitial_initial h
  terminal _ := isTerminal_iff h
  transition _ _ _ := transition?_eq_some_iff h
  leaving state t := by
    rw [mem_transitionsFrom h, transition?_eq_some_iff h]
    simp
  increasing state :=
    (List.pairwise_map.1 (eventsFrom_increasing h state)).imp lt_of_compare_eq_lt
  deadline := deadline?_reads h
  reapproval := readReapproval_eq_ok.1 (ofWorkflow_ok h).2.2.2.2.2

/-! ## What is wrong without a machine -/

namespace Defect

/-- What needs the machine fails because the workflow cannot be compiled. -/
def IsCompilation (defect : Defect) : Prop := ∃ reason, defect.toFailure = .compilation reason

/-- What needs the machine fails because something does not hold that was to be ruled out. -/
def IsInvariant (defect : Defect) : Prop := ∃ reason, defect.toFailure = .invariant reason

theorem IsCompilation.not_isInvariant {defect : Defect} (h : defect.IsCompilation) :
    ¬ defect.IsInvariant := by
  obtain ⟨reason, eq⟩ := h
  rintro ⟨reason', eq'⟩
  cases eq.symm.trans eq'

end Defect

theorem findInitial_eq_error {d : Definition} {defect : Defect}
    (h : findInitial d = .error defect) :
    ¬ d.HasInitial ∧ defect.IsCompilation ∨ d.HasInitial ∧ defect.IsInvariant := by
  unfold findInitial at h
  split at h
  · rename_i none_
    cases h
    refine .inl ⟨?_, _, rfl⟩
    rintro ⟨s, mem, initial⟩
    exact List.filter_eq_nil_iff.1 none_ s mem initial
  · cases h
  · rename_i s s' rest several
    cases h
    have mem : s ∈ d.states.filter (·.initial) := by rw [several]; exact List.mem_cons_self
    exact .inr ⟨⟨s, List.mem_filter.1 mem⟩, _, rfl⟩

theorem addTransitions_eq_error {table : Table String (Table String Transition)}
    {ts : List Transition} {defect : Defect} (h : addTransitions table ts = .error defect) :
    defect.IsInvariant := by
  induction ts generalizing table with
  | nil => cases h
  | cons t ts ih =>
    rw [addTransitions] at h
    split at h
    · cases h
      exact ⟨_, rfl⟩
    · exact ih h

theorem addDeadlines_eq_error {table : Table String Duration} {entries : List (String × String)}
    {defect : Defect} (h : addDeadlines table entries = .error defect) : defect.IsInvariant := by
  induction entries generalizing table with
  | nil => cases h
  | cons x rest ih =>
    obtain ⟨state, text⟩ := x
    rw [addDeadlines] at h
    split at h
    · exact ih h
    · cases h
      exact ⟨_, rfl⟩

theorem readReapproval_eq_error {policy : Option Signoff.Reapproval} {defect : Defect}
    (h : readReapproval policy = .error defect) : defect.IsInvariant := by
  unfold readReapproval at h
  split at h
  · cases h
  · split at h
    · cases h
    · cases h
      exact ⟨_, rfl⟩

/-- The initial state is looked for first, and everything else that may be wrong is of one class. -/
theorem ofWorkflow_eq_error {w : Workflow} {defect : Defect} (h : ofWorkflow w = .error defect) :
    ¬ w.definition.HasInitial ∧ defect.IsCompilation ∨
      w.definition.HasInitial ∧ defect.IsInvariant := by
  simp only [ofWorkflow, bind_eq_error, pure, Except.pure] at h
  obtain none_ | ⟨name, initial, others⟩ := h
  · exact findInitial_eq_error none_
  obtain ⟨s, only, -⟩ := findInitial_ok initial
  have mem : s ∈ w.definition.states.filter (·.initial) := by
    rw [only]
    exact List.mem_cons_self
  refine .inr ⟨⟨s, List.mem_filter.1 mem⟩, ?_⟩
  obtain clash | ⟨_, -, unread | ⟨_, -, unread | ⟨_, -, ⟨⟩⟩⟩⟩ := others
  · exact addTransitions_eq_error clash
  · exact addDeadlines_eq_error unread
  · exact readReapproval_eq_error unread

end Machine

/-- A workflow has a machine just if its definition has one initial state, transitions that fire
apart and durations that can be read, whether or not it was checked. The machine is the definition,
looked up, and without one the failure is about compilation just if no state is initial. -/
theorem machine_exact (w : Workflow) :
    ((∃ m, Machine.ofWorkflow w = .ok m) ↔ w.definition.Compiles) ∧
    (∀ m, Machine.ofWorkflow w = .ok m → m.Mirrors w) ∧
    ∀ defect, Machine.ofWorkflow w = .error defect →
      (defect.IsCompilation ↔ ¬ w.definition.HasInitial) ∧
      (defect.IsInvariant ↔ w.definition.HasInitial) := by
  refine ⟨⟨fun ⟨m, compiled⟩ => Machine.compiles_of_ofWorkflow compiled,
    Machine.ofWorkflow_of_compiles⟩, fun m => Machine.mirrors, fun defect failed => ?_⟩
  obtain ⟨none_, compilation⟩ | ⟨has, invariant⟩ := Machine.ofWorkflow_eq_error failed
  · exact ⟨iff_of_true compilation none_, iff_of_false compilation.not_isInvariant none_⟩
  · exact ⟨iff_of_false (fun h => h.not_isInvariant invariant) (not_not_intro has),
      iff_of_true invariant has⟩

/-- A definition that no check would let pass: a state stands twice in it, with different flags, its
transitions lead to a state that is not declared, and so does its policy. -/
def doubled : Definition where
  name := ""
  states := [⟨"Open", true, false⟩, ⟨"Open", false, true⟩]
  transitions := [⟨"Open", "Lost", "go", .empty⟩, ⟨"Lost", "Open", "back", .empty⟩,
    ⟨"Lost", "Lost", "again", .empty⟩]
  deadlines := .ofList [("Lost", "90m")]
  reapproval := some ⟨"2h", "Gone"⟩

theorem doubled_compiles : doubled.Compiles where
  initial := ⟨⟨"Open", true, false⟩, rfl⟩
  distinct := by decide
  deadlines x hx := by
    obtain rfl : x = ("Lost", "90m") := List.mem_singleton.1 hx
    exact ⟨⟨90 * Duration.minute⟩, by decide +kernel⟩
  reapproval r hr := by
    cases hr
    exact ⟨⟨2 * Duration.hour⟩, by decide +kernel⟩

/-- It has a machine all the same, in which the initial state is terminal. With another initial
state, or without one, it has none, and the two are told apart. -/
theorem doubled_machine_exact :
    (∃ m, Machine.ofWorkflow ⟨"w", doubled, .epoch⟩ = .ok m ∧ m.initial = "Open" ∧
      m.isTerminal "Open" = true ∧ m.transition? "Lost" "go" = none ∧
      m.deadline? "Lost" = some ⟨90 * Duration.minute⟩) ∧
    (∃ defect, Machine.ofWorkflow ⟨"w", { doubled with
      states := ⟨"Lost", true, false⟩ :: doubled.states }, .epoch⟩ = .error defect ∧
      defect.IsInvariant) ∧
    ∃ defect, Machine.ofWorkflow ⟨"w", { doubled with states := [] }, .epoch⟩ = .error defect ∧
      defect.IsCompilation := by
  refine ⟨?_, ?_, ?_⟩
  · obtain ⟨m, compiled⟩ := (machine_exact ⟨"w", doubled, .epoch⟩).1.2 doubled_compiles
    have mirrors := (machine_exact ⟨"w", doubled, .epoch⟩).2.1 m compiled
    refine ⟨m, compiled, ?_, ?_, ?_, ?_⟩
    · obtain ⟨s, only, name⟩ := mirrors.initial
      cases only
      exact name.symm
    · exact (mirrors.terminal "Open").2 ⟨⟨"Open", false, true⟩, by decide, rfl, rfl⟩
    · refine Option.eq_none_iff_forall_ne_some.2 fun t found => ?_
      obtain ⟨mem, source, event⟩ := (mirrors.transition "Lost" "go" t).1 found
      have none_ : ∀ t ∈ doubled.transitions, ¬ (t.source = "Lost" ∧ t.event = "go") := by decide
      exact none_ t mem ⟨source, event⟩
    · obtain ⟨d, read, known⟩ := mirrors.deadline "Lost"
      have parsed : Duration.parse "90m" = .ok ⟨90 * Duration.minute⟩ := by decide +kernel
      cases read.symm.trans parsed
      exact known
  · refine ⟨.twoInitialStates "" "Lost" "Open", rfl, ?_⟩
    exact ((machine_exact ⟨"w", { doubled with states := ⟨"Lost", true, false⟩ :: doubled.states },
      .epoch⟩).2.2 _ rfl).2.2 ⟨_, List.mem_cons_self, rfl⟩
  · refine ⟨.noInitialState "", rfl, ?_⟩
    refine ((machine_exact ⟨"w", { doubled with states := [] }, .epoch⟩).2.2 _ rfl).1.2 ?_
    rintro ⟨_, mem, -⟩
    exact List.not_mem_nil mem

end Signoff
