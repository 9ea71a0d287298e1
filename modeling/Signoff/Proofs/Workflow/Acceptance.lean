import Signoff.Proofs.Definition.WellFormed

/-!
# Accepted definitions have closed machines

A definition is checked in one pass over its states, transitions and durations, and its machine is
built in another. What the first accepts the second builds: the checks say that one state is
initial, that no two transitions fire on the same event in the same state and that every duration
can be read (`sound_of_check`), and nothing else keeps a workflow from having a machine
(`Machine.ofWorkflow_of_compiles`).

The main statement is `accepted_definition_closed`: the machine starts in the one initial state and
never leaves the declared ones.
-/

namespace Signoff

namespace Definition

variable {d : Definition}

/-- What a definition without a defect satisfies, as far as its machine needs it. -/
structure Sound (d : Definition) : Prop where
  initial : ∃ s, d.states.filter (·.initial) = [s]
  distinct : (d.transitions.map Transition.key).Nodup
  declared : ∀ t ∈ d.transitions, d.declares t.source = true ∧ d.declares t.target = true
  deadlines : ∀ x ∈ d.deadlines.entries, Duration.IsWritten x.2
  reapproval : ∀ r, d.reapproval = some r → d.declares r.target = true ∧ Duration.IsWritten r.after

theorem Sound.compiles (h : d.Sound) : d.Compiles where
  initial := h.initial
  distinct := h.distinct
  deadlines := h.deadlines
  reapproval r hr := (h.reapproval r hr).2

/-- Whether a definition has a defect can be computed. -/
theorem check_of_isOk (h : d.check.isOk = true) : d.check = .ok () := by
  cases eq : d.check with
  | error e => rw [eq] at h; cases h
  | ok u => rfl

theorem WellFormed.sound (h : d.WellFormed) : d.Sound where
  initial := h.initial
  distinct := h.distinct
  declared t ht := ⟨declares_iff.2 (h.sources t ht), declares_iff.2 (h.targets t ht)⟩
  deadlines := forall_deadlines.2 h.deadlines
  reapproval r hr := ⟨declares_iff.2 (h.target r hr), h.after r hr⟩

theorem sound_of_check (h : d.check = .ok ()) : d.Sound := (check_eq_ok.1 h).sound

end Definition

namespace Machine

/-- A sound definition has a machine. -/
theorem ofWorkflow_of_sound {w : Workflow} (h : w.definition.Sound) :
    ∃ m, ofWorkflow w = .ok m :=
  ofWorkflow_of_compiles h.compiles

/-- A deadline is known for the states that have one in the definition. -/
theorem deadline?_isSome {w : Workflow} {m : Machine} (h : ofWorkflow w = .ok m) (state : String) :
    (m.deadline? state).isSome = w.definition.deadlines.contains state := by
  rw [(deadline?_reads h state).isSome_eq, Table.contains]

end Machine

/-- An accepted definition has a machine, under every id. The machine starts in the one state that
is declared initial, every transition that it knows leads from the declared state where it was
looked up to a declared state, documents come back to a declared state, and exactly the states with
a written deadline have one. -/
theorem accepted_definition_closed {d : Definition} {now : Instant} {w : Workflow}
    (accepted : d.accept now = .ok w) (id : String) :
    ∃ m, Machine.ofWorkflow { w with id } = .ok m ∧ d.IsInitial m.initial ∧
      (∀ state event t, m.transition? state event = some t →
        t.source = state ∧ d.declares state = true ∧ d.declares t.target = true) ∧
      (m.reapproval.map (·.target) = d.reapproval.map (·.target) ∧
        ∀ r, m.reapproval = some r → d.declares r.target = true) ∧
      ∀ state, (m.deadline? state).isSome = d.deadlines.contains state := by
  obtain ⟨checked, rfl⟩ := Definition.accept_eq_ok.1 accepted
  have sound := Definition.sound_of_check checked
  obtain ⟨m, compiled⟩ := Machine.ofWorkflow_of_sound (w := ⟨id, d, now⟩) sound
  have target := Machine.readReapproval_target (Machine.ofWorkflow_ok compiled).2.2.2.2.2
  refine ⟨m, compiled, Machine.isInitial_initial compiled, ?_, ⟨target, ?_⟩,
    Machine.deadline?_isSome compiled⟩
  · intro state event t found
    obtain ⟨mem, rfl, -⟩ := (Machine.transition?_eq_some_iff compiled).1 found
    exact ⟨rfl, sound.declared t mem⟩
  · intro r policy
    rw [policy] at target
    obtain ⟨r', written, same⟩ := Option.map_eq_some_iff.1 target.symm
    have same : r'.target = r.target := same
    rw [← same]
    exact (sound.reapproval r' written).1

/-- A definition with a loop, a deadline for a state that is not declared, and a policy. -/
def looping : Definition where
  name := "l"
  states := [⟨"Open", false, false⟩, ⟨"New", true, false⟩, ⟨"Done", false, true⟩]
  transitions := [⟨"New", "Open", "take", .empty⟩, ⟨"Open", "New", "drop", .empty⟩,
    ⟨"Open", "Done", "end", .ofList ["ed"]⟩, ⟨"Done", "Open", "end", .empty⟩]
  deadlines := .ofList [("Lost", "1.5h"), ("New", "90m")]
  reapproval := some ⟨"2h", "Open"⟩

/-- The machine of that definition starts in its second state and has its deadlines and policy. -/
theorem looping_definition_closed :
    looping.accept .epoch = .ok ⟨"", looping, .epoch⟩ ∧
    ∃ m, Machine.ofWorkflow ⟨"w", looping, .epoch⟩ = .ok m ∧ looping.IsInitial m.initial ∧
      (∃ t, m.transition? "Done" "end" = some t ∧ looping.declares t.target = true) ∧
      (m.deadline? "Lost").isSome = true ∧ (m.deadline? "Open").isSome = false := by
  have accepted : looping.accept .epoch = .ok ⟨"", looping, .epoch⟩ :=
    Definition.accept_eq_ok.2 ⟨Definition.check_of_isOk (by decide +kernel), rfl⟩
  obtain ⟨m, compiled, initial, moves, -, deadlines⟩ := accepted_definition_closed accepted "w"
  have found : m.transition? "Done" "end" = some ⟨"Done", "Open", "end", .empty⟩ :=
    (Machine.transition?_eq_some_iff compiled).2 ⟨by decide, rfl, rfl⟩
  refine ⟨accepted, m, compiled, initial, ⟨_, found, (moves _ _ _ found).2.2⟩, ?_, ?_⟩
  · rw [deadlines]
    decide +kernel
  · rw [deadlines]
    decide +kernel

end Signoff
