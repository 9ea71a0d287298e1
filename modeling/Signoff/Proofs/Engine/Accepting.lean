import Mathlib.Control.Monad.Basic
import Signoff.Proofs.Engine.Memory
import Signoff.Proofs.Workflow.Acceptance

/-!
# Just the well-formed definitions are accepted

A definition is accepted just if it is well-formed, and it is kept as it was given, with the time of
its acceptance (`acceptance_exact`). What is not accepted fails as an invalid definition, on every
store.

Where several things are wrong, the one that is reported depends on the order of the checks. A
deadline is reported just if the structure is sound and some deadline cannot be read, and among
those it is the one of the least state, in the order of the bytes (`FirstUnread`).
-/

namespace Signoff

namespace Definition

variable {d : Definition}

/-- A state has a deadline that cannot be read. -/
def Unread (d : Definition) (state : String) : Prop :=
  ∃ text, d.deadlines.get? state = some text ∧ ¬ Duration.IsWritten text

/-- The deadline of a state cannot be read, for a reason, and no state whose bytes come before has
one that cannot be read. -/
structure FirstUnread (d : Definition) (state : String) (error : Duration.ParseError) : Prop where
  reason : ∃ text, d.deadlines.get? state = some text ∧ Duration.parse text = .error error
  least : ∀ other, d.Unread other → other ≠ state → encode state < encode other

/-- A defect is about a deadline. -/
def Defect.IsDeadline (defect : Defect) : Prop := ∃ state error, defect = .badDeadline state error

theorem not_isWritten_of_parse {text : String} {error : Duration.ParseError}
    (h : Duration.parse text = .error error) : ¬ Duration.IsWritten text := by
  rintro ⟨duration, read⟩
  cases h.symm.trans read

theorem FirstUnread.unread {state : String} {error : Duration.ParseError}
    (h : d.FirstUnread state error) : d.Unread state := by
  obtain ⟨text, deadline, failed⟩ := h.reason
  exact ⟨text, deadline, not_isWritten_of_parse failed⟩

/-! ## Defects that are not about a deadline -/

theorem require_eq_error {condition : Bool} {defect defect' : Defect}
    (h : require condition defect = .error defect') : defect' = defect := by
  cases condition
  · exact (Except.error.inj h).symm
  · cases h

theorem checkStates_not_isDeadline {before : List String} {states : List State} {defect : Defect}
    (h : checkStates before states = .error defect) : ¬ defect.IsDeadline := by
  induction states generalizing before with
  | nil => cases h
  | cons s states ih =>
    simp only [checkStates, bind_eq_error] at h
    rcases h with h | ⟨_, -, h | ⟨_, -, h⟩⟩
    · cases require_eq_error h
      rintro ⟨_, _, ⟨⟩⟩
    · cases require_eq_error h
      rintro ⟨_, _, ⟨⟩⟩
    · exact ih h

theorem checkTransitions_not_isDeadline {before : List (String × String)} {ts : List Transition}
    {defect : Defect} (h : d.checkTransitions before ts = .error defect) : ¬ defect.IsDeadline := by
  induction ts generalizing before with
  | nil => cases h
  | cons t ts ih =>
    simp only [checkTransitions, bind_eq_error] at h
    rcases h with h | ⟨_, -, h | ⟨_, -, h | ⟨_, -, h | ⟨_, -, h⟩⟩⟩⟩
    · cases require_eq_error h
      rintro ⟨_, _, ⟨⟩⟩
    · cases require_eq_error h
      rintro ⟨_, _, ⟨⟩⟩
    · cases require_eq_error h
      rintro ⟨_, _, ⟨⟩⟩
    · cases require_eq_error h
      rintro ⟨_, _, ⟨⟩⟩
    · exact ih h

theorem checkStructure_not_isDeadline {defect : Defect} (h : d.checkStructure = .error defect) :
    ¬ defect.IsDeadline := by
  simp only [checkStructure, bind_eq_error] at h
  rcases h with h | ⟨_, -, h | ⟨_, -, h | ⟨_, -, h⟩⟩⟩
  · cases require_eq_error h
    rintro ⟨_, _, ⟨⟩⟩
  · exact checkStates_not_isDeadline h
  · cases require_eq_error h
    rintro ⟨_, _, ⟨⟩⟩
  · exact checkTransitions_not_isDeadline h

theorem checkReapproval_not_isDeadline {defect : Defect} (h : d.checkReapproval = .error defect) :
    ¬ defect.IsDeadline := by
  unfold checkReapproval at h
  split at h
  · cases h
  · rw [bind_eq_error] at h
    rcases h with h | ⟨_, -, h⟩
    · cases require_eq_error h
      nofun
    · split at h
      · cases h
      · cases h
        nofun

/-! ## The deadline that is found -/

/-- The deadlines are gone through by increasing state, so the first one that cannot be read is the
one of the least state. -/
theorem firstUnread_of_checkDeadlines {defect : Defect}
    (h : checkDeadlines d.deadlines.entries = .error defect) :
    ∃ state error, defect = .badDeadline state error ∧ d.FirstUnread state error := by
  obtain ⟨good, state, text, rest, error, split, readable, failed, rfl⟩ := checkDeadlines_eq_error h
  have deadline : d.deadlines.get? state = some text := by
    rw [← Table.mem_entries_iff, split]
    exact List.mem_append_right _ List.mem_cons_self
  have behind : ∀ x ∈ rest, compare state x.1 = .lt := by
    have increasing := d.deadlines.increasing
    rw [split] at increasing
    exact (List.pairwise_cons.1 (List.pairwise_append.1 increasing).2.1).1
  refine ⟨state, error, rfl, ⟨text, deadline, failed⟩, ?_⟩
  rintro other ⟨text', deadline', unread⟩ apart
  have mem := (Table.mem_entries_iff _ _ _).2 deadline'
  rw [split, List.mem_append, List.mem_cons] at mem
  obtain before | same | after := mem
  · exact absurd (readable _ before) unread
  · exact absurd (congrArg Prod.fst same) apart
  · exact encode_lt_encode.2 (lt_of_compare_eq_lt (behind _ after))

/-- A defect is about a deadline just if the structure is sound and a deadline cannot be read. It is
then about the first of them. -/
theorem check_eq_error {defect : Defect} (h : d.check = .error defect) :
    (defect.IsDeadline ↔ d.Structured ∧ ∃ state, d.Unread state) ∧
      ∀ state error, defect = .badDeadline state error → d.FirstUnread state error := by
  simp only [check, bind_eq_error] at h
  obtain failed | ⟨_, structured, failed | ⟨_, readable, failed⟩⟩ := h
  · have other := checkStructure_not_isDeadline failed
    refine ⟨iff_of_false other ?_, fun _ _ eq => absurd ⟨_, _, eq⟩ other⟩
    rintro ⟨structured, -⟩
    cases failed.symm.trans (checkStructure_eq_ok.2 structured)
  · obtain ⟨state, error, rfl, first⟩ := firstUnread_of_checkDeadlines failed
    refine ⟨iff_of_true ⟨_, _, rfl⟩ ⟨checkStructure_eq_ok.1 structured, state, first.unread⟩, ?_⟩
    rintro _ _ ⟨⟩
    exact first
  · have other := checkReapproval_not_isDeadline failed
    refine ⟨iff_of_false other ?_, fun _ _ eq => absurd ⟨_, _, eq⟩ other⟩
    rintro ⟨-, state, text, deadline, unread⟩
    exact unread (forall_deadlines.1 (checkDeadlines_eq_ok.1 readable) state text deadline)

theorem accept_eq_error {now : Instant} {defect : Defect} :
    d.accept now = .error defect ↔ d.check = .error defect := by
  simp [accept, bind_eq_error, pure, Except.pure]

end Definition

/-- An accepted definition has a machine, so on any store a definition is saved just if it has no
defect. -/
theorem Engine.createWorkflow_checked {σ : Type} [Store σ] (now : Instant) (d : Definition)
    (s : σ × Ambient) :
    createWorkflow now d s = match d.check with
      | .error e => (.error (.invalidDefinition e.message), s.1, s.2.warn d)
      | .ok () =>
        ((Store.saveWorkflow ⟨"", d, now⟩ s.1).1, (Store.saveWorkflow ⟨"", d, now⟩ s.1).2,
          s.2.warn d) := by
  obtain ⟨records, ambient⟩ := s
  rw [createWorkflow_apply]
  cases checked : d.check with
  | error e => rw [Definition.accept_eq_error.2 checked]
  | ok u =>
    obtain ⟨m, compiled⟩ := Machine.ofWorkflow_of_sound (w := ⟨"", d, now⟩)
      (Definition.sound_of_check checked)
    rw [Definition.accept_eq_ok.2 ⟨checked, rfl⟩]
    dsimp only
    rw [Workflow.machine_eq_ok.2 compiled]

/-- Just the well-formed definitions are accepted. The workflow has no id yet, has the definition as
it was given, and was created at that time. Everything else is an invalid definition on every store,
and if a deadline is what is wrong, it names the least state whose deadline cannot be read. -/
theorem acceptance_exact (d : Definition) (now : Instant) :
    ((∃ w, d.accept now = .ok w) ↔ d.WellFormed) ∧
    (∀ w, d.accept now = .ok w → w = ⟨"", d, now⟩) ∧
    ∀ defect, d.accept now = .error defect →
      (∀ {σ : Type} [Store σ] (s : σ) (a : Ambient),
        (Engine.createWorkflow now d (s, a)).1 = .error (.invalidDefinition defect.message)) ∧
      (defect.IsDeadline ↔ d.Structured ∧ ∃ state, d.Unread state) ∧
      ∀ state error, defect = .badDeadline state error →
        d.FirstUnread state error ∧
          defect.message = s!"invalid SLA duration for state '{state}': {error.message}" := by
  refine ⟨?_, fun w accepted => (Definition.accept_eq_ok.1 accepted).2, fun defect refused => ?_⟩
  · rw [← Definition.check_eq_ok]
    exact ⟨fun ⟨_, accepted⟩ => (Definition.accept_eq_ok.1 accepted).1,
      fun checked => ⟨_, Definition.accept_eq_ok.2 ⟨checked, rfl⟩⟩⟩
  · obtain ⟨deadline, first⟩ := Definition.check_eq_error (Definition.accept_eq_error.1 refused)
    refine ⟨fun s a => ?_, deadline, ?_⟩
    · rw [Engine.createWorkflow_apply, refused]
    · rintro state error rfl
      exact ⟨first state error rfl, rfl⟩

/-- A definition with deadlines in three states, two of which are not declared. -/
def spelt : Definition where
  name := "s"
  states := [⟨"New", true, false⟩]
  transitions := [⟨"New", "New", "again", .empty⟩]
  deadlines := .ofList [("été", "1s"), ("New", "90m"), ("zoo", "1h")]
  reapproval := some ⟨"2h", "New"⟩

theorem spelt_wellFormed : spelt.WellFormed where
  named := by decide
  inhabited := by decide
  statesNamed := by decide
  statesApart := by decide
  initial := ⟨_, rfl⟩
  events := by decide
  sources := by decide
  targets := by decide
  distinct := by decide
  deadlines := by
    refine Definition.forall_deadlines.1 fun x hx => ?_
    obtain rfl | rfl | rfl : x = ("New", "90m") ∨ x = ("zoo", "1h") ∨ x = ("été", "1s") := by
      simpa [show spelt.deadlines.entries = [("New", "90m"), ("zoo", "1h"), ("été", "1s")] from by
        decide +kernel] using hx
    · exact ⟨⟨90 * Duration.minute⟩, by decide +kernel⟩
    · exact ⟨⟨Duration.hour⟩, by decide +kernel⟩
    · exact ⟨⟨Duration.second⟩, by decide +kernel⟩
  target := by
    rintro r ⟨⟩
    decide
  after := by
    rintro r ⟨⟩
    exact ⟨⟨2 * Duration.hour⟩, by decide +kernel⟩

/-- The same, with two deadlines that cannot be read and documents that come back to nowhere. -/
def misspelt : Definition :=
  { spelt with
    deadlines := .ofList [("été", "soon"), ("New", "90m"), ("zoo", "1 h")]
    reapproval := some ⟨"later", "Nowhere"⟩ }

/-- The one is accepted. The other is refused for the deadline that comes first in the order of the
bytes, and not for its policy. -/
theorem misspelt_acceptance_exact :
    (∃ w, spelt.accept .epoch = .ok w ∧ w.id = "" ∧ w.createdAt = .epoch) ∧
    ∃ error, misspelt.accept .epoch = .error (.badDeadline "zoo" error) ∧
      misspelt.FirstUnread "zoo" error ∧ misspelt.Structured := by
  constructor
  · obtain ⟨w, accepted⟩ := (acceptance_exact spelt .epoch).1.2 spelt_wellFormed
    refine ⟨w, accepted, ?_, ?_⟩
    · rw [(acceptance_exact spelt .epoch).2.1 w accepted]
    · rw [(acceptance_exact spelt .epoch).2.1 w accepted]
  · have refused : misspelt.accept .epoch =
        .error (.badDeadline "zoo" ⟨.unknownUnit " h", "1 h"⟩) := by
      rw [Definition.accept_eq_error]
      decide +kernel
    obtain ⟨-, deadline, first⟩ := (acceptance_exact misspelt .epoch).2.2 _ refused
    exact ⟨_, refused, (first _ _ rfl).1, (deadline.1 ⟨_, _, rfl⟩).1⟩

end Signoff
