import Signoff.Proofs.Engine.Causes

/-!
# What an event comes to

An event on a document has exactly one outcome, and the records decide which: the rules are those of
the definition that is stored at the time, whether or not it was ever checked and whatever the
document was given by an earlier one.

* `Document.Outcome`: the outcomes for a document that was found and its workflow, each with what
  rules out those before it; `Document.outcome_iff` says that the move has the outcome.
* `Engine.Outcome`: the outcomes for an id, on documents and workflows by their ids.
* `Store.Maps`: a store that is no more than two maps.
* `Engine.applyEvent_follows_rules`: on such a store an event has its outcome, a failure leaves the
  records and the timers, and a move stores the document and replaces its timers.
-/

namespace Signoff

variable {σ : Type}

/-! ## On a document -/

/-- The transition leaves the state on the event. -/
def Definition.Fires (d : Definition) (state event : String) (t : Transition) : Prop :=
  t ∈ d.transitions ∧ t.source = state ∧ t.event = event

namespace Document

/-- The workflow has a machine, in which the document is not in a terminal state. -/
def Runs (d : Document) (w : Workflow) : Prop :=
  (∃ m, Machine.ofWorkflow w = .ok m) ∧ ¬ w.definition.IsTerminal d.current

/-- The transition that an event fires, on a document that runs, has a gate that does not bar the
actor. -/
def Takes (d : Document) (w : Workflow) (event : String) (roles : RoleSet) (t : Transition) :
    Prop :=
  d.Runs w ∧ w.definition.Fires d.current event t ∧ ¬ t.roles.Bars roles

/-- What an event comes to on a document by the definition of its workflow. Each outcome holds only
where those that stand before it do not. -/
inductive Outcome (d : Document) (w : Workflow) (event : String) (roles : RoleSet) (now : Instant) :
    Except Failure Document → Prop where
  | noMachine {defect : Machine.Defect} (failed : Machine.ofWorkflow w = .error defect) :
      Outcome d w event roles now (.error defect.toFailure)
  | terminal {m : Machine} (compiled : Machine.ofWorkflow w = .ok m)
      (final : w.definition.IsTerminal d.current) :
      Outcome d w event roles now (.error (.terminalState d.id d.current))
  | noTransition (runs : d.Runs w) (stuck : ∀ t, ¬ w.definition.Fires d.current event t) :
      Outcome d w event roles now (.error (.invalidTransition d.current event))
  | forbidden {t : Transition} {required : List String} (runs : d.Runs w)
      (fires : w.definition.Fires d.current event t) (bars : t.roles.Bars roles)
      (increasing : required.Pairwise (· < ·))
      (same : ∀ role, role ∈ required ↔ t.roles.contains role = true) :
      Outcome d w event roles now (.error (.forbidden d.current event required))
  | lateDeadline {t : Transition} {f : Failure} (takes : d.Takes w event roles t)
      (late : Duration.Overruns now (w.definition.deadlines.get? t.target) f) :
      Outcome d w event roles now (.error f)
  | lateReapproval {t : Transition} {dueAt : Option Instant} {f : Failure}
      (takes : d.Takes w event roles t)
      (due : Duration.Ends now (w.definition.deadlines.get? t.target) dueAt)
      (late : Duration.Overruns now (w.definition.reapproval.map (·.after)) f) :
      Outcome d w event roles now (.error f)
  | moved {t : Transition} {dueAt nextReapproval : Option Instant}
      (takes : d.Takes w event roles t)
      (due : Duration.Ends now (w.definition.deadlines.get? t.target) dueAt)
      (next : Duration.Ends now (w.definition.reapproval.map (·.after)) nextReapproval) :
      Outcome d w event roles now
        (.ok { d with current := t.target, updatedAt := now, dueAt, nextReapproval })

/-- The timers that follow from a document: the deadline, and the return for approval to the state
that the policy names. -/
def timers (d : Document) (policy : Option Reapproval) : List Intent :=
  (d.dueAt.map (Intent.ofDeadline d)).toList ++
    match d.nextReapproval, policy with
    | some t, some r => [Intent.ofReapproval d t r.target]
    | _, _ => []

variable {d : Document} {w : Workflow} {m : Machine} {event : String} {roles : RoleSet}
  {now : Instant} {t : Transition} {r : Except Failure Document}

theorem isTerminal_eq_false_iff (compiled : Machine.ofWorkflow w = .ok m) :
    m.isTerminal d.current = false ↔ d.Runs w := by
  rw [← Bool.not_eq_true, Machine.isTerminal_iff compiled]
  exact ⟨fun running => ⟨⟨m, compiled⟩, running⟩, fun runs => runs.2⟩

theorem accepts_iff_takes (compiled : Machine.ofWorkflow w = .ok m) :
    d.Accepts m event roles t ↔ d.Takes w event roles t := by
  rw [Accepts, isTerminal_eq_false_iff compiled, Machine.transition?_eq_some_iff compiled,
    ← Bool.not_eq_false, RoleSet.permits_eq_false]
  rfl

theorem ofDocument_eq_timers (compiled : Machine.ofWorkflow w = .ok m) :
    Intent.ofDocument d m = d.timers w.definition.reapproval := by
  have target := Machine.reapproval_target compiled
  unfold Intent.ofDocument timers
  dsimp only
  congr 1
  · cases d.dueAt <;> rfl
  · cases given : m.reapproval with
    | none =>
      rw [given] at target
      rw [Option.map_eq_none_iff.1 target.symm]
      cases d.nextReapproval <;> rfl
    | some r =>
      rw [given] at target
      obtain ⟨r', written, same⟩ := Option.map_eq_some_iff.1 target.symm
      rw [written]
      cases d.nextReapproval with
      | none => rfl
      | some t => exact congrArg (fun state => [Intent.ofReapproval d t state]) same.symm

/-! ### The move, outcome by outcome -/

section

variable (compiled : Machine.ofWorkflow w = .ok m)
include compiled

theorem fire_terminal (final : w.definition.IsTerminal d.current) :
    d.fire m event roles now = .error (.terminalState d.id d.current) :=
  if_pos ((Machine.isTerminal_iff compiled).2 final)

theorem fire_noTransition (runs : d.Runs w)
    (stuck : ∀ t, ¬ w.definition.Fires d.current event t) :
    d.fire m event roles now = .error (.invalidTransition d.current event) := by
  have none_ : m.transition? d.current event = none :=
    Option.eq_none_iff_forall_ne_some.2 fun t found =>
      stuck t ((Machine.transition?_eq_some_iff compiled).1 found)
  rw [fire, (isTerminal_eq_false_iff compiled).2 runs, none_]
  rfl

theorem fire_forbidden (runs : d.Runs w) (fires : w.definition.Fires d.current event t)
    (bars : t.roles.Bars roles) :
    d.fire m event roles now = .error (.forbidden d.current event t.roles.toList) := by
  rw [fire, (isTerminal_eq_false_iff compiled).2 runs,
    (Machine.transition?_eq_some_iff compiled).2 fires]
  simp only [RoleSet.permits_eq_false.2 bars, Bool.false_eq_true, if_false]

theorem fire_takes (takes : d.Takes w event roles t) :
    d.fire m event roles now = do
      let dueAt ← m.dueAt t.target now
      let nextReapproval ← m.nextReapproval now
      return { d.enter t.target now with dueAt, nextReapproval } :=
  fire_accepted now ((accepts_iff_takes compiled).2 takes)

/-- The move has one of the outcomes. -/
theorem outcome_fire : d.Outcome w event roles now (d.fire m event roles now) := by
  by_cases final : w.definition.IsTerminal d.current
  · rw [fire_terminal compiled final]
    exact .terminal compiled final
  have runs : d.Runs w := ⟨⟨m, compiled⟩, final⟩
  by_cases found : ∃ t, w.definition.Fires d.current event t
  case neg =>
    have stuck := not_exists.1 found
    rw [fire_noTransition compiled runs stuck]
    exact .noTransition runs stuck
  obtain ⟨t, fires⟩ := found
  by_cases bars : t.roles.Bars roles
  · rw [fire_forbidden compiled runs fires bars]
    exact .forbidden runs fires bars t.roles.toList_increasing fun _ => RoleSet.mem_toList
  have takes : d.Takes w event roles t := ⟨runs, fires, bars⟩
  rw [fire_takes compiled takes]
  cases due : m.dueAt t.target now with
  | error f => exact .lateDeadline takes ((Machine.dueAt_overruns compiled).1 due)
  | ok dueAt =>
    have due := (Machine.dueAt_eq_ok compiled).1 due
    cases next : m.nextReapproval now with
    | error f => exact .lateReapproval takes due ((Machine.nextReapproval_overruns compiled).1 next)
    | ok nextReapproval => exact .moved takes due ((Machine.nextReapproval_eq_ok compiled).1 next)

/-- An outcome by a definition that has a machine is that of the move. -/
theorem Outcome.fire_eq (h : d.Outcome w event roles now r) : d.fire m event roles now = r := by
  cases h with
  | noMachine failed => cases compiled.symm.trans failed
  | terminal _ final => exact fire_terminal compiled final
  | noTransition runs stuck => exact fire_noTransition compiled runs stuck
  | forbidden runs fires bars increasing same =>
    rw [fire_forbidden compiled runs fires bars, RoleSet.eq_toList increasing same]
  | lateDeadline takes late =>
    rw [fire_takes compiled takes, (Machine.dueAt_overruns compiled).2 late]
    rfl
  | lateReapproval takes due late =>
    rw [fire_takes compiled takes, (Machine.dueAt_eq_ok compiled).2 due,
      (Machine.nextReapproval_overruns compiled).2 late]
    rfl
  | moved takes due next =>
    rw [fire_takes compiled takes, (Machine.dueAt_eq_ok compiled).2 due,
      (Machine.nextReapproval_eq_ok compiled).2 next]
    rfl

end

theorem Runs.ofWorkflow_ne_error {defect : Machine.Defect} (runs : d.Runs w) :
    Machine.ofWorkflow w ≠ .error defect := by
  obtain ⟨⟨m, compiled⟩, -⟩ := runs
  rw [compiled]
  nofun

/-- Without a machine there is no outcome but the defect. -/
theorem Outcome.eq_defect {defect : Machine.Defect} (failed : Machine.ofWorkflow w = .error defect)
    (h : d.Outcome w event roles now r) : r = .error defect.toFailure := by
  cases h with
  | noMachine failed' => rw [Except.error.inj (failed.symm.trans failed')]
  | terminal compiled => cases failed.symm.trans compiled
  | noTransition runs => exact absurd failed runs.ofWorkflow_ne_error
  | forbidden runs => exact absurd failed runs.ofWorkflow_ne_error
  | lateDeadline takes => exact absurd failed takes.1.ofWorkflow_ne_error
  | lateReapproval takes => exact absurd failed takes.1.ofWorkflow_ne_error
  | moved takes => exact absurd failed takes.1.ofWorkflow_ne_error

/-- An event has exactly one outcome on a document: what the machine that is built for the occasion
makes of it. -/
theorem outcome_iff :
    d.Outcome w event roles now r ↔ (w.machine >>= fun m => d.fire m event roles now) = r := by
  cases compiled : Machine.ofWorkflow w with
  | error defect =>
    have machine : w.machine = .error defect.toFailure := mapError_eq_error.2 ⟨_, compiled, rfl⟩
    rw [machine]
    constructor
    · exact fun h => (h.eq_defect compiled).symm
    · rintro rfl
      exact .noMachine compiled
  | ok m =>
    rw [Workflow.machine_eq_ok.2 compiled]
    constructor
    · exact fun h => h.fire_eq compiled
    · rintro rfl
      exact outcome_fire compiled

theorem Outcome.sameOrigin {d' : Document} (h : d.Outcome w event roles now (.ok d')) :
    d.SameOrigin d' := by
  cases h
  exact ⟨rfl, rfl, rfl, rfl⟩

end Document

/-! ## On records -/

namespace Engine

/-- What an event comes to on the document with an id. Each outcome holds only where those that
stand before it do not. -/
inductive Outcome (documents : String → Option Document) (workflows : String → Option Workflow)
    (now : Instant) (id event : String) (roles : RoleSet) : Except Failure Document → Prop where
  | documentNotFound (missing : documents id = none) :
      Outcome documents workflows now id event roles (.error (.documentNotFound id))
  | workflowNotFound {d : Document} (found : documents id = some d)
      (missing : workflows d.workflowId = none) :
      Outcome documents workflows now id event roles (.error (.workflowNotFound d.workflowId))
  | ofDocument {d : Document} {w : Workflow} {r : Except Failure Document}
      (found : documents id = some d) (stored : workflows d.workflowId = some w)
      (outcome : d.Outcome w event roles now r) :
      Outcome documents workflows now id event roles r

section

variable {documents : String → Option Document} {workflows : String → Option Workflow}
  {now : Instant} {id event : String} {roles : RoleSet} {d : Document} {w : Workflow}
  {r : Except Failure Document}

theorem outcome_of_noDocument (missing : documents id = none) :
    Outcome documents workflows now id event roles r ↔ .error (.documentNotFound id) = r := by
  constructor
  · rintro (_ | ⟨found, _⟩ | ⟨found, _, _⟩)
    · rfl
    · cases missing.symm.trans found
    · cases missing.symm.trans found
  · rintro rfl
    exact .documentNotFound missing

theorem outcome_of_noWorkflow (found : documents id = some d)
    (missing : workflows d.workflowId = none) :
    Outcome documents workflows now id event roles r ↔
      .error (.workflowNotFound d.workflowId) = r := by
  constructor
  · rintro (missing' | ⟨found', _⟩ | ⟨found', stored, _⟩)
    · cases missing'.symm.trans found
    · rw [Option.some.inj (found.symm.trans found')]
    · cases found.symm.trans found'
      cases missing.symm.trans stored
  · rintro rfl
    exact .workflowNotFound found missing

theorem outcome_of_document (found : documents id = some d)
    (stored : workflows d.workflowId = some w) :
    Outcome documents workflows now id event roles r ↔ d.Outcome w event roles now r := by
  constructor
  · rintro (missing | ⟨found', missing⟩ | ⟨found', stored', outcome⟩)
    · cases missing.symm.trans found
    · cases found.symm.trans found'
      cases missing.symm.trans stored
    · cases found.symm.trans found'
      cases stored.symm.trans stored'
      exact outcome
  · exact .ofDocument found stored

end

end Engine

/-! ## On a store -/

/-- With these records the store is two maps: looking a record up reads them, and writing back a
document that was found sets one entry. -/
structure Store.Maps [Store σ] (write : String → Document → Action σ Unit)
    (documents : σ → String → Option Document) (workflows : σ → String → Option Workflow)
    (place : String → Document → String) (s : σ) : Prop where
  getDocument : ∀ id, Store.getDocument id s = (.ok (documents s id), s)
  getWorkflow : ∀ id, Store.getWorkflow id s = (.ok (workflows s id), s)
  write : ∀ {id d d'}, documents s id = some d → d.SameOrigin d' →
    (write id d' s).1 = .ok () ∧
      (∀ key, documents (write id d' s).2 key =
        if key = place id d' then some d' else documents s key) ∧
      workflows (write id d' s).2 = workflows s

theorem MemoryStore.maps (s : MemoryStore) :
    Store.Maps writeDocument (fun s => s.documents.get?) (fun s => s.workflows.get?)
      (fun id _ => id) s where
  getDocument _ := rfl
  getWorkflow _ := rfl
  write {id _ d'} _ _ := ⟨rfl, fun key => s.documents.get?_insert_eq_ite id key d', rfl⟩

theorem PlainStore.maps (s : PlainStore) :
    Store.Maps (fun _ => (Store.updateDocument : Document → Action PlainStore Unit))
      (fun s => s.documents.get?) (fun s => s.workflows.get?) (fun _ d => d.id) s where
  getDocument _ := rfl
  getWorkflow _ := rfl
  write {_ _ d'} _ _ := ⟨rfl, fun key => s.documents.get?_insert_eq_ite d'.id key d', rfl⟩

namespace Engine

variable [Store σ] {write : String → Document → Action σ Unit}
  {documents : σ → String → Option Document} {workflows : σ → String → Option Workflow}
  {place : String → Document → String}

/-- What an event on the document with an id leaves. A failure leaves the records and the timers,
and is logged if it should not happen. A document that was moved is stored as it is returned, the
timers that follow from it by the definition replace those it had, and nothing else changes. -/
inductive Leaves (write : String → Document → Action σ Unit)
    (documents : σ → String → Option Document) (workflows : σ → String → Option Workflow)
    (place : String → Document → String) (id : String) (s : σ) (a : Ambient) :
    Except Failure Document × σ × Ambient → Prop where
  | failed (f : Failure) :
      Leaves write documents workflows place id s a (.error f, s, a.report f)
  | moved {d : Document} {w : Workflow} {s' : σ} (written : s' = (write id d s).2)
      (stored : ∀ key, documents s' key = if key = place id d then some d else documents s key)
      (kept : workflows s' = workflows s) (definition : workflows s d.workflowId = some w) :
      Leaves write documents workflows place id s a (.ok d, s', { a with
        timers := a.timers.map (·.replace d.id (d.timers w.definition.reapproval)) })

/-- Whatever is asked, the result is the outcome, and what is left goes with it. -/
def FollowsRules (write : String → Document → Action σ Unit)
    (documents : σ → String → Option Document) (workflows : σ → String → Option Workflow)
    (place : String → Document → String) (s : σ) : Prop :=
  ∀ (a : Ambient) (now : Instant) (id event : String) (roles : RoleSet),
    let after := applyEvent now id event roles (s, a)
    (∀ r, Outcome (documents s) (workflows s) now id event roles r ↔ after.1 = r) ∧
      Leaves write documents workflows place id s a after

/-- Firing an event on two maps, case by case in the order in which the cases are tried. -/
theorem applyEvent_maps (modifies : Store.Modifies write) {s : σ}
    (maps : Store.Maps write documents workflows place s) {a : Ambient} {now : Instant}
    {id event : String} {roles : RoleSet} :
    applyEvent now id event roles (s, a) = match documents s id with
      | none => (.error (.documentNotFound id), s, a)
      | some d =>
        match workflows s d.workflowId with
        | none => (.error (.workflowNotFound d.workflowId), s, a)
        | some w =>
          match w.machine >>= fun m => d.fire m event roles now with
          | .error f => (.error f, s, a.report f)
          | .ok d' => (.ok d', (write id d' s).2, { a with
              timers := a.timers.map (·.replace d'.id (d'.timers w.definition.reapproval)) }) := by
  rw [applyEvent_eq modifies, maps.getDocument]
  cases found : documents s id with
  | none => rfl
  | some d =>
    dsimp only
    rw [maps.getWorkflow]
    cases workflows s d.workflowId with
    | none => rfl
    | some w =>
      dsimp only
      cases machine : w.machine with
      | error f => rfl
      | ok m =>
        show (match d.fire m event roles now with | .error f => _ | .ok d' => _) =
          match d.fire m event roles now with | .error f => _ | .ok d' => _
        cases fired : d.fire m event roles now with
        | error f => rfl
        | ok d' =>
          have written : write id d' s = (.ok (), (write id d' s).2) :=
            Prod.ext (maps.write found (Document.fire_sameOrigin fired)).1 rfl
          dsimp only
          rw [written]
          dsimp only
          rw [Ambient.schedule, Document.ofDocument_eq_timers (Workflow.machine_eq_ok.1 machine)]

theorem followsRules (modifies : Store.Modifies write) {s : σ}
    (maps : Store.Maps write documents workflows place s) :
    FollowsRules write documents workflows place s := by
  intro a now id event roles after
  have after_eq : after = _ := applyEvent_maps modifies maps
  cases found : documents s id with
  | none =>
    rw [found] at after_eq
    rw [after_eq]
    exact ⟨fun _ => outcome_of_noDocument found, .failed _⟩
  | some d =>
    cases stored : workflows s d.workflowId with
    | none =>
      simp only [found, stored] at after_eq
      rw [after_eq]
      exact ⟨fun _ => outcome_of_noWorkflow found stored, .failed _⟩
    | some w =>
      have outcome (r : Except Failure Document) :
          Outcome (documents s) (workflows s) now id event roles r ↔
            (w.machine >>= fun m => d.fire m event roles now) = r :=
        (outcome_of_document found stored).trans Document.outcome_iff
      simp only [found, stored] at after_eq
      cases fired : w.machine >>= fun m => d.fire m event roles now with
      | error f =>
        simp only [fired] at after_eq outcome
        rw [after_eq]
        exact ⟨outcome, .failed f⟩
      | ok d' =>
        have same : d.SameOrigin d' := (Document.outcome_iff.2 fired).sameOrigin
        simp only [fired] at after_eq outcome
        rw [after_eq]
        obtain ⟨-, sets, keeps⟩ := maps.write found same
        exact ⟨outcome, .moved rfl sets keeps (same.workflowId ▸ stored)⟩

/-- Whatever documents and definitions there are, checked or not, an event takes exactly the step
that the rules say: on records in memory, on two maps, and on any store that has nothing but the
plain operations and is two maps with the records that it keeps. -/
theorem applyEvent_follows_rules :
    (∀ s : MemoryStore, FollowsRules MemoryStore.writeDocument (fun s => s.documents.get?)
      (fun s => s.workflows.get?) (fun id _ => id) s) ∧
    (∀ s : PlainStore, FollowsRules (fun _ => Store.updateDocument) (fun s => s.documents.get?)
      (fun s => s.workflows.get?) (fun _ d => d.id) s) ∧
    ∀ {σ : Type} [Store σ], Store.Plain σ → ∀ {documents : σ → String → Option Document}
      {workflows : σ → String → Option Workflow} {s : σ},
      Store.Maps (fun _ => Store.updateDocument) documents workflows (fun _ d => d.id) s →
      FollowsRules (fun _ => Store.updateDocument) documents workflows (fun _ d => d.id) s := by
  refine ⟨?_, ?_, ?_⟩
  · exact fun s => followsRules MemoryStore.modifies s.maps
  · exact fun s => followsRules PlainStore.plain.modifies s.maps
  · intro σ _ plain documents workflows s maps
    exact followsRules plain.modifies maps

/-- A document with times that an earlier definition gave it. -/
def staleDocument : Document :=
  { Document.create "w" "Open" .null .epoch with
    id := "d", dueAt := some .epoch, nextReapproval := some .epoch }

/-- Two maps with the document and its workflow, which was never checked and has no deadlines. -/
def staleRecords : PlainStore where
  workflows := .ofList [("w", unchecked)]
  documents := .ofList [("d", staleDocument)]
  ids := .numbering

/-- The document moves to a state that is not declared, and loses its times. -/
theorem stale_times_are_dropped :
    Store.Plain PlainStore ∧
    Store.Maps (fun _ => Store.updateDocument) (fun s => s.documents.get?)
      (fun s => s.workflows.get?) (fun _ d => d.id) staleRecords ∧
    (applyEvent .epoch "d" "skip" .empty (staleRecords, .start true)).1 =
      .ok { staleDocument with current := "Lost", dueAt := none, nextReapproval := none } := by
  refine ⟨PlainStore.plain, staleRecords.maps, ?_⟩
  have follows := applyEvent_follows_rules.2.2 PlainStore.plain staleRecords.maps (.start true)
    .epoch "d" "skip" .empty
  have runs : staleDocument.Runs unchecked :=
    ⟨⟨_, rfl⟩, by simp [Definition.IsTerminal, unchecked, staleDocument, Document.create]⟩
  have fires : unchecked.definition.Fires staleDocument.current "skip"
      ⟨"Open", "Lost", "skip", .empty⟩ := ⟨by simp [unchecked], rfl, rfl⟩
  have open_ : ¬ RoleSet.empty.Bars .empty := fun bars =>
    bars.1.elim fun _ has => Bool.false_ne_true has
  have takes : staleDocument.Takes unchecked "skip" .empty _ := ⟨runs, fires, open_⟩
  exact (follows.1 _).1 (.ofDocument rfl rfl (.moved takes rfl rfl))

end Engine

end Signoff
