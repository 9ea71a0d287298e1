import Signoff.Proofs.Engine.Sparing

/-!
# Sessions

A session is a running service: its clock, its records, and the timers and the log beside them. It
takes inputs, which are requests or new times of its clock, and a run is the inputs that it took.

* `Session.run`, `moments`: the session after a run, and the moments that the run went through.
* `Session.run_induction`: what holds at the start and is kept by every input holds after every run.
* `Effect`: what one request does to records in memory and to timers. `handle_effect` says that
  there is nothing else that a request can do, and that a refused request does nothing.
-/

namespace Signoff

/-- The parameters of a request, if they can be read; null stands for none. -/
def Request.read? {α : Type} (r : Request) (schema : Json.Schema α) : Option α :=
  (schema.ofValue (if r.params.isNull then .ofJson (.object []) else r.params)).toOption

/-- The operation changes neither records nor timers. -/
def Operation.looks : Operation → Bool
  | .createWorkflow | .createDocument | .applyEvent | .pollTimers => false
  | _ => true

namespace Service

variable {σ α : Type}

/-- What comes to a running service: a request, or a new time of its clock. -/
inductive Input where
  | request (r : Request)
  | clock (t : Instant)

/-- A running service: the time of its clock, its records, and what is beside them. -/
structure Session (σ : Type) where
  now : Instant
  records : σ
  ambient : Ambient

/-- A step of a run: the session before it, what came, its answer, and the session after it. -/
structure Moment (σ : Type) where
  before : Session σ
  input : Input
  answer : Option Response
  after : Session σ

/-- The request of a moment, if it was answered ok. -/
def Moment.granted? (x : Moment σ) : Option Request :=
  match x.input, x.answer with
  | .request r, some response => if response.status = .ok then some r else none
  | _, _ => none

namespace Session

/-- A session that starts at a time without records, with an empty timer queue or without one. Ids
show their numbers unless another source is given. -/
def start (t : Instant) (withTimers : Bool) (ids : IdSource := .numbering) : Session MemoryStore :=
  ⟨t, .empty ids, .start withTimers⟩

section

variable [Store σ]

/-- Takes an input; a request is answered. -/
def step (info : ServiceInfo) (s : Session σ) : Input → Option Response × Session σ
  | .clock t => (none, { s with now := t })
  | .request r =>
    let (response, records, ambient) := handle info s.now r (s.records, s.ambient)
    (some response, ⟨s.now, records, ambient⟩)

/-- The session after an input. -/
def next (info : ServiceInfo) (s : Session σ) (input : Input) : Session σ := (s.step info input).2

/-- The session after a run. -/
def run (info : ServiceInfo) (s : Session σ) (inputs : List Input) : Session σ :=
  inputs.foldl (next info) s

/-- The step that an input makes. -/
def moment (info : ServiceInfo) (s : Session σ) (input : Input) : Moment σ :=
  ⟨s, input, (s.step info input).1, s.next info input⟩

/-- The moments of a run. -/
def moments (info : ServiceInfo) : Session σ → List Input → List (Moment σ)
  | _, [] => []
  | s, input :: rest => s.moment info input :: moments info (s.next info input) rest

variable {info : ServiceInfo} {s : Session σ}

theorem run_append (xs ys : List Input) : s.run info (xs ++ ys) = (s.run info xs).run info ys :=
  List.foldl_append ..

theorem run_concat (xs : List Input) (x : Input) :
    s.run info (xs ++ [x]) = (s.run info xs).next info x := by
  rw [run_append]; rfl

theorem moments_append (xs ys : List Input) :
    s.moments info (xs ++ ys) = s.moments info xs ++ (s.run info xs).moments info ys := by
  induction xs generalizing s with
  | nil => rfl
  | cons x xs ih => exact congrArg (_ :: ·) ih

theorem moments_concat (xs : List Input) (x : Input) :
    s.moments info (xs ++ [x]) = s.moments info xs ++ [(s.run info xs).moment info x] :=
  moments_append ..

/-- The moments of a run are those that an input makes after the inputs before it. -/
theorem mem_moments {inputs : List Input} {m : Moment σ} (h : m ∈ s.moments info inputs) :
    ∃ xs x ys, inputs = xs ++ x :: ys ∧ m = (s.run info xs).moment info x := by
  induction inputs generalizing s with
  | nil => cases h
  | cons x rest ih =>
    rcases List.mem_cons.1 h with rfl | h
    · exact ⟨[], x, rest, rfl, rfl⟩
    · obtain ⟨xs, y, ys, rfl, rfl⟩ := ih h
      exact ⟨x :: xs, y, ys, rfl, rfl⟩

/-- What holds at the start and is kept by every input holds after every run. -/
theorem run_induction {P : Session σ → Prop} (start : P s)
    (next : ∀ s input, P s → P (s.next info input)) (inputs : List Input) :
    P (s.run info inputs) := by
  induction inputs generalizing s with
  | nil => exact start
  | cons x rest ih => exact ih (next s x start)

end

end Session

/-! ## Reading what a request carries -/

theorem engine_apply (op : Engine.Operation σ α) (s : σ × Ambient) :
    engine op s = ((op s).1.mapError .failure, (op s).2) := rfl

theorem engine_ok {op : Engine.Operation σ α} {s s' : σ × Ambient} {x : α} :
    engine op s = (.ok x, s') ↔ op s = (.ok x, s') := by
  rw [engine_apply, Prod.mk.injEq, mapError_eq_ok]
  exact ⟨fun ⟨result, left_⟩ => Prod.ext result left_, fun h => by rw [h]; exact ⟨rfl, rfl⟩⟩

/-- Reading parameters gives what can be read, or a fault, and leaves the state alone. -/
theorem readParams_apply (schema : Json.Schema α) (r : Request) (s : σ × Ambient) :
    (∃ p, r.read? schema = some p ∧ readParams schema r.params s = (.ok p, s)) ∨
      ∃ fault, readParams schema r.params s = (.error fault, s) := by
  unfold readParams Request.read?
  cases schema.ofValue (if r.params.isNull = true then .ofJson (.object []) else r.params) with
  | ok p => exact .inl ⟨p, rfl, rfl⟩
  | error e => exact .inr ⟨.badRequest e.message, rfl⟩

theorem readParams_ok {schema : Json.Schema α} {r : Request} {p : α} {s s' : σ × Ambient} :
    readParams schema r.params s = (.ok p, s') ↔ r.read? schema = some p ∧ s' = s := by
  unfold readParams Request.read?
  cases schema.ofValue (if r.params.isNull = true then .ofJson (.object []) else r.params) with
  | ok p' =>
    constructor
    · rintro ⟨⟩
      exact ⟨rfl, rfl⟩
    · rintro ⟨⟨⟩, rfl⟩
      rfl
  | error e => exact ⟨nofun, nofun⟩

/-- The definition that a request carries, as JSON or as its text, if it is not too large. -/
def definitionOf (info : ServiceInfo) (v : Value) : Except Fault Definition :=
  let (size, read) := match v.json with
    | .string s => (s.utf8ByteSize, Definition.ofBytes (encode s))
    | j => (j.compact.utf8ByteSize, Definition.ofValue v)
  if info.maxDefinitionBytes < size then .error (.tooLarge size info.maxDefinitionBytes)
  else read.mapError .failure

theorem readDefinition_apply (info : ServiceInfo) (v : Value) (s : σ × Ambient) :
    readDefinition info v s = (definitionOf info v, s) := by
  have sized (size : Nat) (read : Except Failure Definition) :
      (do checkSize info size; engine (Action.ofExcept read) : Operation σ Definition) s =
        (if info.maxDefinitionBytes < size then .error (.tooLarge size info.maxDefinitionBytes)
          else read.mapError .failure, s) := by
    rw [Action.bind_apply, checkSize]
    by_cases h : info.maxDefinitionBytes < size
    · simp only [if_pos h]
      rfl
    · simp only [if_neg h, Action.pure_apply, engine_apply, Action.ofExcept_apply]
  unfold readDefinition definitionOf
  cases v.json <;> exact sized ..

/-! ## What a request does -/

/-- What a request does to records in memory and to the timers beside them. -/
inductive Effect (info : ServiceInfo) (now : Instant) (r : Request) (s : MemoryStore)
    (q : Option TimerQueue) : ResponseStatus → MemoryStore → Option TimerQueue → Prop where
  /-- A refused request does nothing. -/
  | refused : Effect info now r s q .error s q
  | looked (op : r.operation.looks = true) : Effect info now r s q .ok s q
  | workflowKept {p : CreateWorkflowParams} {d : Definition} {w : Workflow} {m : Machine}
      (op : r.operation = .createWorkflow) (read : r.read? CreateWorkflowParams.schema = some p)
      (defined : definitionOf info p.definition = .ok d) (accepted : d.accept now = .ok w)
      (compiled : Machine.ofWorkflow w = .ok m) : Effect info now r s q .ok (s.addWorkflow w) q
  | documentMade {p : CreateDocumentParams} {w : Workflow} {m : Machine}
      {dueAt nextReapproval : Option Instant} {d : Document}
      (op : r.operation = .createDocument) (read : r.read? CreateDocumentParams.schema = some p)
      (stored : s.workflows.get? p.workflowId = some w) (compiled : Machine.ofWorkflow w = .ok m)
      (due : m.dueAt m.initial now = .ok dueAt) (next : m.nextReapproval now = .ok nextReapproval)
      (made : d = Engine.newDocument now p.workflowId m p.data dueAt nextReapproval) :
      Effect info now r s q .ok (s.addDocument d)
        (q.map (·.replace s.nextDocumentId
          (Intent.ofDocument { d with id := s.nextDocumentId } m)))
  | documentMoved {p : ApplyEventParams} {d d' : Document} {w : Workflow} {m : Machine}
      (op : r.operation = .applyEvent) (read : r.read? ApplyEventParams.schema = some p)
      (found : s.documents.get? p.documentId = some d)
      (stored : s.workflows.get? d.workflowId = some w) (compiled : Machine.ofWorkflow w = .ok m)
      (moved : d.fire m p.event (.ofList p.roles) now = .ok d') :
      Effect info now r s q .ok { s with documents := s.documents.insert p.documentId d' }
        (q.map (·.replace d'.id (Intent.ofDocument d' m)))
  | timersPolled {p : PollTimersParams} {queue : TimerQueue}
      (op : r.operation = .pollTimers) (read : r.read? PollTimersParams.schema = some p)
      (timers : q = some queue) :
      Effect info now r s q .ok s (some (queue.popDue (p.now.getD now)).2)

/-- The status of the response that tells a result. -/
def statusOf (result : Except Fault Value) : ResponseStatus :=
  match result with
  | .ok _ => .ok
  | .error _ => .error

/-- The outcome of an operation is one of the effects of a request. -/
def HasEffect (info : ServiceInfo) (now : Instant) (r : Request) (s : MemoryStore) (a : Ambient)
    (out : Except Fault Value × MemoryStore × Ambient) : Prop :=
  Effect info now r s a.timers (statusOf out.1) out.2.1 out.2.2.timers

section

variable {info : ServiceInfo} {now : Instant} {r : Request} {s : MemoryStore} {a : Ambient}

theorem HasEffect.of_error {fault : Fault} {a' : Ambient} (h : a'.timers = a.timers) :
    HasEffect info now r s a (.error fault, s, a') := by
  show Effect info now r s a.timers .error s a'.timers
  rw [h]
  exact .refused

/-- An operation that only looks has the effect of one. -/
theorem HasEffect.of_looks (op : r.operation.looks = true)
    {out : Except Fault Value × MemoryStore × Ambient} (records : out.2.1 = s)
    (timers : out.2.2.timers = a.timers) : HasEffect info now r s a out := by
  obtain ⟨_ | v, s', a'⟩ := out
  all_goals obtain rfl : s' = s := records
  · exact .of_error timers
  · show Effect info now r s' a.timers .ok s' a'.timers
    rw [show a'.timers = a.timers from timers]
    exact .looked op

/-- Parameters that cannot be read have no effect. -/
theorem HasEffect.of_params {schema : Json.Schema α} {next : α → Operation MemoryStore Value}
    (h : ∀ p, r.read? schema = some p → HasEffect info now r s a (next p (s, a))) :
    HasEffect info now r s a ((readParams schema r.params >>= next) (s, a)) := by
  rw [Action.bind_apply]
  obtain ⟨p, read, hp⟩ | ⟨fault, hp⟩ := readParams_apply schema r (s, a)
  · rw [hp]
    exact h p read
  · rw [hp]
    exact .of_error rfl

/-- Parameters for an operation of the engine that keeps the state, and a result made from its. -/
theorem HasEffect.of_engine (op : r.operation.looks = true) {β : Type} (schema : Json.Schema α)
    {look : α → Engine.Operation MemoryStore β} (keeps : ∀ p, Action.Keeps (seen id) (look p))
    (result : β → Value) :
    HasEffect info now r s a ((do
      let p ← readParams schema r.params
      let b ← engine (look p)
      return result b : Operation MemoryStore Value) (s, a)) := by
  refine .of_params fun p _ => ?_
  simp only [Action.bind_apply, engine_apply]
  obtain ⟨records, timers⟩ := Prod.mk.inj (keeps p (s, a))
  generalize look p (s, a) = out at records timers ⊢
  obtain ⟨_ | b, s', a'⟩ := out
  all_goals exact .of_looks op records timers

theorem createWorkflow_effect (op : r.operation = .createWorkflow) :
    HasEffect info now r s a (createWorkflow info now r.params (s, a)) := by
  refine .of_params fun p hr => ?_
  simp only [Action.bind_apply, readDefinition_apply]
  cases hv : definitionOf info p.definition with
  | error fault => exact .of_error rfl
  | ok d =>
    simp only [engine_apply, Engine.createWorkflow_memory]
    cases hd : d.accept now with
    | error e => exact .of_error rfl
    | ok w =>
      dsimp only
      cases hm : w.machine with
      | error f => exact .of_error (Ambient.report_timers ..)
      | ok m => exact .workflowKept op hr hv hd (Workflow.machine_eq_ok.1 hm)

theorem createDocument_effect (op : r.operation = .createDocument) :
    HasEffect info now r s a (createDocument now r.params (s, a)) := by
  refine .of_params fun p hr => ?_
  simp only [Action.bind_apply, engine_apply, Engine.createDocument_memory]
  cases hw : s.workflows.get? p.workflowId with
  | none => exact .of_error rfl
  | some w =>
    dsimp only
    cases hm : w.machine with
    | error f => exact .of_error (Ambient.report_timers ..)
    | ok m =>
      dsimp only
      cases hd : m.dueAt m.initial now with
      | error f => exact .of_error rfl
      | ok dueAt =>
        dsimp only
        cases hn : m.nextReapproval now with
        | error f => exact .of_error rfl
        | ok nextReapproval =>
          exact .documentMade op hr hw (Workflow.machine_eq_ok.1 hm) hd hn rfl

theorem applyEvent_effect (op : r.operation = .applyEvent) :
    HasEffect info now r s a (applyEvent now r.params (s, a)) := by
  refine .of_params fun p hr => ?_
  simp only [Action.bind_apply, engine_apply, Engine.applyEvent_memory]
  cases hd : s.documents.get? p.documentId with
  | none => exact .of_error rfl
  | some d =>
    dsimp only
    cases hw : s.workflows.get? d.workflowId with
    | none => exact .of_error rfl
    | some w =>
      dsimp only
      cases hm : w.machine with
      | error f => exact .of_error (Ambient.report_timers ..)
      | ok m =>
        dsimp only
        cases hf : d.fire m p.event (.ofList p.roles) now with
        | error f => exact .of_error (Ambient.report_timers ..)
        | ok d' => exact .documentMoved op hr hd hw (Workflow.machine_eq_ok.1 hm) hf

theorem pollTimers_effect (op : r.operation = .pollTimers) :
    HasEffect info now r s a (pollTimers now r.params (s, a)) := by
  rw [pollTimers, Action.bind_apply, Action.get_apply]
  dsimp only
  cases hq : a.timers with
  | none => exact .of_error rfl
  | some q =>
    exact .of_params fun p hr => .timersPolled op hr hq

theorem perform_effect :
    HasEffect info now r s a (perform info now r.operation r.params (s, a)) := by
  cases op : r.operation with
  | ping => exact .of_looks (by rw [op]; rfl) rfl rfl
  | info => exact .of_looks (by rw [op]; rfl) rfl rfl
  | createWorkflow => exact createWorkflow_effect op
  | getWorkflow =>
    exact .of_engine (by rw [op]; rfl) _
      (fun _ => (Engine.getWorkflow_keeps MemoryStore.sparing _).seen) _
  | createDocument => exact createDocument_effect op
  | getDocument =>
    exact .of_engine (by rw [op]; rfl) _ (fun _ => Engine.getDocument_keeps MemoryStore.sparing _) _
  | applyEvent => exact applyEvent_effect op
  | availableEvents =>
    exact .of_engine (by rw [op]; rfl) _
      (fun _ => Engine.availableEvents_keeps MemoryStore.sparing _ _) _
  | pollTimers => exact pollTimers_effect op

/-- Whatever a request does is one of the effects, and the status of its response tells whether it
was refused. -/
theorem handle_effect :
    Effect info now r s a.timers (handle info now r (s, a)).1.status (handle info now r (s, a)).2.1
      (handle info now r (s, a)).2.2.timers := by
  have h : HasEffect info now r s a (perform info now r.operation r.params (s, a)) := perform_effect
  unfold handle
  generalize perform info now r.operation r.params (s, a) = out at h ⊢
  obtain ⟨_ | v, s', a'⟩ := out
  all_goals exact h

end

namespace Session

variable {info : ServiceInfo}

variable (info) in
theorem next_effect (s : Session MemoryStore) (r : Request) :
    ∃ status, Effect info s.now r s.records s.ambient.timers status
        (s.next info (.request r)).records (s.next info (.request r)).ambient.timers ∧
      (s.moment info (.request r)).granted? = if status = .ok then some r else none :=
  ⟨_, handle_effect, rfl⟩

/-! ## A small session -/

/-- A request with its parameters. -/
def ask (op : Signoff.Operation) (params : List (String × Json)) : Request :=
  ⟨.request, "1", op, .ofJson (.object params)⟩

/-- A definition with a gate, a deadline and a return for approval. -/
def review : Json :=
  .object [
    ("name", .string "r"),
    ("states", .array [
      .object [("name", .string "Open"), ("initial", .bool true)],
      .object [("name", .string "Done"), ("terminal", .bool true)]]),
    ("transitions", .array [
      .object [("from", .string "Open"), ("to", .string "Done"), ("event", .string "end"),
        ("roles", .array [.string "ed"])]]),
    ("sla", .object [("Done", .string "1h")]),
    ("reapproval", .object [("after", .string "2h"), ("toState", .string "Open")])]

/-- A service with its name and limits. -/
def reviewer : ServiceInfo := ⟨"docflow", "0.1.0", "memory", 1048576⟩

/-- Asks to keep the definition. -/
def keepReview : Request := ask .createWorkflow [("definition", review)]

/-- Asks to move the first document. -/
def endReview : Request :=
  ask .applyEvent [("document_id", .string (documentId 1)), ("event", .string "end"),
    ("roles", .array [.string "ed"])]

/-- The instant some seconds after the start of 1970. -/
def seconds (n : Int) : Instant := (Instant.ofSecond? n 0).getD .epoch

/-- A document is made and, a minute later, moved to its terminal state. -/
def reviewRun : List Input := [
  .request keepReview,
  .request (ask .createDocument [("workflow_id", .string (workflowId 1))]),
  .clock (seconds 60),
  .request endReview]

/-- The document of the small session ends in its terminal state. -/
theorem reviewRun_document :
    let s := ((start .epoch true).run reviewer reviewRun).records
    ∃ d w, s.documents.get? (documentId 1) = some d ∧ s.workflows.get? d.workflowId = some w ∧
      d.current = "Done" ∧ w.definition.IsTerminal "Done" := by
  intro s
  have done : (s.documents.get? (documentId 1)).any (fun d =>
      (s.workflows.get? d.workflowId).any fun w => d.current == "Done" &&
        w.definition.states.any fun state => state.name == "Done" && state.terminal) = true := by
    decide +kernel
  simp only [Option.any_eq_true, Bool.and_eq_true, List.any_eq_true, beq_iff_eq] at done
  obtain ⟨d, found, w, stored, current, terminal⟩ := done
  exact ⟨d, w, found, stored, current, terminal⟩

end Session

end Service

end Signoff
