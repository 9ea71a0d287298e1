import Signoff.Proofs.Engine.Payloads
import Signoff.Proofs.Json.Records
import Signoff.Proofs.Service.Restarts

/-!
# Nothing depends on the data of documents

Requests may bring any data with the documents that they make, or none. Two runs of a service on
records in memory that differ in that data only are told the same, but for the data itself, and have
the same timers all the time (`Service.payloads_unseen`).

* `Request.withoutPayload`: a request without the data that it brings.
* `CreateDocumentParams.ofValue_withoutPayload`: what is read from its parameters.
* `Service.handle_oblivious`: what one request does.
* `Session.moments_oblivious`: what a run does; both runs are compared with the run that brings no
  data at all.
-/

namespace Signoff

open Json

/-! ## Values without a member -/

/-- The members that stay are those that stay of what was written. -/
theorem withoutMember_ofJson (key : String) (members : List (String × Json)) :
    withoutMember key (.ofJson (.object members)) =
      .ofJson (.object (members.filter fun x => x.1 != key)) := by
  apply Value.ext
  show Json.object (sortEntries (canonicalMembers
    ((sortEntries (canonicalMembers members)).filter fun x => x.1 != key))) =
      .object (sortEntries (canonicalMembers (members.filter fun x => x.1 != key)))
  have kept : MembersCanonical ((sortEntries (canonicalMembers members)).filter fun x =>
      x.1 != key) := by
    refine membersCanonical_iff.2 fun x mem => ?_
    have sorted := mem_sortEntries (List.mem_of_mem_filter mem)
    exact membersCanonical_iff.1 (canonicalMembers_canonical members) x sorted
  have increasing := (increasing_sortEntries (canonicalMembers members)).filter fun x => x.1 != key
  rw [canonicalMembers_eq_self _ kept, sortEntries_eq_self increasing,
    filter_sortEntries fun k => k != key, canonicalMembers_eq_map, canonicalMembers_eq_map,
    List.filter_map]
  rfl

theorem Document.withoutMember_data (d : Document) :
    withoutMember "data" (.ofJson d.toJson) = .ofJson d.withoutData.toJson := by
  rw [toJson, withoutMember_ofJson, toJson]
  have no_data : d.withoutData.data.isNull = true := rfl
  rw [no_data]
  congr 2
  simp only [List.filter_append]
  cases hd : d.data.isNull <;> cases hu : d.dueAt <;> cases hn : d.nextReapproval <;>
    simp [memberIf, memberOf?, withoutData, hu, hn]

/-! ## Requests without data -/

/-- Parameters for a document without the data for it. In a list of parameters the data is the
second one; it may be missing. -/
def withoutPayload (params : Value) : Value :=
  match params.json with
  | .array (workflowId :: rest) => .ofJson (.array (workflowId :: .null :: rest.tail))
  | _ => withoutMember "data" params

/-- The request without the data that it brings for a document. -/
def Request.withoutPayload (r : Request) : Request :=
  if r.operation = .createDocument then { r with params := Signoff.withoutPayload r.params } else r

namespace CreateDocumentParams

/-- The parameters without the data. -/
def withoutData (p : CreateDocumentParams) : CreateDocumentParams := { p with data := .null }

/-- The fields of the parameters. -/
abbrev fields := Fields.need "workflow_id" .text (.orElse "data" .null .value .nil)

/-- Members without data fill the slot for the workflow as the members do. -/
theorem decodeMembers_withoutPayload {members : List (String × Json)}
    (distinct : (members.map (·.1)).Nodup) (workflowId : Option String) (data : Option Value)
    (once : data.isSome = true → "data" ∉ members.map (·.1)) :
    decodeMembers (fields.decodeMember .given) (members.filter fun x => x.1 != "data")
        (workflowId, none, ()) =
      (decodeMembers (fields.decodeMember .given) members (workflowId, data, ())).map
        fun slots => (slots.1, none, ()) := by
  induction members generalizing workflowId data with
  | nil => rfl
  | cons x rest ih =>
    obtain ⟨key, j⟩ := x
    rw [List.map_cons, List.nodup_cons] at distinct
    have later : data.isSome = true → "data" ∉ rest.map (·.1) := fun some_ mem =>
      once some_ (List.mem_cons_of_mem _ mem)
    by_cases payload : key = "data"
    · subst payload
      obtain rfl : data = none := by
        cases data with
        | none => rfl
        | some v => exact absurd List.mem_cons_self (once rfl)
      exact ih distinct.2 workflowId (some (.ofJson j)) fun _ => distinct.1
    · rw [List.filter_cons_of_pos (by simpa using payload), decodeMembers, decodeMembers]
      by_cases named : key = "workflow_id"
      · subst named
        have first (data : Option Value) :
            fields.decodeMember .given "workflow_id" (workflowId, data, ()) j =
              if workflowId.isSome then some (.error (.duplicateField "workflow_id"))
              else some ((Schema.text.decode .given j).map fun id => (some id, data, ())) := by
          rw [fields, Fields.need, Fields.decodeMember, if_pos rfl]
        rw [first, first]
        cases workflowId with
        | some id => rfl
        | none =>
          cases Schema.text.decode .given j with
          | error p => rfl
          | ok id => exact ih distinct.2 (some id) data later
      · have unknown (data : Option Value) :
            fields.decodeMember .given key (workflowId, data, ()) j = none :=
          fields.decodeMember_eq_none_iff.2 <| by
            simp [Fields.need, Fields.orElse, Fields.hasKey, named, payload]
        rw [unknown, unknown]
        exact ih distinct.2 workflowId data later

/-- The same is read from the parameters without data, but for the data. -/
theorem ofValue_withoutPayload (params : Value) :
    schema.ofValue (withoutPayload params) = (schema.ofValue params).map withoutData := by
  suffices schema.decode .given (withoutPayload params).json =
      (schema.decode .given params.json).map withoutData by
    rw [Schema.ofValue, Schema.ofValue, this]
    cases schema.decode .given params.json <;> rfl
  obtain ⟨j, canonical⟩ := params
  cases j with
  | object members =>
    obtain ⟨increasing, inner⟩ : Increasing members ∧ MembersCanonical members := by
      rwa [Json.Canonical] at canonical
    have distinct : (members.map (·.1)).Nodup := Table.keys_nodup ⟨members, increasing⟩
    have kept : (withoutPayload ⟨.object members, canonical⟩).json =
        .object (members.filter fun x => x.1 != "data") := by
      refine Json.canonical_eq_self _ ?_
      rw [Json.Canonical]
      exact ⟨increasing.filter _, membersCanonical_iff.2 fun x mem =>
        membersCanonical_iff.1 inner x (List.mem_of_mem_filter mem)⟩
    have decoded (members : List (String × Json)) : schema.decode .given (.object members) =
        decodeMembers (fields.decodeMember .given) members (none, none, ()) >>= fun slots =>
          (fields.finish slots).map fun x => ⟨x.1, x.2.1⟩ := by
      rw [schema, Schema.decode]
      rfl
    rw [kept, decoded, decoded, decodeMembers_withoutPayload distinct none none
      fun given => absurd given Bool.false_ne_true]
    rcases decodeMembers (fields.decodeMember .given) members (none, none, ()) with
      p | ⟨workflowId, data, ⟨⟩⟩
    · rfl
    · cases workflowId <;> cases data <;> rfl
  | array items =>
    cases items with
    | nil => rfl
    | cons workflowId rest =>
      have kept : (withoutPayload ⟨.array (workflowId :: rest), canonical⟩).json =
          .array (workflowId :: .null :: rest.tail) := by
        refine Json.canonical_eq_self _ ?_
        rw [Json.Canonical, AllCanonical] at canonical ⊢
        refine ⟨canonical.1, trivial, ?_⟩
        cases rest with
        | nil => trivial
        | cons _ rest => exact canonical.2.2
      rw [kept]
      -- only the first item can be of a wrong type, and only the length tells that there are more
      cases workflowId <;> rcases rest with _ | ⟨data, _ | ⟨more, rest⟩⟩ <;> rfl
  | _ => rfl

end CreateDocumentParams

/-- The answer to the operation is a document. -/
def Operation.givesDocument : Operation → Bool
  | .createDocument | .getDocument | .applyEvent => true
  | _ => false

/-- A result of an operation, without the data if it is a document. -/
def Operation.withoutData (op : Operation) (v : Value) : Value :=
  if op.givesDocument then withoutMember "data" v else v

theorem Operation.withoutData_of_not {op : Operation} (h : op.givesDocument = false) (v : Value) :
    op.withoutData v = v :=
  if_neg (by rw [h]; exact Bool.false_ne_true)

/-- The response to a request, without the data if it tells a document. -/
def Response.withoutData (r : Request) (response : Response) : Response :=
  { response with result := response.result.map r.operation.withoutData }

namespace Service

open Signoff.Action

variable {α β γ δ : Type} {shown : α → β}

/-! ## One request -/

theorem readParams_oblivious (schema : Json.Schema α) (params : Value) :
    Carries Engine.withoutData (fun p => p) (readParams schema params)
      (readParams schema params) := by
  intro x
  unfold readParams
  cases schema.ofValue (if params.isNull = true then .ofJson (.object []) else params) <;> rfl

theorem engine_oblivious {a : Engine.Operation MemoryStore α} {b : Engine.Operation MemoryStore β}
    (h : Engine.Oblivious shown a b) : Carries Engine.withoutData shown (engine a) (engine b) := by
  intro x
  rw [engine_apply, engine_apply, h x]
  cases (a x).1 <;> rfl

/-- Parameters for an operation of the engine that is oblivious, and a result made from its. -/
theorem oblivious_of_engine {π : Type} (schema : Json.Schema π) (params : Value)
    {op : π → Engine.Operation MemoryStore α} {op' : π → Engine.Operation MemoryStore β}
    (h : ∀ p, Engine.Oblivious shown (op p) (op' p)) {result : α → Value} {result' : β → Value}
    {told : Value → Value} (same : ∀ x, result' (shown x) = told (result x)) :
    Carries Engine.withoutData told
      (do
        let p ← readParams schema params
        let x ← engine (op p)
        return result x : Operation MemoryStore Value)
      (do
        let p ← readParams schema params
        let x ← engine (op' p)
        return result' x : Operation MemoryStore Value) := by
  refine (readParams_oblivious schema params).bind fun p =>
    (engine_oblivious (h p)).bind fun x => ?_
  rw [same]
  exact carries_pure (result x)

theorem readDefinition_oblivious (info : ServiceInfo) (v : Value) :
    Carries Engine.withoutData (fun d => d) (readDefinition info v) (readDefinition info v) := by
  intro x
  rw [readDefinition_apply, readDefinition_apply]
  cases definitionOf info v <;> rfl

/-- The parameters for a document are read without a look at the data. -/
theorem readParams_withoutPayload (params : Value) :
    Carries Engine.withoutData CreateDocumentParams.withoutData
      (readParams CreateDocumentParams.schema params)
      (readParams CreateDocumentParams.schema (withoutPayload params)) := by
  intro x
  have null_iff : (Signoff.withoutPayload params).isNull = params.isNull := by
    obtain ⟨j, canonical⟩ := params
    rcases j with _ | _ | _ | _ | ⟨_ | _⟩ | _ <;> rfl
  unfold readParams
  rw [null_iff]
  cases params.isNull with
  | true => rfl
  | false =>
    simp only [Bool.false_eq_true, if_false, CreateDocumentParams.ofValue_withoutPayload]
    cases CreateDocumentParams.schema.ofValue params <;> rfl

variable (info : ServiceInfo) (now : Instant) (r : Request)

/-- Every operation but the one that brings data is given the same parameters without it. -/
theorem perform_oblivious :
    Carries Engine.withoutData r.operation.withoutData (perform info now r.operation r.params)
      (perform info now r.operation r.withoutPayload.params) := by
  by_cases create : r.operation = .createDocument
  · rw [Request.withoutPayload, if_pos create, create]
    refine (readParams_withoutPayload r.params).bind fun p => ?_
    refine (engine_oblivious (Engine.createDocument_oblivious now p.workflowId p.data)).bind
      fun d => ?_
    rw [← d.withoutMember_data]
    exact carries_pure _
  rw [Request.withoutPayload, if_neg create]
  cases op : r.operation with
  | createDocument => exact absurd op create
  | ping => exact carries_pure _
  | info => exact fun x => rfl
  | createWorkflow =>
    refine (readParams_oblivious _ _).bind fun p =>
      (readDefinition_oblivious info p.definition).bind fun d =>
        (engine_oblivious (Engine.createWorkflow_oblivious now d)).bind fun id => ?_
    exact carries_pure (Value.ofJson (CreateWorkflowResult.toJson ⟨id, d.checksum⟩))
  | getWorkflow =>
    refine oblivious_of_engine GetWorkflowParams.schema r.params
      (fun p => Engine.getWorkflow_oblivious p.workflowId) fun w => ?_
    rw [Operation.withoutData_of_not rfl]
  | getDocument =>
    exact oblivious_of_engine GetDocumentParams.schema r.params
      (fun p => Engine.getDocument_oblivious p.documentId) fun d => d.withoutMember_data.symm
  | applyEvent =>
    exact oblivious_of_engine ApplyEventParams.schema r.params
      (fun p => Engine.applyEvent_oblivious now p.documentId p.event (.ofList p.roles)) fun d =>
        d.withoutMember_data.symm
  | availableEvents =>
    refine oblivious_of_engine AvailableEventsParams.schema r.params
      (fun p => Engine.availableEvents_oblivious p.documentId (.ofList p.roles)) fun e => ?_
    rw [Operation.withoutData_of_not rfl]
  | pollTimers =>
    rintro ⟨s, a⟩
    show pollTimers now r.params (s.withoutData, a) = _
    rw [perform, pollTimers_apply, pollTimers_apply now r.params s]
    cases (pollTimers now r.params ((), a)).1 <;> rfl

theorem handle_oblivious (x : MemoryStore × Ambient) :
    handle info now r.withoutPayload (Engine.withoutData x) =
      ((handle info now r x).1.withoutData r, Engine.withoutData (handle info now r x).2) := by
  have same_op : r.withoutPayload.operation = r.operation := by
    unfold Request.withoutPayload
    split <;> rfl
  have same_id : r.withoutPayload.id = r.id := by
    unfold Request.withoutPayload
    split <;> rfl
  unfold handle
  rw [same_op, same_id, perform_oblivious info now r x]
  rcases perform info now r.operation r.params x with ⟨_ | v, y⟩ <;> rfl

/-! ## Runs -/

/-- The input without the data that it brings for a document. -/
def Input.withoutPayload : Input → Input
  | .request r => .request r.withoutPayload
  | .clock t => .clock t

/-- What was answered at a moment, without the data if it is a document. -/
def Moment.answerWithoutData (m : Moment MemoryStore) : Option Response :=
  match m.input with
  | .request r => m.answer.map (Response.withoutData r)
  | .clock _ => m.answer

/-- The session without the data of its documents. -/
def Session.withoutData (s : Session MemoryStore) : Session MemoryStore :=
  { s with records := s.records.withoutData }

/-- The moment as it is without any data. -/
def Moment.withoutData (m : Moment MemoryStore) : Moment MemoryStore :=
  ⟨m.before.withoutData, m.input.withoutPayload, m.answerWithoutData, m.after.withoutData⟩

namespace Session

theorem moment_oblivious (s : Session MemoryStore) (input : Input) :
    s.withoutData.moment info input.withoutPayload = (s.moment info input).withoutData := by
  cases input with
  | clock t => rfl
  | request r =>
    let out := handle info s.now r.withoutPayload (Engine.withoutData (s.records, s.ambient))
    show Moment.mk s.withoutData (.request r.withoutPayload) (some out.1)
      ⟨s.now, out.2.1, out.2.2⟩ = _
    rw [show out = _ from handle_oblivious info s.now r (s.records, s.ambient)]
    rfl

theorem moments_oblivious (s : Session MemoryStore) (inputs : List Input) :
    s.withoutData.moments info (inputs.map Input.withoutPayload) =
      (s.moments info inputs).map Moment.withoutData := by
  induction inputs generalizing s with
  | nil => rfl
  | cons input rest ih =>
    have here := moment_oblivious info s input
    have next : s.withoutData.next info input.withoutPayload = (s.next info input).withoutData :=
      congrArg Moment.after here
    rw [List.map_cons, moments, moments, List.map_cons, here, next, ih]

theorem run_oblivious (s : Session MemoryStore) (inputs : List Input) :
    s.withoutData.run info (inputs.map Input.withoutPayload) = (s.run info inputs).withoutData := by
  induction inputs generalizing s with
  | nil => rfl
  | cons input rest ih =>
    have next : s.withoutData.next info input.withoutPayload = (s.next info input).withoutData :=
      congrArg Moment.after (moment_oblivious info s input)
    show (s.withoutData.next info input.withoutPayload).run info _ = _
    rw [next, ih]
    rfl

end Session

/-- Two services that keep the same records but for the data of the documents, and have the same
clock, timers and log, take requests and new times of the clock that differ only in the data that
requests bring for documents, if they bring any. Then both give the same answers all along, but for
the data of the documents that they tell, and have the same timers and the same log after each
input; and in the end they keep the same records again, but for the data. -/
theorem payloads_unseen {s s' : Session MemoryStore} (alike : s.withoutData = s'.withoutData)
    {inputs inputs' : List Input}
    (same : inputs.map Input.withoutPayload = inputs'.map Input.withoutPayload) :
    (s.moments info inputs).map Moment.answerWithoutData =
        (s'.moments info inputs').map Moment.answerWithoutData ∧
      (s.moments info inputs).map (·.after.ambient) =
        (s'.moments info inputs').map (·.after.ambient) ∧
      (s.run info inputs).withoutData = (s'.run info inputs').withoutData := by
  have moments : (s.moments info inputs).map Moment.withoutData =
      (s'.moments info inputs').map Moment.withoutData := by
    rw [← Session.moments_oblivious, ← Session.moments_oblivious, alike, same]
  refine ⟨?_, ?_, ?_⟩
  · have answers := congrArg (List.map (·.answer)) moments
    rwa [List.map_map, List.map_map] at answers
  · have ambients := congrArg (List.map (·.after.ambient)) moments
    rwa [List.map_map, List.map_map] at ambients
  · rw [← Session.run_oblivious, ← Session.run_oblivious, alike, same]

namespace Session

/-- The small session with some data for its document. -/
def draftRun : List Input := [
  .request keepReview,
  .request (ask .createDocument [("workflow_id", .string (workflowId 1)),
    ("data", .object [("title", .string "draft"), ("pages", .array [.null, .bool true])])]),
  .clock (seconds 60),
  .request endReview]

/-- The small session does not notice the data: it is the same with the data and without. -/
theorem draftRun_unseen :
    draftRun.map Input.withoutPayload = reviewRun.map Input.withoutPayload ∧
    let s := start .epoch true
    (s.moments reviewer draftRun).map Moment.answerWithoutData =
        (s.moments reviewer reviewRun).map Moment.answerWithoutData ∧
      (s.moments reviewer draftRun).map (·.after.ambient) =
        (s.moments reviewer reviewRun).map (·.after.ambient) ∧
      (s.run reviewer draftRun).withoutData = (s.run reviewer reviewRun).withoutData := by
  have brought (members : List (String × Json)) :
      (ask .createDocument members).withoutPayload =
        ask .createDocument (members.filter fun x => x.1 != "data") :=
    congrArg (Request.mk .request "1" .createDocument) (withoutMember_ofJson "data" members)
  have same : draftRun.map Input.withoutPayload = reviewRun.map Input.withoutPayload := by
    simp only [draftRun, reviewRun, List.map_cons, Input.withoutPayload, brought]
    rfl
  exact ⟨same, payloads_unseen reviewer rfl same⟩

end Session

end Service

end Signoff
