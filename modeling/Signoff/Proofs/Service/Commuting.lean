import Signoff.Proofs.Engine.Commuting
import Signoff.Proofs.Service.Consistency

/-!
# Requests about different documents

Two requests that fire events on different documents may be handled in either order: each gets the
same response, the same is stored in the end, and the timers look alike, whatever is asked of them
later (`events_commute`). What only one of the two orders can be told by is the order in which
intents are polled that fire at the same time.

* `requested`: what comes of such a request on a store; `requested_comm` is the exchange of two.
* `Commute`: what the exchange leaves as it was, the records and the timers of every other document
  among it.
* `Session.run_reachable`: the timers of every session are reachable.
-/

namespace Signoff

/-- The request names the document on which it fires an event. -/
def Request.Concerns (r : Request) (id : String) : Prop :=
  ∃ p, r.read? ApplyEventParams.schema = some p ∧ p.documentId = id

/-- The document that the request names is found under its own id, if it is there. -/
def Request.OwnedIn {σ : Type} [Store σ] (r : Request) (s : σ) : Prop :=
  ∀ id, r.Concerns id → Store.Owned id s

namespace Service

variable {σ : Type}

/-- The parameters of a request that fires an event, or the fault that they have. -/
def eventOf (r : Request) : Except Fault ApplyEventParams :=
  (ApplyEventParams.schema.ofValue (if r.params.isNull then .ofJson (.object []) else r.params)
    ).mapError fun e => .badRequest e.message

theorem readParams_eventOf (r : Request) (x : σ × Ambient) :
    readParams ApplyEventParams.schema r.params x = (eventOf r, x) := by
  unfold readParams eventOf
  cases ApplyEventParams.schema.ofValue
    (if r.params.isNull = true then .ofJson (.object []) else r.params) <;> rfl

theorem concerns_of_eventOf {r : Request} {p : ApplyEventParams} (h : eventOf r = .ok p) :
    r.Concerns p.documentId := by
  refine ⟨p, ?_, rfl⟩
  rw [Request.read?, mapError_eq_ok.1 h]
  rfl

/-- The response to a request that fires an event, by what came of it. -/
def eventResponse (now : Instant) (r : Request) : Except Fault (Document × Machine) → Response
  | .ok (d, _) => (Response.ok r.id (.ofJson d.toJson)).at_ now
  | .error fault => .refuse r.id (errorOf fault)

/-- What comes of a request that fires an event. -/
def requested [Store σ] (write : String → Document → Action σ Unit) (now : Instant) (r : Request)
    (s : σ) : Except Fault (Document × Machine) × σ :=
  match eventOf r with
  | .error fault => (.error fault, s)
  | .ok p =>
    let out := Engine.fired write now p.documentId p.event (.ofList p.roles) s
    (out.1.mapError .failure, out.2)

section

variable [Store σ] {write : String → Document → Action σ Unit} {I : σ → Prop} {now : Instant}
  {info : ServiceInfo} {r r' : Request} {s : σ} {a : Ambient}

/-- A document that is moved is the one that the request names. -/
theorem requested_concerns (owned : r.OwnedIn s)
    {x : Document × Machine} (h : (requested write now r s).1 = .ok x) : r.Concerns x.1.id := by
  unfold requested at h
  cases read : eventOf r with
  | error fault =>
    rw [read] at h
    cases h
  | ok p =>
    rw [read] at h
    have named := concerns_of_eventOf read
    rwa [Engine.fired_id (owned _ named) (mapError_eq_ok.1 h)]

variable (apart : Store.Apart write I) (holds : I s)
include apart holds

theorem requested_holds : I (requested write now r s).2 := by
  unfold requested
  cases eventOf r with
  | error fault => exact holds
  | ok p => exact Engine.fired_holds apart holds

theorem requested_workflow (id : String) :
    (Store.getWorkflow id (requested write now r s).2).1 = (Store.getWorkflow id s).1 := by
  unfold requested
  cases eventOf r with
  | error fault => rfl
  | ok p => exact Engine.fired_workflow apart holds id

variable (owned : r.OwnedIn s)
include owned

variable (now info a) in
/-- Handling a request that fires an event tells and leaves what comes of it. -/
theorem handle_requested (fires : r.operation = .applyEvent) :
    (handle info now r (s, a)).1 = eventResponse now r (requested write now r s).1 ∧
      (handle info now r (s, a)).2.1 = (requested write now r s).2 ∧
      (handle info now r (s, a)).2.2.timers =
        a.timers.map (·.hear (requested write now r s).1) := by
  have performed : perform info now r.operation r.params (s, a) = applyEvent now r.params (s, a) :=
    by rw [fires]; rfl
  unfold handle requested
  rw [performed, applyEvent, Action.bind_apply, readParams_eventOf]
  cases read : eventOf r with
  | error fault => exact ⟨rfl, rfl, (Option.map_id' ..).symm⟩
  | ok p =>
    obtain ⟨result, left_, timers⟩ := Engine.applyEvent_fired now p.event (.ofList p.roles) a apart
      holds (owned _ (concerns_of_eventOf read))
    dsimp only
    rw [Action.bind_apply, engine_apply, result]
    generalize Engine.applyEvent now p.documentId p.event (.ofList p.roles) (s, a) = out
      at left_ timers ⊢
    generalize Engine.fired write now p.documentId p.event (.ofList p.roles) s = came
      at left_ timers ⊢
    obtain ⟨_ | x, s'⟩ := came
    · exact ⟨rfl, left_, timers⟩
    · exact ⟨rfl, left_, timers⟩

/-- A request leaves every document that it does not name. -/
theorem requested_document {id : String} (other : ¬ r.Concerns id) :
    (Store.getDocument id (requested write now r s).2).1 = (Store.getDocument id s).1 := by
  unfold requested
  cases read : eventOf r with
  | error fault => rfl
  | ok p =>
    have named := concerns_of_eventOf read
    refine Engine.fired_document apart holds (owned _ named) ?_
    rintro rfl
    exact other named

theorem requested_owned {id : String} (other : ¬ r.Concerns id) (h : Store.Owned id s) :
    Store.Owned id (requested write now r s).2 := fun d found =>
  h d (by rwa [requested_document apart holds owned other] at found)

variable (now) in
/-- Requests that name different documents come to the same in either order. -/
theorem requested_comm (owned' : r'.OwnedIn s)
    (ne : ∀ id, r.Concerns id → ¬ r'.Concerns id) :
    (requested write now r (requested write now r' s).2).1 = (requested write now r s).1 ∧
      (requested write now r (requested write now r' s).2).2 =
        (requested write now r' (requested write now r s).2).2 := by
  unfold requested
  cases read : eventOf r with
  | error fault => exact ⟨rfl, rfl⟩
  | ok p =>
    cases read' : eventOf r' with
    | error fault => exact ⟨rfl, rfl⟩
    | ok p' =>
      have named := concerns_of_eventOf read
      have named' := concerns_of_eventOf read'
      have ids : p.documentId ≠ p'.documentId := fun same => ne _ named (same ▸ named')
      obtain ⟨result, left_⟩ := Engine.fired_comm apart holds (owned _ named) ids (owned' _ named')
      exact ⟨congrArg (Except.mapError _) result, left_⟩

end

/-- What is left after two requests. -/
def afterBoth [Store σ] (info : ServiceInfo) (now : Instant) (r r' : Request) (x : σ × Ambient) :
    σ × Ambient :=
  (handle info now r' (handle info now r x).2).2

/-- What two requests that name different documents come to, whichever is handled first. -/
structure Commute [Store σ] (info : ServiceInfo) (now : Instant) (r r' : Request) (s : σ)
    (a : Ambient) : Prop where
  /-- The other request makes no difference to the response. -/
  answer : (handle info now r (handle info now r' (s, a)).2).1 = (handle info now r (s, a)).1
  answer' : (handle info now r' (handle info now r (s, a)).2).1 = (handle info now r' (s, a)).1
  /-- The same is stored in the end. -/
  records : (afterBoth info now r r' (s, a)).1 = (afterBoth info now r' r (s, a)).1
  /-- Every other document and every workflow is as it was. -/
  document : ∀ id, ¬ r.Concerns id → ¬ r'.Concerns id →
    (Store.getDocument id (afterBoth info now r r' (s, a)).1).1 = (Store.getDocument id s).1
  workflow : ∀ id,
    (Store.getWorkflow id (afterBoth info now r r' (s, a)).1).1 = (Store.getWorkflow id s).1
  /-- The same is pending for every document, what was pending for the others is pending still, and
  whatever is done to the timers later, polling them gives the same up to ties. -/
  timers : ∀ q, a.timers = some q → q.Reachable → ∃ q₁ q₂,
    (afterBoth info now r r' (s, a)).2.timers = some q₁ ∧
    (afterBoth info now r' r (s, a)).2.timers = some q₂ ∧
    (∀ id, q₁.pendingFor id = q₂.pendingFor id) ∧
    (∀ id, ¬ r.Concerns id → ¬ r'.Concerns id → q₁.pendingFor id = q.pendingFor id) ∧
    ∀ changes t, Intent.SameUpToTies ((q₁.after changes).popDue t).1 ((q₂.after changes).popDue t).1
  /-- Without timers there are none afterwards. -/
  untimed : a.timers = none → (afterBoth info now r r' (s, a)).2.timers = none ∧
    (afterBoth info now r' r (s, a)).2.timers = none

section

variable [Store σ] {write : String → Document → Action σ Unit} {I : σ → Prop} {r r' : Request}
  {s : σ} (apart : Store.Apart write I) (info : ServiceInfo) (now : Instant) (holds : I s)
  (owned : ∀ id, Store.Owned id s) (a : Ambient)
include apart holds owned

/-- The second of two requests is handled where the first one left off. -/
theorem handle_after (fires : r.operation = .applyEvent) (fires' : r'.operation = .applyEvent)
    (ne : ∀ id, r.Concerns id → ¬ r'.Concerns id) :
    let first := requested write now r s
    let second := requested write now r' first.2
    (handle info now r' (handle info now r (s, a)).2).1 = eventResponse now r' second.1 ∧
      (afterBoth info now r r' (s, a)).1 = second.2 ∧
      (afterBoth info now r r' (s, a)).2.timers =
        a.timers.map fun q => (q.hear first.1).hear second.1 := by
  intro first second
  have own : r.OwnedIn s := fun id _ => owned id
  have own' : r'.OwnedIn first.2 := fun id named =>
    requested_owned apart holds own (fun h => ne id h named) (owned id)
  obtain ⟨-, left_, timers⟩ := handle_requested now info a apart holds own fires
  obtain ⟨told, last, timers'⟩ := handle_requested now info (handle info now r (s, a)).2.2
    apart (requested_holds apart holds) own' fires'
  have between : (handle info now r (s, a)).2 = (first.2, (handle info now r (s, a)).2.2) :=
    Prod.ext left_ rfl
  rw [afterBoth, between]
  refine ⟨told, last, ?_⟩
  rw [timers', timers, Option.map_map]
  rfl

theorem commute (fires : r.operation = .applyEvent) (fires' : r'.operation = .applyEvent)
    (ne : ∀ id, r.Concerns id → ¬ r'.Concerns id) : Commute info now r r' s a := by
  have ne' (id : String) (named : r'.Concerns id) : ¬ r.Concerns id := fun h => ne id h named
  have own : r.OwnedIn s := fun id _ => owned id
  have own' : r'.OwnedIn s := fun id _ => owned id
  have own'' : r'.OwnedIn (requested write now r s).2 := fun id named =>
    requested_owned apart holds own (ne' id named) (owned id)
  -- each request comes to the same after the other
  obtain ⟨same, stored⟩ := requested_comm now apart holds own own' ne
  obtain ⟨same', -⟩ := requested_comm now apart holds own' own ne'
  obtain ⟨told, -⟩ := handle_requested now info a apart holds own fires
  obtain ⟨told', -⟩ := handle_requested now info a apart holds own' fires'
  obtain ⟨second', left_, timers⟩ := handle_after apart info now holds owned a fires fires' ne
  obtain ⟨second, left', timers'⟩ := handle_after apart info now holds owned a fires' fires ne'
  rw [same'] at second' timers
  rw [same] at second timers'
  exact {
    answer := second.trans told.symm
    answer' := second'.trans told'.symm
    records := by rw [left_, left', stored]
    document := fun id other other' => by
      rw [left_, requested_document apart (requested_holds apart holds) own'' other',
        requested_document apart holds own other]
    workflow := fun id => by
      rw [left_, requested_workflow apart (requested_holds apart holds),
        requested_workflow apart holds]
    timers := fun q some_ reachable => by
      obtain ⟨l, tracks⟩ := reachable.tracks
      rw [timers, timers', some_]
      exact ⟨_, _, rfl, rfl, tracks.hear_both (fun _ => requested_concerns own)
        (fun _ => requested_concerns own') ne⟩
    untimed := fun none_ => by
      rw [timers, timers', none_]
      exact ⟨rfl, rfl⟩ }

end

/-! ## Sessions -/

/-- Documents that stand as they should are found under their own ids. -/
theorem consistent_owned {s : MemoryStore} (h : s.Consistent) (id : String) :
    Store.Owned id s := fun _ found => (h.document (Except.ok.inj found)).id_eq

theorem Effect.reachable {info : ServiceInfo} {now : Instant} {r : Request} {s s' : MemoryStore}
    {timers timers' : Option TimerQueue} {status : ResponseStatus}
    (e : Effect info now r s timers status s' timers')
    (h : ∀ q, timers = some q → q.Reachable) : ∀ q, timers' = some q → q.Reachable := by
  have scheduled (owner : String) (intents : List Intent) :
      ∀ q, timers.map (·.replace owner intents) = some q → q.Reachable := by
    intro q some_
    obtain ⟨q', some', rfl⟩ := Option.map_eq_some_iff.1 some_
    exact (h q' some').changed (.replace owner intents)
  cases e with
  | refused | looked | workflowKept => exact h
  | documentMade | documentMoved => exact scheduled _ _
  | timersPolled _ _ some_ =>
    rintro _ ⟨⟩
    exact (h _ some_).changed (.popDue _)

namespace Session

/-- The timers, if there are any, come from an empty queue. -/
def TimersReachable (s : Session σ) : Prop := ∀ q, s.ambient.timers = some q → q.Reachable

/-- The timers of every session are reachable. -/
theorem run_reachable (info : ServiceInfo) (t : Instant) (withTimers : Bool)
    (ids : IdSource) (inputs : List Input) :
    ((start t withTimers ids).run info inputs).TimersReachable := by
  refine run_induction (P := fun s : Session MemoryStore => s.TimersReachable) ?_
    (fun s input h => ?_) inputs
  · cases withTimers with
    | false => exact nofun
    | true =>
      rintro _ ⟨⟩
      exact TimerQueue.reachable_empty
  · cases input with
    | clock => exact h
    | request r =>
      obtain ⟨_, e, -⟩ := s.next_effect info r
      exact e.reachable h

end Session

/-- Events on different documents commute. Two requests that fire events on different documents,
which may be missing, and at any time, get the same responses whichever is handled first, and leave
the same records and timers that look alike: for records in memory and in two maps, of whatever is
stored as long as every document stands under its own id; for records in files if besides no faults
are scheduled and the folders stand; and for any other store where documents are apart. -/
theorem events_commute (info : ServiceInfo) (now : Instant) {r r' : Request}
    (fires : r.operation = .applyEvent) (fires' : r'.operation = .applyEvent)
    (ne : ∀ id, r.Concerns id → ¬ r'.Concerns id) (a : Ambient) :
    (∀ s : MemoryStore, (∀ id, Store.Owned id s) → Commute info now r r' s a) ∧
    (∀ s : PlainStore, (∀ id, Store.Owned id s) → Commute info now r r' s a) ∧
    (∀ s : FileStore, s.Ready → (∀ id, Store.Owned id s) → Commute info now r r' s a) ∧
    ∀ {σ : Type} [Store σ] {write : String → Document → Action σ Unit} {I : σ → Prop},
      Store.Apart write I → ∀ s : σ, I s → (∀ id, Store.Owned id s) →
        Commute info now r r' s a :=
  ⟨fun _ owned => commute MemoryStore.apart info now trivial owned a fires fires' ne,
    fun _ owned => commute PlainStore.apart info now trivial owned a fires fires' ne,
    fun _ ready owned => commute FileStore.apart info now ready owned a fires fires' ne,
    fun apart _ holds owned => commute apart info now holds owned a fires fires' ne⟩

namespace Session

/-- A session in which two documents were made. -/
def twoReviews : Session MemoryStore :=
  (start .epoch true).run reviewer [
    .request keepReview,
    .request (ask .createDocument [("workflow_id", .string (workflowId 1))]),
    .request (ask .createDocument [("workflow_id", .string (workflowId 1))])]

/-- Asks to move the second document. -/
def endSecondReview : Request :=
  ask .applyEvent [("document_id", .string (documentId 2)), ("event", .string "end"),
    ("roles", .array [.string "ed"])]

/-- The two requests name different documents. -/
theorem reviews_apart (id : String) (named : endReview.Concerns id) :
    ¬ endSecondReview.Concerns id := by
  obtain ⟨p, read, rfl⟩ := named
  rintro ⟨p', read', same⟩
  have first : (endReview.read? ApplyEventParams.schema).all
      (fun p => p.documentId == documentId 1) = true := by decide +kernel
  have second : (endSecondReview.read? ApplyEventParams.schema).all
      (fun p => p.documentId == documentId 2) = true := by decide +kernel
  rw [read, Option.all_some, beq_iff_eq] at first
  rw [read', Option.all_some, beq_iff_eq, same, first] at second
  exact absurd (numberedId_inj second) (by decide)

/-- The two documents may be moved in either order. Both moves succeed, and what is due at the same
time is polled in the order of the moves. Where neither document is there the order does not matter
either. -/
theorem twoReviews_commute :
    (∀ id, endReview.Concerns id → ¬ endSecondReview.Concerns id) ∧
    FileStore.first.Ready ∧ (∀ id, Store.Owned id FileStore.first) ∧
    Commute reviewer .epoch endReview endSecondReview FileStore.first (.start true) ∧
    (∀ id, Store.Owned id twoReviews.records) ∧
    (handle reviewer .epoch endReview (twoReviews.records, twoReviews.ambient)).1.status = .ok ∧
    (handle reviewer .epoch endSecondReview (twoReviews.records, twoReviews.ambient)).1.status =
      .ok ∧
    Commute reviewer .epoch endReview endSecondReview twoReviews.records twoReviews.ambient ∧
    ∃ q₁ q₂,
      (afterBoth reviewer .epoch endReview endSecondReview
        (twoReviews.records, twoReviews.ambient)).2.timers = some q₁ ∧
      (afterBoth reviewer .epoch endSecondReview endReview
        (twoReviews.records, twoReviews.ambient)).2.timers = some q₂ ∧
      Intent.SameUpToTies (q₁.popDue (seconds 3600)).1 (q₂.popDue (seconds 3600)).1 ∧
      (q₁.popDue (seconds 3600)).1.map (·.documentId) = [documentId 1, documentId 2] ∧
      (q₂.popDue (seconds 3600)).1.map (·.documentId) = [documentId 2, documentId 1] := by
  have owned : ∀ id, Store.Owned id twoReviews.records :=
    consistent_owned (run_consistent (s := start .epoch true) (MemoryStore.consistent_empty _) _)
  have reachable : twoReviews.TimersReachable := run_reachable reviewer .epoch true .numbering _
  have granted : (handle reviewer .epoch endReview
      (twoReviews.records, twoReviews.ambient)).1.status = .ok ∧ (handle reviewer .epoch
        endSecondReview (twoReviews.records, twoReviews.ambient)).1.status = .ok := by
    decide +kernel
  have polled : (twoReviews.ambient.timers.isSome &&
      (afterBoth reviewer .epoch endReview endSecondReview
        (twoReviews.records, twoReviews.ambient)).2.timers.any
          (fun q => (q.popDue (seconds 3600)).1.map (·.documentId) ==
            [documentId 1, documentId 2]) &&
      (afterBoth reviewer .epoch endSecondReview endReview
        (twoReviews.records, twoReviews.ambient)).2.timers.any
          fun q => (q.popDue (seconds 3600)).1.map (·.documentId) ==
            [documentId 2, documentId 1]) = true := by decide +kernel
  generalize twoReviews = s at owned reachable granted polled ⊢
  have commutes : Commute reviewer .epoch endReview endSecondReview s.records s.ambient :=
    (events_commute reviewer .epoch rfl rfl reviews_apart s.ambient).1 s.records owned
  rw [Bool.and_eq_true, Bool.and_eq_true, Option.isSome_iff_exists] at polled
  obtain ⟨⟨⟨q, timers⟩, first⟩, second⟩ := polled
  obtain ⟨q₁, q₂, left_, left', -, -, ties⟩ := commutes.timers q timers (reachable q timers)
  rw [left_, Option.any_some, beq_iff_eq] at first
  rw [left', Option.any_some, beq_iff_eq] at second
  have ready : FileStore.first.Ready := FileStore.fresh_first.ready rfl
  have absent : ∀ id, Store.Owned id FileStore.first := FileStore.fresh_first.owned
  have missing : Commute reviewer .epoch endReview endSecondReview FileStore.first (.start true) :=
    (events_commute reviewer .epoch rfl rfl reviews_apart (.start true)).2.2.1 _ ready absent
  exact ⟨reviews_apart, ready, absent, missing, owned, granted.1, granted.2, commutes, q₁, q₂,
    left_, left', ties [] (seconds 3600), first, second⟩

end Session

end Service

end Signoff
