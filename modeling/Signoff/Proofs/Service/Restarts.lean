import Signoff.Proofs.Engine.Blindness
import Signoff.Proofs.Service.Immutability

/-!
# Timers influence nothing

The engine tells the timer queue about documents and never asks it. So it makes no difference to a
client when timers are polled, whether the service has timers at all, and when it starts again with
a new engine and an empty queue on the records that are there: requests other than those for timers
are answered the same, and the records are the same in the end
(`Service.timers_influence_nothing`).

* `handle_blind`, `handle_pollTimers`: what a request does to records, whatever is beside them.
* `Session.turns`: a run with starts of a new engine between its inputs.
* `Session.turns_core`: such a run tells a client what the run without starts and polls tells.
-/

namespace Signoff

open Signoff.Action

/-- An object without one of its members. -/
def withoutMember (key : String) (v : Value) : Value :=
  match v.json with
  | .object members => .ofJson (.object (members.filter fun x => x.1 != key))
  | _ => v

/-- What a response tells whoever made a request, but for whether the service has timers if the
request asks what the service says about itself. -/
def Response.apartFromTimers (r : Request) (response : Response) : Response :=
  if r.operation = .info then
    { response with result := response.result.map (withoutMember "timers_enabled") }
  else response

/-- Opens the folder of a store again, with the ids that were handed out. The faults that are
scheduled for the disk do not strike this, but what comes after it. -/
def FileStore.reopened (f : FileStore) : Except StorageError FileStore :=
  let out := openAt { f.disk with faults := [] } f.folder f.workflowIds f.documentIds f.ids
  out.1.map fun opened => { opened with disk := { opened.disk with faults := f.disk.faults } }

/-- A store whose folders stand opens as it was. -/
theorem FileStore.reopened_of_stands {f : FileStore} (h : Stands f.disk f.folder) :
    f.reopened = .ok f := by
  have stands : Stands { f.disk with faults := [] } f.folder :=
    fun kind hk => (Disk.node?_faults ..).trans (h kind hk)
  rw [reopened, openAt_stands (by rfl) stands]
  rfl

namespace Service

variable {σ α β : Type}

/-! ## One request -/

theorem readParams_blind (schema : Json.Schema α) (r : Request) :
    Blind (readParams schema r.params : Operation σ α) :=
  (readParams_agree schema r).weaken (fun h => h) fun _ _ => trivial

theorem readDefinition_blind (info : ServiceInfo) (v : Value) :
    Blind (readDefinition info v : Operation σ Definition) := by
  intro x y same
  rw [readDefinition_apply, readDefinition_apply]
  exact ⟨rfl, same, fun _ _ => trivial⟩

/-- Parameters for an operation of the engine, and a result made from its. -/
theorem blind_of_engine (schema : Json.Schema α) (r : Request) {op : α → Engine.Operation σ β}
    (h : ∀ p, Blind (op p)) (result : β → Value) :
    Blind (do
      let p ← readParams schema r.params
      let b ← engine (op p)
      return result b : Operation σ Value) :=
  agree_of_engine schema r (fun h => h) (fun p _ => h p) result

variable [Store σ] {write : String → Document → Action σ Unit} (info : ServiceInfo) (now : Instant)
  {r : Request}

/-- Every operation but two, which are about the service and its timers, is blind. -/
theorem perform_blind (joins : Store.Joins write) (op : r.operation ≠ .info)
    (op' : r.operation ≠ .pollTimers) :
    Blind (perform info now r.operation r.params : Operation σ Value) := by
  cases same : r.operation with
  | ping => exact blind_pure _
  | info => exact absurd same op
  | createWorkflow =>
    refine (readParams_blind _ r).bind fun p => (readDefinition_blind info _).bind fun d => ?_
    exact Blind.bind (engine_agree (Engine.createWorkflow_blind now d)) fun _ => blind_pure _
  | getWorkflow => exact blind_of_engine _ r (fun p => Engine.getWorkflow_blind _) _
  | createDocument =>
    exact blind_of_engine _ r (fun p => Engine.createDocument_blind joins now _ _) _
  | getDocument => exact blind_of_engine _ r (fun p => Engine.getDocument_blind _) _
  | applyEvent => exact blind_of_engine _ r (fun p => Engine.applyEvent_blind joins now _ _ _) _
  | availableEvents => exact blind_of_engine _ r (fun p => Engine.availableEvents_blind _ _) _
  | pollTimers => exact absurd same op'

/-- A request that does not poll timers is answered the same and leaves the same records, whatever
is beside the records. -/
theorem handle_blind (joins : Store.Joins write) (other : r.operation ≠ .pollTimers) (s : σ)
    (a a' : Ambient) :
    (handle info now r (s, a)).1.apartFromTimers r =
        (handle info now r (s, a')).1.apartFromTimers r ∧
      (handle info now r (s, a)).2.1 = (handle info now r (s, a')).2.1 := by
  by_cases op : r.operation = .info
  · rw [handle_info info now op, handle_info info now op]
    refine ⟨?_, rfl⟩
    rw [Response.apartFromTimers, Response.apartFromTimers, if_pos op, if_pos op]
    rfl
  · rw [Response.apartFromTimers, Response.apartFromTimers, if_neg op, if_neg op]
    obtain ⟨result, left_, -⟩ := perform_blind info now joins op other
      (s := (s, a)) (t := (s, a')) rfl
    unfold handle
    generalize perform info now r.operation r.params (s, a) = out at result left_ ⊢
    generalize perform info now r.operation r.params (s, a') = out' at result left_ ⊢
    obtain ⟨done, s₁, a₁⟩ := out
    obtain ⟨done', s₂, a₂⟩ := out'
    obtain rfl : done = done' := result
    obtain rfl : s₁ = s₂ := left_
    cases done <;> exact ⟨rfl, rfl⟩

/-- Polling timers leaves the records. -/
theorem handle_pollTimers (op : r.operation = .pollTimers) (x : σ × Ambient) :
    (handle info now r x).2.1 = x.1 := by
  obtain ⟨s, a⟩ := x
  unfold handle
  rw [op, perform, pollTimers_apply]
  generalize (pollTimers now r.params ((), a)).1 = result
  cases result <;> rfl

/-! ## Runs with starts of a new engine -/

/-- What happens to a service: an input comes, or a new engine starts on its records, with an empty
timer queue or without one. -/
inductive Turn where
  | input (x : Input)
  | restart (withTimers : Bool)

/-- The input of a turn, unless it polls timers. -/
def Turn.core? : Turn → Option Input
  | .input (.request r) => if r.operation = .pollTimers then none else some (.request r)
  | .input (.clock t) => some (.clock t)
  | .restart _ => none

/-- The request of a moment and its answer. -/
def Moment.exchange? (x : Moment σ) : Option (Request × Response) :=
  match x.input, x.answer with
  | .request r, some response => some (r, response)
  | _, _ => none

/-- The requests of a run and their answers, without those that poll timers and without what the
service says about its timers. -/
def heard (exchanges : List (Request × Response)) : List (Request × Response) :=
  (exchanges.filter fun x => x.1.operation != .pollTimers).map fun x =>
    (x.1, x.2.apartFromTimers x.1)

theorem heard_poll (op : r.operation = .pollTimers) (response : Response)
    (rest : List (Request × Response)) : heard ((r, response) :: rest) = heard rest := by
  simp [heard, op]

theorem heard_other (op : r.operation ≠ .pollTimers) (response : Response)
    (rest : List (Request × Response)) :
    heard ((r, response) :: rest) = (r, response.apartFromTimers r) :: heard rest := by
  simp [heard, op]

namespace Session

/-- The requests of a run with their answers, and the session after it. A new engine finds the
records as they are when they are opened again. -/
def turns (info : ServiceInfo) (reopen : σ → Except StorageError σ) :
    Session σ → List Turn → Except StorageError (List (Request × Response) × Session σ)
  | s, [] => .ok ([], s)
  | s, .input x :: rest => do
    let (exchanges, last) ← turns info reopen (s.next info x) rest
    return ((s.moment info x).exchange?.toList ++ exchanges, last)
  | s, .restart withTimers :: rest => do
    let records ← reopen s.records
    turns info reopen ⟨s.now, records, .start withTimers⟩ rest

/-- A client hears the same in two runs: both come to their end, with the same answers to requests
that do not poll timers and with the same records. -/
def HearSame (info : ServiceInfo) (reopen : σ → Except StorageError σ) (s s' : Session σ)
    (run run' : List Turn) : Prop :=
  ∃ exchanges last exchanges' last', s.turns info reopen run = .ok (exchanges, last) ∧
    s'.turns info reopen run' = .ok (exchanges', last') ∧ heard exchanges = heard exchanges' ∧
    last.now = last'.now ∧ last.records = last'.records

variable {info now} {reopen : σ → Except StorageError σ} {I : σ → Prop}

/-- A run that starts with an input goes on from the session after it. -/
theorem turns_input {s last : Session σ} {x : Input} {rest : List Turn}
    {exchanges : List (Request × Response)}
    (ran : (s.next info x).turns info reopen rest = .ok (exchanges, last)) :
    s.turns info reopen (.input x :: rest) =
      .ok ((s.moment info x).exchange?.toList ++ exchanges, last) := by
  rw [turns, ran]
  rfl

variable (info) in
/-- A run tells a client what it tells without polls and without starts, and leaves the same
records, whatever is beside the records. -/
theorem turns_core (preserves : Store.Preserves write I) (reopens : ∀ {s}, I s → reopen s = .ok s)
    (run : List Turn) {s : Session σ} (holds : I s.records) (a : Ambient) :
    ∃ exchanges last, s.turns info reopen run = .ok (exchanges, last) ∧
      let plain : Session σ := ⟨s.now, s.records, a⟩
      let inputs := run.filterMap Turn.core?
      heard exchanges = heard ((plain.moments info inputs).filterMap Moment.exchange?) ∧
        last.now = (plain.run info inputs).now ∧
        last.records = (plain.run info inputs).records := by
  induction run generalizing s a with
  | nil => exact ⟨[], s, rfl, rfl, rfl, rfl⟩
  | cons turn rest ih =>
    rcases turn with (r | t) | withTimers
    · have kept : I (s.next info (.request r)).records :=
        handle_preserves preserves holds s.ambient
      by_cases poll : r.operation = .pollTimers
      · -- the run without polls stands still
        obtain ⟨exchanges, last, ran, same⟩ := ih kept a
        have stays : (s.next info (.request r)).records = s.records :=
          handle_pollTimers info s.now poll _
        have none_ : Turn.core? (.input (.request r)) = none := if_pos poll
        rw [stays] at same
        refine ⟨_, last, turns_input ran, ?_⟩
        rw [List.filterMap_cons_none none_]
        exact ⟨(heard_poll poll _ _).trans same.1, same.2⟩
      · -- both runs take the request, and what is beside the records goes apart
        obtain ⟨answered, left_⟩ := handle_blind info s.now preserves.joins poll s.records
          s.ambient a
        have some_ : Turn.core? (.input (.request r)) = some (.request r) := if_neg poll
        let next : Session σ := (⟨s.now, s.records, a⟩ : Session σ).next info (.request r)
        obtain ⟨exchanges, last, ran, same⟩ := ih kept next.ambient
        have records : (s.next info (.request r)).records = next.records := left_
        rw [records] at same
        refine ⟨_, last, turns_input ran, ?_⟩
        rw [List.filterMap_cons_some some_]
        refine ⟨?_, same.2⟩
        refine (heard_other poll _ _).trans (Eq.trans ?_ (heard_other poll _ _).symm)
        exact congrArg₂ (fun x xs => (r, x) :: xs) answered same.1
    · obtain ⟨exchanges, last, ran, same⟩ := ih (s := s.next info (.clock t)) holds a
      exact ⟨exchanges, last, turns_input ran, same⟩
    · obtain ⟨exchanges, last, ran, same⟩ :=
        ih (s := ⟨s.now, s.records, .start withTimers⟩) holds a
      refine ⟨exchanges, last, ?_, same⟩
      rw [turns, reopens holds]
      exact ran

/-- Runs with the same inputs but for polls and starts tell a client the same. -/
theorem hearSame (preserves : Store.Preserves write I) (reopens : ∀ {s}, I s → reopen s = .ok s)
    {run run' : List Turn} (same : run.filterMap Turn.core? = run'.filterMap Turn.core?)
    (t : Instant) {records : σ} (holds : I records) (a a' : Ambient) :
    HearSame info reopen ⟨t, records, a⟩ ⟨t, records, a'⟩ run run' := by
  obtain ⟨exchanges, last, ran, told, now, left_⟩ :=
    turns_core info preserves reopens run (s := ⟨t, records, a⟩) holds a
  obtain ⟨exchanges', last', ran', told', now', left'⟩ :=
    turns_core info preserves reopens run' (s := ⟨t, records, a'⟩) holds a
  rw [← same] at told' now' left'
  exact ⟨exchanges, last, exchanges', last', ran, ran', told.trans told'.symm,
    now.trans now'.symm, left_.trans left'.symm⟩

end Session

/-- Of two runs from the same records, with the same requests and times but for requests that poll
timers, and with starts of a new engine anywhere in them, a client hears the same, whether the
service has timers or not: on records in memory and in maps, which stay for the new engine, and on
files in folders that stand, which the new engine opens again. -/
theorem timers_influence_nothing (info : ServiceInfo) {run run' : List Turn}
    (same : run.filterMap Turn.core? = run'.filterMap Turn.core?) (t : Instant) (a a' : Ambient) :
    (∀ m : MemoryStore, Session.HearSame info .ok ⟨t, m, a⟩ ⟨t, m, a'⟩ run run') ∧
    (∀ p : PlainStore, Session.HearSame info .ok ⟨t, p, a⟩ ⟨t, p, a'⟩ run run') ∧
    ∀ f : FileStore, FileStore.Stands f.disk f.folder →
      Session.HearSame info FileStore.reopened ⟨t, f, a⟩ ⟨t, f, a'⟩ run run' :=
  ⟨fun _ => Session.hearSame (Store.preserves_nothing MemoryStore.joins) (fun _ => rfl) same t
      trivial a a',
    fun _ => Session.hearSame (Store.preserves_nothing PlainStore.joins) (fun _ => rfl) same t
      trivial a a',
    fun _ stands => Session.hearSame FileStore.stands_preserves FileStore.reopened_of_stands same t
      stands a a'⟩

/-- The small session, and a look at what the service says about itself. -/
def Session.reviewTurns : List Turn :=
  Session.reviewRun.map .input ++ [.input (.request (ask .info []))]

/-- The same with a poll for timers and with starts of a new engine. -/
def Session.restartedReview : List Turn := [
  .input (.request keepReview),
  .restart true,
  .input (.request (ask .createDocument [("workflow_id", .string (workflowId 1))])),
  .input (.request (ask .pollTimers [])),
  .input (.clock (seconds 60)),
  .restart false,
  .input (.request endReview),
  .input (.request (ask .info []))]

/-- The small session tells the same with starts of a new engine, in memory and in files. -/
theorem restarted_review_tells_same :
    Session.HearSame Session.reviewer .ok ⟨.epoch, MemoryStore.empty, .start false⟩
      ⟨.epoch, .empty, .start true⟩ Session.reviewTurns Session.restartedReview ∧
    FileStore.Stands FileStore.first.disk FileStore.first.folder ∧
    Session.HearSame Session.reviewer FileStore.reopened ⟨.epoch, .first, .start false⟩
      ⟨.epoch, .first, .start true⟩ Session.reviewTurns Session.restartedReview := by
  have stands := FileStore.fresh_first.stands
  have same : Session.reviewTurns.filterMap Turn.core? =
      Session.restartedReview.filterMap Turn.core? := rfl
  obtain ⟨memory, -, files⟩ := timers_influence_nothing Session.reviewer
    same .epoch (.start false) (.start true)
  exact ⟨memory .empty, stands, files .first stands⟩

end Service

end Signoff
