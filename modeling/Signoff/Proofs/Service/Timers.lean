import Signoff.Proofs.Service.Consistency
import Signoff.Proofs.Timer.Tracks

/-!
# Timers follow documents

What is pending for a document are the intents that follow from it as it is, without those that were
due when timers were polled since the document was made or last moved.

The proof keeps a ledger beside the session (`Scheduled`): the queue tracks it, and what each
document has in it is what the document should have pending.

* `Scheduled.next`: every input keeps the ledger up to date.
* `timers_follow_documents`: what the queue shows after every run.
-/

namespace Signoff

namespace Intent

/-- An intent comes before another one if it fires earlier or, of two that fire at the same time, if
it is about the deadline. -/
def precedes (a b : Intent) : Bool :=
  match compare a.fireAt b.fireAt with
  | .lt => true
  | .eq => a.kind = .deadline ∨ b.kind = .reapproval
  | .gt => false

/-- Intents by the time at which they fire, the one about the deadline first on a tie. -/
def inOrder (intents : List Intent) : List Intent := intents.mergeSort precedes

/-- The intents that were due at none of some times. -/
def outstanding (times : List Instant) (intents : List Intent) : List Intent :=
  intents.filter fun i => !times.any fun t => i.fireAt ≤ t

theorem outstanding_append (earlier later : List Instant) (intents : List Intent) :
    outstanding (later ++ earlier) intents = outstanding later (outstanding earlier intents) := by
  rw [outstanding, outstanding, outstanding, List.filter_filter]
  exact List.filter_congr fun i _ => by rw [List.any_append, Bool.not_or]

/-- The intents of a document are at most one about its deadline and then one about its return. -/
theorem ofDocument_kinds (d : Document) (m : Machine) :
    (ofDocument d m).Pairwise fun a b => a.kind = .deadline ∧ b.kind = .reapproval := by
  unfold ofDocument
  cases d.dueAt with
  | none =>
    cases d.nextReapproval with
    | none => exact .nil
    | some => cases m.reapproval with
      | none => exact .nil
      | some => exact List.pairwise_singleton ..
  | some =>
    cases d.nextReapproval with
    | none => exact List.pairwise_singleton ..
    | some => cases m.reapproval with
      | none => exact List.pairwise_singleton ..
      | some => exact List.pairwise_pair.2 ⟨rfl, rfl⟩

end Intent

/-- Sorting the entries of an owner sorts their intents, if the first is about a deadline and the
second about a return. -/
theorem Ledger.map_intent_sorted {entries : List Entry}
    (h : entries.Pairwise fun a b => a.number < b.number ∧
      a.intent.kind = .deadline ∧ b.intent.kind = .reapproval) :
    (sorted entries).map (·.intent) = Intent.inOrder (entries.map (·.intent)) := by
  have key (a b : Entry) : compare a.key b.key =
      (compare a.intent.fireAt b.intent.fireAt).then (compare a.number b.number) := rfl
  refine List.map_mergeSort ?_
  refine List.Pairwise.forall_of_forall_of_flip (fun a _ => ?_) (h.imp fun {a b} h => ?_)
    (h.imp fun {a b} h => ?_)
  · rw [Intent.precedes, Std.ReflOrd.compare_self, Std.ReflOrd.compare_self]
    cases a.intent.kind <;> rfl
  · rw [key, Intent.precedes, Nat.compare_eq_lt.2 h.1]
    cases compare a.intent.fireAt b.intent.fireAt with
    | lt => rfl
    | eq => simp [h.2.1]
    | gt => rfl
  · show (compare b.key a.key).isLE = b.intent.precedes a.intent
    rw [key, Intent.precedes, Nat.compare_eq_gt.2 h.1]
    cases compare b.intent.fireAt a.intent.fireAt with
    | lt => rfl
    | eq => simp [h.2.1, h.2.2]
    | gt => rfl

namespace Service

variable {σ : Type} {info : ServiceInfo}

/-- The time up to which a moment polled the timers, if it did. -/
def Moment.polled? (x : Moment σ) : Option Instant :=
  match x.granted? with
  | none => none
  | some r =>
    match r.operation with
    | .pollTimers => (r.read? PollTimersParams.schema).map fun p => p.now.getD x.before.now
    | _ => none

/-- The moment made or moved the document under an id. -/
def Moment.renews (x : Moment MemoryStore) (id : String) : Bool :=
  match x.granted? with
  | none => false
  | some r =>
    match r.operation with
    | .createDocument =>
      (x.before.records.documents.get? id).isNone && (x.after.records.documents.get? id).isSome
    | .applyEvent => (r.read? ApplyEventParams.schema).any (·.documentId = id)
    | _ => false

/-- The times up to which timers were polled since the document under an id was made or last moved,
the latest poll first. -/
def pollsSince (id : String) (moments : List (Moment MemoryStore)) : List Instant :=
  (moments.reverse.takeWhile (!·.renews id)).filterMap (·.polled?)

theorem pollsSince_concat (id : String) (moments : List (Moment MemoryStore))
    (x : Moment MemoryStore) :
    pollsSince id (moments ++ [x]) =
      if x.renews id = true then [] else x.polled?.toList ++ pollsSince id moments := by
  rw [pollsSince, List.reverse_append]
  show List.filterMap _ (List.takeWhile _ (x :: moments.reverse)) = _
  rw [List.takeWhile_cons]
  cases x.renews id with
  | true => rfl
  | false =>
    show List.filterMap _ (x :: _) = _
    rw [List.filterMap_cons]
    cases x.polled? <;> rfl

/-- A moment that neither polls nor renews any document counts for none. -/
structure Moment.Quiet (x : Moment MemoryStore) : Prop where
  renews : ∀ id, x.renews id = false
  polled : x.polled? = none

theorem Moment.quiet_of_refused {x : Moment MemoryStore} (h : x.granted? = none) : x.Quiet where
  renews _ := by rw [Moment.renews, h]
  polled := by rw [Moment.polled?, h]

theorem Moment.quiet_of_granted {x : Moment MemoryStore} {r : Request} (h : x.granted? = some r)
    (op : r.operation.looks = true ∨ r.operation = .createWorkflow) : x.Quiet where
  renews _ := by
    simp only [Moment.renews, h]
    cases ho : r.operation with
    | createDocument => rw [ho] at op; exact absurd op (by decide)
    | applyEvent => rw [ho] at op; exact absurd op (by decide)
    | _ => rfl
  polled := by
    simp only [Moment.polled?, h]
    cases ho : r.operation with
    | pollTimers => rw [ho] at op; exact absurd op (by decide)
    | _ => rfl

/-! ## The ledger of a session -/

/-- The queue of a session tracks a ledger in which each document has the intents that follow from
it and are outstanding. -/
structure Scheduled (s : Session MemoryStore) (moments : List (Moment MemoryStore)) (l : Ledger) :
    Prop where
  tracked : ∃ q, s.ambient.timers = some q ∧ q.Tracks l
  owners : ∀ e ∈ l.entries, ∃ d, s.records.documents.get? e.owner = some d
  pending : ∀ {id d w m}, s.records.documents.get? id = some d →
    s.records.workflows.get? d.workflowId = some w → Machine.ofWorkflow w = .ok m →
    (l.of id).map (·.intent) =
      Intent.outstanding (pollsSince id moments) (Intent.ofDocument d m)

theorem scheduled_start (t : Instant) (ids : IdSource) :
    Scheduled (.start t true ids) [] .empty where
  tracked := ⟨.empty, rfl, TimerQueue.tracks_empty⟩
  owners _ he := nomatch he
  pending found := nomatch found

namespace Scheduled

variable {s s' : Session MemoryStore} {moments : List (Moment MemoryStore)} {l : Ledger}
  {x : Moment MemoryStore}

/-- A quiet moment that keeps documents, their workflows and timers keeps the ledger. -/
theorem same (h : Scheduled s moments l) (quiet : x.Quiet)
    (timers : s'.ambient.timers = s.ambient.timers)
    (documents : s'.records.documents = s.records.documents)
    (workflows : ∀ {id d}, s.records.documents.get? id = some d →
      s'.records.workflows.get? d.workflowId = s.records.workflows.get? d.workflowId) :
    Scheduled s' (moments ++ [x]) l where
  tracked := by rw [timers]; exact h.tracked
  owners := by rw [documents]; exact h.owners
  pending found stored compiled := by
    rw [documents] at found
    rw [workflows found] at stored
    rw [pollsSince_concat, quiet.renews, quiet.polled]
    exact h.pending found stored compiled

/-- A document that is made or moved has its intents scheduled anew. -/
theorem renew (h : Scheduled s moments l) {id : String} {d : Document} {w : Workflow} {m : Machine}
    (renews : ∀ id', x.renews id' = decide (id = id')) (polled : x.polled? = none)
    (timers : s'.ambient.timers = s.ambient.timers.map (·.replace id (Intent.ofDocument d m)))
    (documents : s'.records.documents = s.records.documents.insert id d)
    (workflows : s'.records.workflows = s.records.workflows)
    (stored : s.records.workflows.get? d.workflowId = some w)
    (compiled : Machine.ofWorkflow w = .ok m) :
    Scheduled s' (moments ++ [x]) (l.replace id (Intent.ofDocument d m)) where
  tracked := by
    obtain ⟨q, hq, tracks⟩ := h.tracked
    exact ⟨_, by rw [timers, hq]; rfl, tracks.replace ..⟩
  owners e he := by
    rw [documents]
    by_cases ho : e.owner = id
    · exact ⟨d, by rw [ho]; exact Table.get?_insert_self ..⟩
    · rw [Table.get?_insert_of_ne _ ho]
      rcases Ledger.mem_replace.1 he with ⟨he, -⟩ | he
      · exact h.owners e he
      · exact absurd (Ledger.mem_number he).1 ho
  pending {id' d' w' m'} found stored' compiled' := by
    rw [documents] at found
    rw [workflows] at stored'
    rw [pollsSince_concat, renews, polled]
    by_cases hi : id = id'
    · subst hi
      rw [Table.get?_insert_self, Option.some.injEq] at found
      subst found
      rw [stored, Option.some.injEq] at stored'
      subst stored'
      rw [compiled, Except.ok.injEq] at compiled'
      subst compiled'
      rw [Ledger.of_replace_self, Ledger.map_intent_number, if_pos (decide_eq_true rfl)]
      exact (List.filter_eq_self.2 fun _ _ => rfl).symm
    · rw [Table.get?_insert_of_ne _ (Ne.symm hi)] at found
      rw [Ledger.of_replace_other _ (Ne.symm hi), if_neg (by simpa using hi)]
      exact h.pending found stored' compiled'

/-- What is due at a poll is taken out. -/
theorem poll (h : Scheduled s moments l) {t : Instant} {q : TimerQueue}
    (renews : ∀ id, x.renews id = false) (polled : x.polled? = some t)
    (timers : s.ambient.timers = some q) (timers' : s'.ambient.timers = some (q.popDue t).2)
    (records : s'.records = s.records) : Scheduled s' (moments ++ [x]) (l.later t) where
  tracked := by
    obtain ⟨q', hq, tracks⟩ := h.tracked
    rw [timers, Option.some.injEq] at hq
    subst hq
    exact ⟨_, timers', tracks.popDue t⟩
  owners e he := by
    rw [records]
    exact h.owners e (Ledger.mem_later.1 he).1
  pending {id d w m} found stored compiled := by
    rw [records] at found stored
    have before := h.pending found stored compiled
    rw [pollsSince_concat, renews, polled, Ledger.of_later]
    show _ = Intent.outstanding ([t] ++ pollsSince id moments) _
    rw [Intent.outstanding_append, ← before, Intent.outstanding, List.filter_map]
    simp [Function.comp_def]

/-- Every input keeps the ledger up to date. -/
theorem next (h : Scheduled s moments l) (consistent : s.records.Consistent) (input : Input) :
    ∃ l', Scheduled (s.next info input) (moments ++ [s.moment info input]) l' := by
  cases input with
  | clock => exact ⟨l, h.same (Moment.quiet_of_refused rfl) rfl rfl fun _ => rfl⟩
  | request r =>
    obtain ⟨status, e, granted⟩ := s.next_effect info r
    have before : (s.moment info (.request r)).before = s := rfl
    have after : (s.moment info (.request r)).after = s.next info (.request r) := rfl
    generalize s.moment info (.request r) = x at granted before after ⊢
    generalize s.next info (.request r) = s' at e after ⊢
    have workflows {id : String} {d : Document} (found : s.records.documents.get? id = some d) :=
      e.workflow_same consistent found
    generalize hr : s'.records = records at e
    generalize ht : s'.ambient.timers = timers at e
    cases e with
    | refused =>
      exact ⟨l, h.same (Moment.quiet_of_refused granted) ht (by rw [hr]) workflows⟩
    | looked op =>
      exact ⟨l, h.same (Moment.quiet_of_granted granted (.inl op)) ht (by rw [hr]) workflows⟩
    | workflowKept op =>
      exact ⟨l, h.same (Moment.quiet_of_granted granted (.inr op)) ht (by rw [hr]; rfl) workflows⟩
    | documentMade op read stored compiled due next made =>
      refine ⟨_, h.renew ?_ ?_ ht (by rw [hr]; rfl) (by rw [hr]; rfl) (made ▸ stored) compiled⟩
      · intro id'
        simp only [Moment.renews, granted, op, if_true, before, after, hr]
        by_cases hi : s.records.nextDocumentId = id'
        · subst hi
          rw [consistent.get?_nextDocumentId, MemoryStore.get?_addDocument_self]
          simp
        · rw [MemoryStore.get?_addDocument_other (Ne.symm hi)]
          cases s.records.documents.get? id' <;> simp [hi]
      · simp only [Moment.polled?, granted, op, if_true]
    | documentMoved op read found stored compiled moved =>
      have same := Document.fire_sameOrigin moved
      have id_eq := (consistent.document found).id_eq
      rw [same.id, id_eq] at ht
      refine ⟨_, h.renew ?_ ?_ ht (by rw [hr]) (by rw [hr]) (same.workflowId ▸ stored) compiled⟩
      · intro id'
        simp only [Moment.renews, granted, op, if_true, read, Option.any_some]
      · simp only [Moment.polled?, granted, op, if_true]
    | timersPolled op read timers =>
      refine ⟨_, h.poll ?_ ?_ timers ht hr⟩
      · intro id
        simp only [Moment.renews, granted, op, if_true]
      · simp only [Moment.polled?, granted, op, if_true, read, before]
        rfl

/-- What a document has pending in the ledger, in the order of the queue. -/
theorem inOrder (h : Scheduled s moments l) (numbered : l.Numbered) {id : String} {d : Document}
    {w : Workflow} {m : Machine} (found : s.records.documents.get? id = some d)
    (stored : s.records.workflows.get? d.workflowId = some w)
    (compiled : Machine.ofWorkflow w = .ok m) :
    (Ledger.sorted (l.of id)).map (·.intent) =
      Intent.inOrder (Intent.outstanding (pollsSince id moments) (Intent.ofDocument d m)) := by
  have pending := h.pending found stored compiled
  have kinds : ((l.of id).map (·.intent)).Pairwise fun a b =>
      a.kind = .deadline ∧ b.kind = .reapproval := by
    rw [pending]
    exact (Intent.ofDocument_kinds d m).filter _
  rw [List.pairwise_map] at kinds
  rw [← pending]
  exact Ledger.map_intent_sorted ((numbered.ordered.filter _).and kinds)

end Scheduled

/-- Some ledger is kept up to date over every run. -/
theorem run_scheduled (info : ServiceInfo) (t : Instant) (ids : IdSource) (inputs : List Input) :
    ∃ l, Scheduled ((Session.start t true ids).run info inputs)
      ((Session.start t true ids).moments info inputs) l := by
  -- from the right, since a ledger follows from the one before the last input
  rw [← List.reverse_reverse inputs]
  induction inputs.reverse with
  | nil => exact ⟨_, scheduled_start t ids⟩
  | cons input earlier ih =>
    obtain ⟨l, h⟩ := ih
    rw [List.reverse_cons, Session.run_concat, Session.moments_concat]
    exact h.next (Session.run_consistent (MemoryStore.consistent_empty ids) _) input

/-- After every run with timers, what is pending for a document are the intents that follow from it,
by the time at which they fire and the one about its deadline first, without those that were due at
a poll since the document was made or last moved. The queue has nothing else. -/
theorem timers_follow_documents (info : ServiceInfo) (t : Instant) (ids : IdSource)
    (inputs : List Input) :
    let s := (Session.start t true ids).run info inputs
    let moments := (Session.start t true ids).moments info inputs
    ∃ q, s.ambient.timers = some q ∧
      (∀ id d, s.records.documents.get? id = some d → d.id = id ∧
        ∃ w m, s.records.workflows.get? d.workflowId = some w ∧ Machine.ofWorkflow w = .ok m ∧
          q.pendingFor d.id =
            Intent.inOrder (Intent.outstanding (pollsSince d.id moments) (Intent.ofDocument d m))) ∧
      q.size = (s.records.documents.keys.map fun id => (q.pendingFor id).length).sum ∧
      ∀ id, s.records.documents.get? id = none → q.pendingFor id = [] := by
  intro s moments
  obtain ⟨l, scheduled⟩ := run_scheduled info t ids inputs
  have consistent : s.records.Consistent :=
    Session.run_consistent (MemoryStore.consistent_empty ids) inputs
  obtain ⟨q, timers, tracks⟩ := scheduled.tracked
  refine ⟨q, timers, ?_, ?_, ?_⟩
  · intro id d found
    have id_eq := (consistent.document found).id_eq
    obtain ⟨w, stored, -⟩ := (consistent.document found).fits
    obtain ⟨m, compiled⟩ := (consistent.workflow stored).compiled
    refine ⟨id_eq, w, m, stored, compiled, ?_⟩
    rw [id_eq, tracks.pendingFor]
    exact scheduled.inOrder tracks.numbered found stored compiled
  · have owners (e : Ledger.Entry) (he : e ∈ l.entries) : e.owner ∈ s.records.documents.keys :=
      Table.mem_keys_iff.2 (scheduled.owners e he)
    rw [tracks.size, Ledger.length_eq_sum (Table.keys_nodup _) owners]
    refine congrArg List.sum (List.map_congr_left fun id _ => ?_)
    rw [tracks.pendingFor, List.length_map, Ledger.sorted, List.length_mergeSort]
    rfl
  · intro id absent
    have nothing : l.of id = [] := by
      refine List.filter_eq_nil_iff.2 fun e he => ?_
      obtain ⟨d, found⟩ := scheduled.owners e he
      intro owner
      rw [of_decide_eq_true owner, absent] at found
      cases found
    rw [tracks.pendingFor, nothing, Ledger.sorted, List.mergeSort_nil]
    rfl

/-- The small session goes on: an hour after the document was moved the timers are polled. -/
def Session.pollRun : List Input :=
  reviewRun ++ [.clock (seconds 3660), .request (ask .pollTimers [])]

/-- The poll takes out the intent about the deadline of the document, and the one about its return
stays. -/
theorem polled_document_returns : ∃ q d m,
    ((Session.start .epoch true).run Session.reviewer Session.pollRun).ambient.timers = some q ∧
    d.id = documentId 1 ∧
    q.pendingFor d.id = Intent.inOrder (Intent.outstanding
      (pollsSince d.id ((Session.start .epoch true).moments Session.reviewer Session.pollRun))
      (Intent.ofDocument d m)) ∧
    (q.pendingFor d.id).map (·.kind) = [.reapproval] ∧ q.size = 1 ∧
    q.pendingFor (documentId 2) = [] := by
  obtain ⟨kinds, keys⟩ : ((Session.start .epoch true).run Session.reviewer
      Session.pollRun).ambient.timers.map (fun q => (q.pendingFor (documentId 1)).map (·.kind)) =
        some [.reapproval] ∧ ((Session.start .epoch true).run Session.reviewer
          Session.pollRun).records.documents.keys = [documentId 1] := by decide +kernel
  have main := timers_follow_documents Session.reviewer .epoch .numbering Session.pollRun
  dsimp only at main
  generalize (Session.start .epoch true).run Session.reviewer Session.pollRun = s at *
  obtain ⟨q, timers, pending, size, nothing⟩ := main
  rw [timers, Option.map_some, Option.some.injEq] at kinds
  have stands : documentId 1 ∈ s.records.documents.keys := by
    rw [keys]
    exact List.mem_singleton_self _
  obtain ⟨d, found⟩ := Table.mem_keys_iff.1 stands
  obtain ⟨id_eq, w, m, -, -, pending⟩ := pending _ d found
  refine ⟨q, d, m, timers, id_eq, pending, id_eq ▸ kinds, ?_, ?_⟩
  · have one : (q.pendingFor (documentId 1)).length = 1 := by
      rw [← List.length_map (·.kind), kinds]
      rfl
    rw [size, keys, List.map_singleton, one]
    rfl
  · refine nothing _ (Option.eq_none_iff_forall_ne_some.2 fun d' found' => ?_)
    have stands' := Table.mem_keys_iff.2 ⟨d', found'⟩
    rw [keys, List.mem_singleton] at stands'
    exact absurd (numberedId_inj stands') (by decide)

end Service

end Signoff
