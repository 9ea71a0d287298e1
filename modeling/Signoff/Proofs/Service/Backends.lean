import Signoff.Proofs.Service.Mirrors

/-!
# The store of a service cannot be told

A service gives the same answers to a run whether it keeps its records in memory, in files or in two
maps (`answers_do_not_depend_on_store`), but for the name of its store. Each request keeps the other
stores mirrors of the memory (`Session.told_eq`).
-/

namespace Signoff

namespace Service

variable {σ : Type}

/-- What the answer of a moment tells, but for the name of the store. -/
def Moment.told (m : Moment σ) : Option Response :=
  match m.input with
  | .request r => m.answer.map (·.toldTo r)
  | .clock _ => m.answer

/-- What a session on some records tells in the course of a run, but for the name of the store. -/
def Session.told [Store σ] (info : ServiceInfo) (s : Session σ) (inputs : List Input) :
    List (Option Response) :=
  (s.moments info inputs).map Moment.told

theorem Session.told_request [Store σ] (info : ServiceInfo) (now : Instant) (s : σ) (a : Ambient)
    (r : Request) (rest : List Input) :
    (Session.mk now s a).told info (.request r :: rest) =
      some ((handle info now r (s, a)).1.toldTo r) ::
        (Session.mk now (handle info now r (s, a)).2.1 (handle info now r (s, a)).2.2).told info
          rest := rfl

/-- A request hands out one id of a kind at most, and ids come from the same source after it. -/
theorem Effect.ids {info : ServiceInfo} {now : Instant} {r : Request} {s s' : MemoryStore}
    {q q' : Option TimerQueue} {status : ResponseStatus} (e : Effect info now r s q status s' q') :
    s'.workflowIds ≤ s.workflowIds + 1 ∧ s'.documentIds ≤ s.documentIds + 1 ∧ s'.ids = s.ids := by
  cases e <;> exact ⟨by first | exact Nat.le_refl _ | exact Nat.le_succ _,
    by first | exact Nat.le_refl _ | exact Nat.le_succ _, rfl⟩

namespace Session

/-- A store on which every request keeps a mirror of the memory tells the same in the course of
every run. The ids that are handed out come from one source and are counted by the inputs. -/
theorem told_eq {τ : Type} [Store τ] {Id : String → Prop} {Data : Value → Prop}
    {Mirrors : MemoryStore → τ → Prop} (source : IdSource) (limit : Nat)
    (step : ∀ {m : MemoryStore} {t : τ}, Mirrors m t → m.Consistent → m.ids = source →
      m.workflowIds < limit → m.documentIds < limit → ∃ put put' Stored,
        Store.Simulates put put' Id Data Stored (At m t) Mirrors)
    (info : ServiceInfo) (name : String) {inputs : List Input} (now : Instant) {m : MemoryStore}
    {t : τ} (ambient : Ambient) (related : Mirrors m t) (consistent : m.Consistent)
    (names : ∀ r, .request r ∈ inputs → r.Names Id Data) (same : m.ids = source)
    (ids : m.workflowIds + inputs.length ≤ limit ∧ m.documentIds + inputs.length ≤ limit) :
    (Session.mk now m ambient).told info inputs =
      (Session.mk now t ambient).told { info with storage := name } inputs := by
  induction inputs generalizing now m t ambient with
  | nil => rfl
  | cons input rest ih =>
    have names' : ∀ r, .request r ∈ rest → r.Names Id Data :=
      fun r hr => names r (List.mem_cons_of_mem _ hr)
    rw [List.length_cons] at ids
    cases input with
    | clock later => exact congrArg _ (ih later ambient related consistent names' same (by omega))
    | request r =>
      obtain ⟨put, put', Stored, sim⟩ := step related consistent same (by omega) (by omega)
      obtain ⟨told, related', told'⟩ := handle_agree sim info name now
        (names r List.mem_cons_self) Agree.at_self ambient
      have effect : Effect info now r m ambient.timers _ _ _ := handle_effect
      obtain ⟨workflows, documents, source'⟩ := effect.ids
      rw [told_request, told_request, told, ← told']
      exact congrArg _ (ih now _ related' (effect.consistent consistent) names'
        (source'.trans same) (by omega))

end Session

/-- A service tells the same in the course of every run on records in memory, in files that a fresh
folder holds and in two maps with the same source of ids, as long as no fault befalls the files, ids
are at most 200 bytes long and data leaves room for the object that is written around it. -/
theorem answers_do_not_depend_on_store (info : ServiceInfo) (fileName mapName : String)
    (t : Instant) (withTimers : Bool) (files : FileStore) (fresh : files.Fresh)
    (calm : files.disk.faults = []) (inputs : List Input)
    (modest : ∀ r, .request r ∈ inputs → r.Names ShortId ReadableData)
    (short : files.ids.ShortTo inputs.length) :
    let inMemory := (Session.mk t (MemoryStore.empty files.ids) (.start withTimers)).told info
      inputs
    let inFiles := (Session.mk t files (.start withTimers)).told { info with storage := fileName }
      inputs
    let inMaps := (Session.mk t (PlainStore.empty files.ids) (.start withTimers)).told
      { info with storage := mapName } inputs
    inFiles = inMemory ∧ inMaps = inMemory := by
  intro inMemory inFiles inMaps
  constructor
  · refine (Session.told_eq files.ids inputs.length (fun h c same workflows documents => ?_) info
      fileName t _ (FileStore.mirrors_fresh fresh calm) (MemoryStore.consistent_empty _) modest rfl
      ⟨Nat.le_of_eq (Nat.zero_add _), Nat.le_of_eq (Nat.zero_add _)⟩).symm
    rw [← same] at short
    exact ⟨_, _, _, FileStore.simulates h c (short _ workflows).1 (short _ documents).2⟩
  · refine (Session.told_eq files.ids inputs.length (fun h c _ _ _ => ?_) info mapName t _
      (PlainStore.mirrors_empty _) (MemoryStore.consistent_empty _) (fun r _ => r.names_any) rfl
      ⟨Nat.le_of_eq (Nat.zero_add _), Nat.le_of_eq (Nat.zero_add _)⟩).symm
    exact ⟨_, _, _, PlainStore.simulates h c⟩

/-- The small session, then what the service says about itself, a document whose id is no name of a
file, and the timers. -/
def Session.tour : List Input := Session.reviewRun ++ [
  .request (Session.ask .info []),
  .request (Session.ask .getDocument [("document_id", .string "../documents/1")]),
  .request (Session.ask .pollTimers [])]

theorem Session.tour_modest : ∀ r, .request r ∈ Session.tour → r.Names ShortId ReadableData := by
  intro r h
  have requests : r ∈ [Session.keepReview,
      Session.ask .createDocument [("workflow_id", .string (workflowId 1))], Session.endReview,
      Session.ask .info [],
      Session.ask .getDocument [("document_id", .string "../documents/1")],
      Session.ask .pollTimers []] := by
    simpa [Session.tour, Session.reviewRun] using h
  simp only [List.mem_cons, List.not_mem_nil, or_false] at requests
  rcases requests with rfl | rfl | rfl | rfl | rfl | rfl
  · trivial
  · intro p read
    have asked : ((Session.ask .createDocument [("workflow_id", .string (workflowId 1))]).read?
        CreateDocumentParams.schema).all (fun p => p.workflowId == workflowId 1 && p.data.isNull) =
        true := by decide +kernel
    rw [read, Option.all_some, Bool.and_eq_true, beq_iff_eq] at asked
    rw [asked.1, Value.isNull_iff.1 asked.2]
    exact ⟨by decide, trivial, by decide⟩
  · intro p read
    have asked : (Session.endReview.read? ApplyEventParams.schema).all
        (fun p => p.documentId == documentId 1) = true := by decide +kernel
    rw [read, Option.all_some, beq_iff_eq] at asked
    rw [asked]
    decide
  · trivial
  · intro p read
    have asked : ((Session.ask .getDocument [("document_id", .string "../documents/1")]).read?
        GetDocumentParams.schema).all (fun p => p.documentId == "../documents/1") = true := by
      decide +kernel
    rw [read, Option.all_some, beq_iff_eq] at asked
    rw [asked]
    decide
  · trivial

/-- The tour is answered the same on all stores: a document is made and moved, and the id that is no
name of a file is refused. -/
theorem tour_answers_do_not_depend_on_store :
    let inMemory := (Session.mk .epoch MemoryStore.empty (.start true)).told Session.reviewer
      Session.tour
    FileStore.first.Fresh ∧ FileStore.first.disk.faults = [] ∧
      FileStore.first.ids.ShortTo Session.tour.length ∧
      inMemory.map (·.map (·.status)) =
        [some .ok, some .ok, none, some .ok, some .ok, some .error, some .ok] ∧
      (Session.mk .epoch FileStore.first (.start true)).told
        { Session.reviewer with storage := "file" } Session.tour = inMemory ∧
      (Session.mk .epoch PlainStore.empty (.start true)).told
        { Session.reviewer with storage := "maps" } Session.tour = inMemory := by
  intro inMemory
  have ids : FileStore.first.ids.ShortTo Session.tour.length := by
    have all : ∀ n < 7, ShortId (workflowId (n + 1)) ∧ ShortId (documentId (n + 1)) := by
      decide +kernel
    exact all
  obtain ⟨inFiles, inMaps⟩ := answers_do_not_depend_on_store Session.reviewer "file" "maps" .epoch
    true .first FileStore.fresh_first (by rfl) Session.tour Session.tour_modest ids
  exact ⟨FileStore.fresh_first, by rfl, ids, by decide +kernel, inFiles, inMaps⟩

end Service

end Signoff
