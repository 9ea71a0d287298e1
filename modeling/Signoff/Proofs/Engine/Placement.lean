import Signoff.Proofs.Engine.Memory
import Signoff.Proofs.Json.Depth
import Signoff.Proofs.Store.Shelf

/-!
# Where a fired event writes

A file store looks a document up by the id that it is asked for, and writes it by the id that the
record has. So firing an event changes, whatever the files hold and whatever faults befall them, the
record of the document that was found and what is beside it, and nothing else
(`Engine.fired_event_writes_found_record`). That is the record that was asked for as long as each
file holds the record of its name; a record that was copied to another name leads the event to the
file it was copied from (`Engine.copied_record_is_moved_elsewhere`).
-/

namespace Signoff

open Signoff.Action

namespace FileStore

variable {s : FileStore} {d : Document} {id key : String} {ω β : Type}

/-- The keys of the file of a document and of the file beside it. -/
def documentKeys (s : FileStore) (id : String) : List String :=
  [s.disk.keyOf (documentPath s.folder id), s.disk.keyOf (documentPath s.folder id ++ ".tmp")]

/-- What stands under a key is the same. -/
def SameUnder (key : String) (s s' : FileStore) : Prop :=
  s'.disk.nodes.get? key = s.disk.nodes.get? key

theorem sameUnder_of_sheltered {s' : FileStore} (h : s'.sheltered = s.sheltered) :
    SameUnder key s s' := by
  have same := congrArg (fun t : FileStore => t.disk.nodes.get? key) h
  exact same

/-- Writing a document, whether it succeeds or not, changes its file and the one beside it. -/
theorem writeDocument_sameUnder (d : Document) (s : FileStore)
    (h : isValidId d.id = true → key ∉ s.documentKeys d.id) :
    SameUnder key s (writeDocument d s).2 := by
  by_cases valid : isValidId d.id = true
  · obtain ⟨target, source⟩ : key ≠ s.disk.keyOf (documentPath s.folder d.id) ∧
        key ≠ s.disk.keyOf (documentPath s.folder d.id ++ ".tmp") := by
      simpa [documentKeys] using h valid
    rw [writeDocument_apply valid]
    cases written : (writeRecord (recordPath s.folder "documents" d.id) d.toJson s).1 with
    | ok u => exact (replaced_of_ok written).other key source target
    | error f =>
      rcases Disk.replace_leaves (endsIn_beside _) (recordPath s.folder "documents" d.id)
        (encode d.toJson.pretty) s.disk with ⟨u, done⟩ | leaves
      · rw [writeRecord_apply, done] at written
        cases written
      · exact leaves.outside key source
  · unfold writeDocument
    rw [if_neg valid]
    rfl

/-- The update of a document looks at the files, and leaves the id and the data of the document. -/
structure Gentle (update : Document → Action (FileStore × ω) (Document × β)) : Prop where
  looks : ∀ d, Keeps (fun x => x.1.sheltered) (update d)
  origin : ∀ d x d' b, (update d x).1 = .ok (d', b) → d.SameOrigin d'

variable {update : Document → Action (FileStore × ω) (Document × β)}

/-- Modifying a document changes the file of the document that is found and the one beside it. -/
theorem modifyDocument_sameUnder (gentle : Gentle update) (key id : String)
    (committed : Document → β → ω → ω) (s : FileStore) (w : ω)
    (h : ∀ d, (getDocument id s).1 = .ok (some d) → isValidId d.id = true →
      key ∉ s.documentKeys d.id) :
    SameUnder key s (Store.modifyDocumentThen id update committed (s, w)).2.1 := by
  rw [FileStore.joins.modifyDocumentThen, modifyThen, bind_apply, onFirst_apply]
  have looked : (getDocument id s).2.sheltered = s.sheltered := getDocument_sheltered id s
  rw [show (Store.getDocument id : Action FileStore _) s = getDocument id s from rfl]
  generalize getDocument id s = out at looked h
  obtain ⟨_ | _ | d, s₁⟩ := out
  · exact sameUnder_of_sheltered looked
  · exact sameUnder_of_sheltered looked
  dsimp only
  rw [bind_apply]
  have updates := gentle.looks d (s₁, w)
  have origin := gentle.origin d (s₁, w)
  generalize update d (s₁, w) = out at updates origin
  obtain ⟨_ | ⟨d', b⟩, s₂, w₂⟩ := out
  · exact sameUnder_of_sheltered (updates.trans looked)
  have same : s₂.sheltered = s.sheltered := updates.trans looked
  have own : d'.id = d.id := (origin d' b rfl).id
  have keys : s₂.documentKeys d'.id = s.documentKeys d.id := by
    have same := congrArg (fun t : FileStore => t.documentKeys d.id) same
    rw [own]
    exact same
  dsimp only
  rw [bind_apply, onFirst_apply]
  have written : SameUnder key s₂ (writeDocument d' s₂).2 := by
    refine writeDocument_sameUnder d' s₂ fun valid => ?_
    rw [keys]
    rw [own] at valid
    exact h d rfl valid
  generalize writeDocument d' s₂ = out at written
  have stays : SameUnder key s s₂ := sameUnder_of_sheltered same
  obtain ⟨_ | u, s₃⟩ := out <;> exact written.trans stays

/-- A document that is found was read from a text. -/
theorem getDocument_read (h : (getDocument id s).1 = .ok (some d)) :
    ∃ text, Document.schema.ofText text = .ok d := by
  by_cases valid : isValidId id = true
  · rw [getDocument_apply valid] at h
    obtain ⟨text, -, read⟩ := readRecord_found h
    exact ⟨_, read⟩
  · unfold getDocument at h
    rw [if_neg valid] at h
    cases h

/-- A document that was modified was found, and its text is in the place that it has by its id. -/
theorem modifyDocument_written (gentle : Gentle update) {committed : Document → β → ω → ω}
    {w : ω} {out : Except Failure (Document × β) × FileStore × ω}
    (h : Store.modifyDocumentThen id update committed (s, w) = out) {d' : Document} {b : β}
    (ok : out.1 = .ok (d', b)) :
    ∃ d, (getDocument id s).1 = .ok (some d) ∧ d.SameOrigin d' ∧
      out.2.1.text? "documents" d.id = some (encode d'.toJson.pretty) ∧
      (out.2.1.disk.Spared → d'.data.json.Whole →
        (getDocument d.id out.2.1).1 = .ok (some d')) ∧
      (isValidId id = true → d.id ≠ id →
        out.2.1.text? "documents" id = s.text? "documents" id) := by
  obtain ⟨_, s', w'⟩ := out
  obtain rfl := ok
  rw [FileStore.joins.modifyDocumentThen] at h
  obtain ⟨d, s₁, s₂, w₂, found, updated, written⟩ := modifyThen_ok h
  have found : getDocument id s = (.ok (some d), s₁) := found
  have first : s₁.sheltered = s.sheltered := by
    have kept := getDocument_sheltered id s
    rwa [found] at kept
  have second : s₂.sheltered = s₁.sheltered := by
    have kept := gentle.looks d (s₁, w)
    rwa [updated] at kept
  have origin : d.SameOrigin d' := gentle.origin d (s₁, w) d' b (congrArg Prod.fst updated)
  obtain ⟨valid, placed, -⟩ := writeDocument_ok written
  refine ⟨d, congrArg Prod.fst found, origin, origin.id ▸ placed, fun spared whole => ?_,
    fun valid' other => ?_⟩
  · obtain ⟨text, read⟩ := getDocument_read (congrArg Prod.fst found)
    have shallow := Document.depth_of_ofText read
    rw [← origin.data] at shallow
    have looked := looksUp_of_text valid spared placed whole
    unfold LooksUp at looked
    rwa [if_pos shallow, origin.id] at looked
  · rw [writeDocument_apply valid] at written
    have touched := writeRecord_touches isName_documents valid d'.toJson s₂
    rw [written] at touched
    refine (touched.other isName_documents valid' fun both => ?_).trans ?_
    · exact other (both.2.trans origin.id).symm
    · have same := congrArg (fun t : FileStore => t.text? "documents" id) (second.trans first)
      exact (text?_faults ..).symm.trans (same.trans (text?_faults ..))

end FileStore

namespace Engine

open FileStore

variable {σ α : Type}

/-- What firing an event does to the document that is found. -/
def firing [Store σ] (now : Instant) (event : String) (roles : RoleSet) (d : Document) :
    Operation σ (Document × Machine) := do
  let m ← machineOf (← getWorkflow d.workflowId)
  let d ← Action.ofExcept (d.fire m event roles now)
  return (d, m)

/-- Firing an event modifies a document. -/
theorem applyEvent_firing [Store σ] (now : Instant) (id event : String) (roles : RoleSet) :
    applyEvent now id event roles = reporting ((Store.modifyDocumentThen id
      (firing now event roles) (fun d m a => a.schedule m d) : Operation σ (Document × Machine)) >>=
        fun moved => pure moved.1) := rfl

/-- Its failures are noted beside the records. -/
theorem applyEvent_first [Store σ] {now : Instant} {id event : String} {roles : RoleSet}
    {x : σ × Ambient} {out : Except Failure (Document × Machine) × σ × Ambient}
    (h : Store.modifyDocumentThen id (firing now event roles) (fun d m a => a.schedule m d) x =
      out) :
    (applyEvent now id event roles x).1 = out.1.map Prod.fst ∧
      (applyEvent now id event roles x).2.1 = out.2.1 := by
  rw [applyEvent_firing, reporting_apply, bind_apply, h]
  obtain ⟨_ | ⟨d, m⟩, _, _⟩ := out <;> exact ⟨rfl, rfl⟩

theorem gentle_firing (now : Instant) (event : String) (roles : RoleSet) :
    Gentle (firing now event roles) where
  looks d := by
    unfold firing
    refine Keeps.bind ?_ fun w => (keeps_ofExcept _).bind fun m => ?_
    · unfold getWorkflow
      refine Keeps.bind ((getWorkflow_sheltered d.workflowId).onFirst.comp Prod.fst) fun found => ?_
      cases found with
      | none => exact keeps_throw _
      | some w => exact keeps_pure _
    · exact (keeps_ofExcept _).bind fun _ => keeps_pure _
  origin d x d' m h := by
    have run : firing now event roles d x = (.ok (d', m), (firing now event roles d x).2) :=
      Prod.ext h rfl
    obtain ⟨w, x₁, -, h⟩ := bind_apply_ok run
    obtain ⟨m', x₂, -, h⟩ := bind_apply_ok h
    obtain ⟨moved, x₃, fired, h⟩ := bind_apply_ok h
    cases h
    rw [ofExcept_apply] at fired
    exact Document.fire_sameOrigin (congrArg Prod.fst fired)

/-- Firing an event changes no file but that of the document that is found under the id and the one
beside it, whatever the files hold and whatever faults befall them. If it succeeds, the file has the
document that is returned, which is read back as long as its data has integers only; the id that
was asked for keeps its record if the document that is found has another id. -/
theorem fired_event_writes_found_record (now : Instant) (id event : String) (roles : RoleSet)
    (s : FileStore) (a : Ambient) :
    let out := applyEvent now id event roles (s, a)
    (∀ key, out.2.1.disk.nodes.get? key ≠ s.disk.nodes.get? key →
      ∃ d, (FileStore.getDocument id s).1 = .ok (some d) ∧ isValidId d.id = true ∧
        key ∈ s.documentKeys d.id) ∧
    ∀ d', out.1 = .ok d' →
      ∃ d, (FileStore.getDocument id s).1 = .ok (some d) ∧ d.SameOrigin d' ∧
        out.2.1.text? "documents" d.id = some (encode d'.toJson.pretty) ∧
        (out.2.1.disk.Spared → d'.data.json.Whole →
          (FileStore.getDocument d.id out.2.1).1 = .ok (some d')) ∧
        (isValidId id = true → d.id ≠ id →
          out.2.1.text? "documents" id = s.text? "documents" id) := by
  intro out
  have gentle := gentle_firing now event roles
  have changes (key : String) := modifyDocument_sameUnder gentle key id
    (fun d m (a : Ambient) => a.schedule m d) s a
  generalize modified : Store.modifyDocumentThen id (firing now event roles)
    (fun d m (a : Ambient) => a.schedule m d) (s, a) = all at changes
  obtain ⟨result, records⟩ := applyEvent_first modified
  rw [show out.1 = _ from result, show out.2.1 = _ from records]
  refine ⟨fun key changed => ?_, fun d' ok => ?_⟩
  · by_contra other
    push Not at other
    exact changed (changes key other)
  · obtain ⟨⟨d'', m⟩, done, rfl⟩ := map_eq_ok.1 ok
    exact modifyDocument_written gentle modified done

/-! ## A copied record -/

/-- The files have a workflow and a document of it, and the record of the document under another
name too. -/
structure Copied (w : Workflow) (d : Document) (name : String) (s : FileStore) : Prop where
  calm : s.disk.faults = []
  tidy : s.Tidy
  workflow : s.text? "workflows" w.id = some (encode w.toJson.pretty)
  record : s.text? "documents" d.id = some (encode d.toJson.pretty)
  copy : s.text? "documents" name = some (encode d.toJson.pretty)

/-- A record under some name that leads to a document leads the event to the document's file. -/
theorem applyEvent_texts {s : FileStore} {w : Workflow} {d d' : Document} {m : Machine}
    {id event : String} {roles : RoleSet} {now : Instant} (calm : s.disk.faults = [])
    (valid : isValidId id = true) (valid' : isValidId d.workflowId = true)
    (owner : isValidId d.id = true) (room : s.HasRoom "documents" d.id)
    (text : s.text? "documents" id = some (encode d.toJson.pretty))
    (whole : d.data.json.Whole) (shallow : d.data.json.depth < Json.depthLimit)
    (stored : s.text? "workflows" d.workflowId = some (encode w.toJson.pretty))
    (compiled : w.machine = .ok m) (moved : d.fire m event roles now = .ok d') (a : Ambient) :
    ∃ s', applyEvent now id event roles (s, a) = (.ok d', s', a.schedule m d') ∧
      Wrote "documents" d.id d'.toJson s s' := by
  have found : (Store.getDocument id : Action FileStore _) s = (.ok (some d), s) := by
    show FileStore.getDocument id s = _
    rw [FileStore.getDocument_apply valid]
    exact readRecord_some calm text (Document.ofText_pretty whole shallow)
  have workflow : (Store.getWorkflow d.workflowId : Action FileStore _) s = (.ok (some w), s) := by
    show FileStore.getWorkflow d.workflowId s = _
    rw [FileStore.getWorkflow_apply valid']
    exact readRecord_some calm stored w.ofText_pretty
  have own : d'.id = d.id := (Document.fire_sameOrigin moved).id
  obtain ⟨s', written, wrote⟩ := writeDocument_wrote calm (own ▸ owner) (own ▸ room)
  rw [own] at wrote
  have updated : firing now event roles d (s, a) = (.ok (d', m), s, a) := by
    have got : getWorkflow d.workflowId (s, a) = (.ok w, s, a) := by
      rw [getWorkflow, bind_apply, onFirst_apply, workflow]
      rfl
    rw [firing, bind_apply, got]
    dsimp only
    rw [bind_apply, machineOf_apply, compiled]
    dsimp only
    rw [bind_apply, ofExcept_apply, moved]
    rfl
  refine ⟨s', ?_, wrote⟩
  rw [applyEvent_firing, reporting_apply, bind_apply, FileStore.joins.modifyDocumentThen,
    modifyThen_of_ok found updated written]
  rfl

/-- A workflow that leads from its first state to its last. -/
def closing : Workflow where
  id := workflowId 1
  definition :=
    { name := "Close"
      states := [⟨"Open", true, false⟩, ⟨"Done", false, true⟩]
      transitions := [⟨"Open", "Done", "close", .empty⟩]
      deadlines := .empty
      reapproval := none }
  createdAt := .epoch

/-- A document of that workflow. -/
def closable : Document := { sample .null with id := documentId 1 }

/-- The document when it is closed. -/
def closed : Document := { closable with current := "Done" }

theorem exists_copied : ∃ s, Copied closing closable "copy" s := by
  have valid : isValidId (workflowId 1) = true ∧ isValidId (documentId 1) = true ∧
      isValidId "copy" = true := by decide +kernel
  have short : (workflowId 1).utf8ByteSize ≤ maxIdBytes ∧
      (documentId 1).utf8ByteSize ≤ maxIdBytes ∧ "copy".utf8ByteSize ≤ maxIdBytes := by
    decide +kernel
  obtain ⟨s₁, one, tidy₁, calm₁⟩ :=
    fresh_first.tidy.writes (by rfl) workflows_mem_kinds valid.1 short.1 closing.toJson
  obtain ⟨s₂, two, tidy₂, calm₂⟩ :=
    tidy₁.writes calm₁ documents_mem_kinds valid.2.1 short.2.1 closable.toJson
  obtain ⟨s₃, three, tidy₃, calm₃⟩ :=
    tidy₂.writes calm₂ documents_mem_kinds valid.2.2 short.2.2 closable.toJson
  refine ⟨s₃, calm₃, tidy₃, ?_, ?_, three.placed⟩
  · refine (three.other isName_workflows valid.1 fun both => absurd both.1 (by decide)).trans ?_
    refine (two.other isName_workflows valid.1 fun both => absurd both.1 (by decide)).trans ?_
    exact one.placed
  · refine (three.other isName_documents valid.2.1 fun both => ?_).trans two.placed
    exact absurd both.2 (by decide +kernel)

/-- Closing the document under either name closes the document in its own file. -/
theorem Copied.closes {s : FileStore} (h : Copied closing closable "copy" s) {id : String}
    (valid : isValidId id = true)
    (text : s.text? "documents" id = some (encode closable.toJson.pretty)) :
    ∃ s' a, applyEvent .epoch id "close" .empty (s, .start true) = (.ok closed, s', a) ∧
      Wrote "documents" (documentId 1) closed.toJson s s' := by
  obtain ⟨m, compiled, moved⟩ : ∃ m, closing.machine = .ok m ∧
      closable.fire m "close" .empty .epoch = .ok closed := ⟨_, rfl, rfl⟩
  have owner : isValidId closable.id = true := isValidId_documentId 1
  have room := h.tidy "documents" documents_mem_kinds (documentId 1) owner (by decide)
  obtain ⟨s', run, wrote⟩ := applyEvent_texts h.calm valid (isValidId_workflowId 1) owner room text
    trivial (by decide) h.workflow compiled moved (.start true)
  exact ⟨s', _, run, wrote⟩

/-- The file of the document has the document that is returned. -/
theorem closed_record_is_read :
    ∃ s : FileStore, s.disk.faults = [] ∧
      let out := applyEvent .epoch (documentId 1) "close" .empty (s, .start true)
      out.1 = .ok closed ∧
        (FileStore.getDocument (documentId 1) out.2.1).1 = .ok (some closed) := by
  obtain ⟨s, h⟩ := exists_copied
  obtain ⟨s', a, run, wrote⟩ := h.closes (isValidId_documentId 1) h.record
  obtain ⟨-, moves⟩ :=
    fired_event_writes_found_record .epoch (documentId 1) "close" .empty s (.start true)
  refine ⟨s, h.calm, congrArg Prod.fst run, ?_⟩
  obtain ⟨d, -, origin, -, reads, -⟩ := moves closed (congrArg Prod.fst run)
  have own : d.id = documentId 1 := origin.id.symm
  rw [own] at reads
  refine reads ?_ trivial
  rw [run]
  exact Disk.spared_of_calm (wrote.calm h.calm)

theorem closed_ne : closed ≠ closable := by
  intro same
  exact absurd (congrArg Document.current same) (by decide)

/-- The texts of the document differ, since each is read as what was written. -/
theorem text_closed_ne : encode closed.toJson.pretty ≠ encode closable.toJson.pretty := by
  intro same
  have read : Document.schema.ofText (Text.ofBytes (encode closed.toJson.pretty)) = .ok closed :=
    Document.ofText_pretty trivial (by decide)
  have read' : Document.schema.ofText (Text.ofBytes (encode closable.toJson.pretty)) =
      .ok closable := Document.ofText_pretty trivial (by decide)
  rw [same] at read
  exact closed_ne (Except.ok.inj (read.symm.trans read'))

/-- A record that was copied leads an event to the file that it was copied from: that file changes,
and the name that was asked for does not give the document that is returned. -/
theorem copied_record_is_moved_elsewhere :
    ∃ s : FileStore, s.disk.faults = [] ∧ isValidId "copy" = true ∧
      let out := applyEvent .epoch "copy" "close" .empty (s, .start true)
      out.1 = .ok closed ∧
      (∃ key, key ∉ s.documentKeys "copy" ∧
        out.2.1.disk.nodes.get? key ≠ s.disk.nodes.get? key) ∧
      (FileStore.getDocument "copy" out.2.1).1 ≠ .ok (some closed) := by
  have valid : isValidId "copy" = true := by decide +kernel
  have other : documentId 1 ≠ "copy" := by decide +kernel
  obtain ⟨s, h⟩ := exists_copied
  obtain ⟨s', a, run, wrote⟩ := h.closes valid h.copy
  refine ⟨s, h.calm, valid, ?_⟩
  rw [run]
  refine ⟨rfl, ⟨s.disk.keyOf (recordPath s.folder "documents" (documentId 1)), ?_, ?_⟩, ?_⟩
  · have target : s.disk.keyOf (recordPath s.folder "documents" (documentId 1)) ≠
        s.disk.keyOf (documentPath s.folder "copy") := fun same =>
      other (keyOf_recordPath_inj isName_documents isName_documents (isValidId_documentId 1) valid
        same).2
    have aside := (endsIn_recordPath s.folder "documents" (documentId 1)).keyOf_ne
      (endsIn_beside (documentPath s.folder "copy")) (by decide) s.disk
    simp [documentKeys, target, aside]
  · have before :
        s.disk.nodes.get? (s.disk.keyOf (recordPath s.folder "documents" (documentId 1))) =
          some (.file (encode closable.toJson.pretty)) :=
      (endsIn_recordPath ..).get?_keyOf (Disk.content?_eq_some.1 h.record)
    have after := (endsIn_recordPath ..).get?_keyOf (Disk.content?_eq_some.1 wrote.placed)
    rw [Disk.keyOf_eq wrote.folders.home, wrote.folder] at after
    show s'.disk.nodes.get? _ ≠ _
    rw [after, before]
    intro same
    exact text_closed_ne (Disk.Node.file.inj (Option.some.inj same))
  · have copy : s'.text? "documents" "copy" = some (encode closable.toJson.pretty) :=
      (wrote.other isName_documents valid fun both => other both.2.symm).trans h.copy
    show (FileStore.getDocument "copy" s').1 ≠ _
    rw [FileStore.getDocument_apply valid, readRecord_some (wrote.calm h.calm) copy
      (Document.ofText_pretty trivial (by decide))]
    intro same
    exact closed_ne (Option.some.inj (Except.ok.inj same)).symm

end Engine

end Signoff
