import Signoff.Proofs.Store.Writing

/-!
# Documents that are read back

A document that a file store says it has stored is read back, by the store itself and by every store
that is opened on its folder later, if the data of the document leaves room for the object around
it. Data that nests as deep as a text may is stored too, and the file is found corrupt
(`stored_documents_are_read`).
-/

namespace Signoff

namespace FileStore

open Signoff.Disk

variable {s s' : FileStore} {d : Document}

/-- The id of a document gives the document, if its data nests less deep than a text may, and else
finds its file corrupt. -/
def LooksUp (s : FileStore) (d : Document) : Prop :=
  if d.data.json.depth < Json.depthLimit then (getDocument d.id s).1 = .ok (some d)
  else ∃ text, (getDocument d.id s).1 = .error (StorageError.corruption text).toFailure

/-- The store looks the document up, and so does every store that is opened on its folder. -/
def ReadsBack (s : FileStore) (d : Document) : Prop :=
  s.LooksUp d ∧ ∀ workflowIds documentIds ids s',
    (openAt s.disk s.folder workflowIds documentIds ids).1 = .ok s' → s'.LooksUp d

/-- A document whose text is there is looked up. -/
theorem looksUp_of_text (valid : isValidId d.id = true) (spared : s.disk.Spared)
    (h : s.text? "documents" d.id = some (encode d.toJson.pretty)) (whole : d.data.json.Whole) :
    s.LooksUp d := by
  unfold LooksUp
  rw [getDocument_apply valid, readRecord_text Document.schema spared h]
  split
  · rename_i shallow
    rw [Document.ofText_pretty whole shallow]
    rfl
  · rename_i deep
    obtain ⟨e, refused, -⟩ := Document.refuses_pretty whole (Nat.not_lt.1 deep)
    rw [refused]
    exact ⟨_, rfl⟩

/-- A store that is opened on the folder of another has its texts. -/
theorem text?_reopened {workflowIds documentIds : Nat} {ids : IdSource}
    (h : (openAt s.disk s.folder workflowIds documentIds ids).1 = .ok s') {kind id : String}
    {text : Bytes} (there : s.text? kind id = some text) : s'.text? kind id = some text := by
  obtain ⟨⟨folder, -, -⟩, grows, -, -⟩ := openAt_ok h
  rw [text?, folder]
  exact content?_eq_some.2 (grows.node? (content?_eq_some.1 there))

theorem readsBack_of_text (valid : isValidId d.id = true) (calm : s.disk.faults = [])
    (h : s.text? "documents" d.id = some (encode d.toJson.pretty)) (whole : d.data.json.Whole) :
    s.ReadsBack d := by
  refine ⟨looksUp_of_text valid (spared_of_calm calm) h whole, fun _ _ _ s' opened => ?_⟩
  exact looksUp_of_text valid (spared_of_calm ((openAt_ok opened).2.2.2 calm))
    (text?_reopened opened h) whole

/-- A document that was written has an id that is valid, and its text is there. -/
theorem writeDocument_ok (h : writeDocument d s = (.ok (), s')) :
    isValidId d.id = true ∧ s'.text? "documents" d.id = some (encode d.toJson.pretty) ∧
      (s.disk.faults = [] → s'.disk.faults = []) := by
  by_cases valid : isValidId d.id = true
  · rw [writeDocument_apply valid] at h
    have placed := writeRecord_placed (congrArg Prod.fst h)
    have calm := writeRecord_calm (s := s) (recordPath s.folder "documents" d.id) d.toJson
    rw [h] at placed calm
    exact ⟨valid, placed, calm⟩
  · unfold writeDocument at h
    rw [if_neg valid] at h
    cases h

theorem getDocument_calm (id : String) (calm : s.disk.faults = []) :
    (getDocument id s).2.disk.faults = [] := by
  obtain ⟨faults, taken, left_⟩ := getDocument_leaves id s
  rw [left_]
  rw [calm] at taken
  exact List.suffix_nil.1 taken

theorem createDocument_ok {id : String} (h : createDocument d s = (.ok id, s')) :
    ∃ s₁, writeDocument { d with id } s = (.ok (), s₁) ∧
      s' = { s₁ with documentIds := s₁.documentIds + 1 } := by
  unfold createDocument at h
  obtain ⟨_, _, got, h⟩ := Action.bind_apply_ok h
  cases got
  obtain ⟨u, s₁, written, h⟩ := Action.bind_apply_ok h
  obtain ⟨_, _, counted, h⟩ := Action.bind_apply_ok h
  cases counted
  cases h
  exact ⟨s₁, written, rfl⟩

theorem updateDocument_ok (h : updateDocument d s = (.ok (), s')) :
    writeDocument d (getDocument d.id s).2 = (.ok (), s') := by
  unfold updateDocument at h
  obtain ⟨found, s₁, got, h⟩ := Action.bind_apply_ok h
  rw [got]
  cases found with
  | none => cases h
  | some old => exact h

/-- Whatever a store without faults says it has stored is read back if its data nests less deep than
a text may, and found corrupt if it does not, whether it was created, replaced or modified. -/
theorem stored_documents_are_read {ω β : Type} (s : FileStore) (calm : s.disk.faults = []) (w : ω) :
    (∀ (d : Document) (committed : Document → ω → ω) id s' w', d.data.json.Whole →
      Store.createDocumentThen d committed (s, w) = (.ok id, s', w') →
        s'.ReadsBack { d with id }) ∧
    (∀ (d : Document) s', d.data.json.Whole → Store.updateDocument d s = (.ok (), s') →
      s'.ReadsBack d) ∧
    ∀ (id : String) (update : Document → Action (FileStore × ω) (Document × β))
      (committed : Document → β → ω → ω) d b s' w',
      (∀ d x, x.1.disk.faults = [] → (update d x).2.1.disk.faults = []) → d.data.json.Whole →
      Store.modifyDocumentThen id update committed (s, w) = (.ok (d, b), s', w') →
        s'.ReadsBack d := by
  refine ⟨fun d committed id s' w' whole h => ?_, fun d s' whole h => ?_,
    fun id update committed d b s' w' stays whole h => ?_⟩
  · rw [FileStore.joins.createDocumentThen] at h
    obtain ⟨s₁, written, rfl⟩ := createDocument_ok (createThen_ok h)
    obtain ⟨valid, placed, still⟩ := writeDocument_ok written
    exact readsBack_of_text valid (still calm) placed whole
  · obtain ⟨valid, placed, still⟩ := writeDocument_ok (updateDocument_ok h)
    exact readsBack_of_text valid (still (getDocument_calm d.id calm)) placed whole
  · rw [FileStore.joins.modifyDocumentThen] at h
    obtain ⟨old, s₁, s₂, w₂, found, updated, written⟩ := modifyThen_ok h
    have calm₁ := getDocument_calm id calm
    rw [show getDocument id s = _ from found] at calm₁
    have calm₂ := stays old (s₁, w) calm₁
    rw [updated] at calm₂
    obtain ⟨valid, placed, still⟩ := writeDocument_ok written
    exact readsBack_of_text valid (still calm₂) placed whole

/-! ## How deep data may nest -/

/-- Lists that stand inside one another. -/
def nested : Nat → Json
  | 0 => .array []
  | n + 1 => .array [nested n]

theorem nested_shape (n : Nat) :
    (nested n).Canonical ∧ (nested n).Whole ∧ (nested n).depth = n + 1 := by
  induction n with
  | zero => exact ⟨trivial, trivial, rfl⟩
  | succ n ih =>
    obtain ⟨canonical, whole, depth⟩ := ih
    refine ⟨⟨canonical, trivial⟩, ⟨whole, trivial⟩, ?_⟩
    rw [nested, Json.depth, Json.depthItems, Json.depthItems, depth]
    omega

/-- An object with a truth value and with lists that stand inside one another. -/
def boxed (n : Nat) : Json := .object [("flag", .bool true), ("parts", nested n)]

theorem boxed_shape (n : Nat) :
    (boxed n).Canonical ∧ (boxed n).Whole ∧ (boxed n).depth = n + 2 := by
  obtain ⟨canonical, whole, depth⟩ := nested_shape n
  refine ⟨⟨?_, trivial, canonical, trivial⟩, ⟨trivial, whole, trivial⟩, ?_⟩
  · have order : compare "flag" "parts" = .lt := by decide
    simp [Increasing, order]
  · simp [boxed, Json.depth, Json.depthMembers, depth]

/-- An object that nests as deep as data may. -/
def boxes : Value := ⟨boxed 124, (boxed_shape 124).1⟩

/-- A document with some data, which is open and was just made. -/
def sample (data : Value) : Document := .create (workflowId 1) "Open" data .epoch

/-- Without faults a document that was written is found. -/
theorem getDocument_written (calm : s.disk.faults = []) (valid : isValidId d.id = true)
    (h : s.text? "documents" d.id = some (encode d.toJson.pretty)) (whole : d.data.json.Whole)
    (shallow : d.data.json.depth < Json.depthLimit) :
    getDocument d.id s = (.ok (some d), s) := by
  rw [getDocument_apply valid]
  exact readRecord_some calm h (Document.ofText_pretty whole shallow)

/-- A document whose data nests as deep as it may is created, and then replaced or modified, and
read back each time. -/
theorem sample_is_read :
    let d := { sample boxes with id := documentId 1 }
    let d' := { d with current := "Done" }
    first.disk.faults = [] ∧ boxes.json.Whole ∧ boxes.json.depth + 1 = Json.depthLimit ∧
      ∃ s₁ s₂ s₃,
      (Store.createDocumentThen (sample boxes) (fun _ u => u) (first, ()) =
        (.ok (documentId 1), s₁, ()) ∧ s₁.ReadsBack d) ∧
      (Store.updateDocument d' s₁ = (.ok (), s₂) ∧ s₂.ReadsBack d') ∧
      (Store.modifyDocumentThen d.id (fun d => pure ({ d with current := "Done" }, ()))
        (fun _ _ u => u) (s₁, ()) = (.ok (d', ()), s₃, ()) ∧ s₃.ReadsBack d') := by
  intro d d'
  obtain ⟨-, whole, depth⟩ : (boxed 124).Canonical ∧ boxes.json.Whole ∧ boxes.json.depth = 126 :=
    boxed_shape 124
  have shallow : d.data.json.depth < Json.depthLimit := by
    rw [show d.data.json.depth = 126 from depth]
    decide
  have valid : isValidId d.id = true := isValidId_documentId 1
  have room := fresh_first.tidy "documents" documents_mem_kinds (documentId 1) valid (by decide)
  obtain ⟨s₀, created, wrote⟩ := createDocument_wrote (sample boxes) (by rfl) room
  have calm : s₀.disk.faults = [] := wrote.calm rfl
  let s₁ : FileStore := { s₀ with documentIds := 1 }
  have room₀ : s₀.HasRoom "documents" d.id := room.touches wrote.toTouches
  have room₁ : s₁.HasRoom "documents" d.id := room₀
  have found : getDocument d.id s₁ = (.ok (some d), s₁) :=
    getDocument_written (s := s₁) calm valid wrote.placed whole shallow
  obtain ⟨s₂, written, -⟩ := writeDocument_wrote (d := d') (s := s₁) calm valid room₁
  have first_ : Store.createDocumentThen (sample boxes) (fun _ u => u) (first, ()) =
      (.ok (documentId 1), s₁, ()) := by
    rw [FileStore.joins.createDocumentThen]
    exact createThen_of_ok created ..
  have second : Store.updateDocument d' s₁ = (.ok (), s₂) := by
    show updateDocument d' s₁ = _
    rw [updateDocument, Action.bind_apply, found]
    exact written
  have third : Store.modifyDocumentThen d.id (fun d => pure ({ d with current := "Done" }, ()))
      (fun _ _ u => u) (s₁, ()) = (.ok (d', ()), s₂, ()) := by
    rw [FileStore.joins.modifyDocumentThen]
    exact modifyThen_of_ok found rfl written _
  obtain ⟨creates, -, -⟩ := stored_documents_are_read first (by rfl) () (β := Unit)
  obtain ⟨-, updates, modifies⟩ := stored_documents_are_read s₁ calm () (β := Unit)
  exact ⟨by rfl, whole, by rw [depth]; rfl, s₁, s₂, s₂, ⟨first_, creates _ _ _ _ _ whole first_⟩,
    ⟨second, updates d' s₂ whole second⟩,
    third, modifies _ _ _ _ _ _ _ (fun _ _ calm => calm) whole third⟩

/-- Data that nests as deep as a text may is read from its text and stored, and not read back. -/
theorem deepest_data_is_not_read :
    ∃ (data : Value) (s' : FileStore), data.json.Whole ∧
      Json.Schema.value.ofText (.ofString data.json.pretty) = .ok data ∧
      first.disk.faults = [] ∧
      Store.createDocumentThen (sample data) (fun _ u => u) (first, ()) =
        (.ok (documentId 1), s', ()) ∧
      (getDocument (documentId 1) s').1 ≠ .ok (some { sample data with id := documentId 1 }) := by
  obtain ⟨data, whole, depth⟩ : ∃ data : Value, data.json.Whole ∧ data.json.depth = 127 := by
    obtain ⟨canonical, whole, depth⟩ := nested_shape 126
    exact ⟨⟨nested 126, canonical⟩, whole, depth⟩
  let d : Document := { sample data with id := documentId 1 }
  have valid : isValidId d.id = true := isValidId_documentId 1
  have room := fresh_first.tidy "documents" documents_mem_kinds (documentId 1) valid (by decide)
  obtain ⟨s₀, created, wrote⟩ := createDocument_wrote (sample data) (by rfl) room
  have calm : s₀.disk.faults = [] := wrote.calm rfl
  have corrupt : LooksUp { s₀ with documentIds := 1 } d :=
    looksUp_of_text (s := { s₀ with documentIds := 1 }) valid (spared_of_calm calm)
      wrote.placed whole
  refine ⟨data, { s₀ with documentIds := 1 }, whole, ?_, by rfl, ?_, ?_⟩
  · rw [← Text.ofBytes_encode]
    have decoded : Json.Schema.value.decode .given data.json = .ok data := by
      show Except.ok (Value.ofJson data.json) = _
      rw [Value.ofJson_json]
    exact Json.Schema.ofText_pretty _ decoded whole (Nat.le_of_eq depth)
  · rw [FileStore.joins.createDocumentThen]
    exact createThen_of_ok created ..
  · unfold LooksUp at corrupt
    rw [if_neg (by rw [show d.data.json.depth = 127 from depth]; decide)] at corrupt
    obtain ⟨text, refused⟩ := corrupt
    intro found
    have both := refused.symm.trans found
    cases both

end FileStore

end Signoff
