import Signoff.Proofs.Store.Keeping
import Signoff.Proofs.Store.Shelf

/-!
# What modifying a document comes to

Records in memory are kept in a table (`MemoryStore.keeping`), and records in files on a shelf of
texts, whatever the files hold and whatever faults befall them (`FileStore.keeping`).

* `modifying_has_one_contract`: modifying a document ends in the same ways for records in memory,
  for records in files, and in the general way over any store. A modification that fails changes
  nothing, and one that succeeds puts the document there, as far as the update and the commitment
  leave the store.
* `real_data_is_not_read_back`: a document in a file with a floating-point number is stored as it is
  returned, but need not be read as that.
-/

namespace Signoff

open Signoff.Action

variable {σ ω : Type}

/-! ## Records in tables -/

/-- Documents that stand in a table are kept as they are, and writing them succeeds. -/
def Store.Keeping.ofTable [Store σ] {write : String → Document → Action σ Unit}
    (documents : σ → Table String Document) (put : String → Document → σ → σ)
    (Untouched Alike : String → σ → σ → Prop)
    (looks : ∀ id s, Store.getDocument id s = (.ok ((documents s).get? id), s))
    (writes : ∀ id d s, write id d s = (.ok (), put id d s))
    (holds : ∀ {id d s}, d.id = id → (documents (put id d s)).get? id = some d)
    (still_untouched : ∀ id s, Untouched id s s)
    (untouched : ∀ {id s s'}, Untouched id s s' →
      (documents s').get? id = (documents s).get? id) :
    Store.Keeping σ write where
  Still := σ
  still := id
  Content := σ
  content := id
  Record := Option Document
  under id s := (documents s).get? id
  put := put
  Has r := ∃ d, r = some d
  Holds d r := r = some d
  Exact _ := True
  Fine _ _ := True
  Untouched := Untouched
  Alike := Alike
  sees h := h
  looks id s := congrArg Prod.snd (looks id s)
  looks_fine _ := trivial
  found {id s _} h := Except.ok.inj ((congrArg Prod.fst (looks id s)).symm.trans h)
  has h := ⟨_, h⟩
  gives {id s _} _ h := (congrArg Prod.fst (looks id s)).trans (congrArg Except.ok h)
  lacks {id s} _ h := (congrArg Prod.fst (looks id s)).trans
    (congrArg Except.ok (Option.eq_none_iff_forall_ne_some.2 fun d e => h ⟨d, e⟩))
  writes _ _ _ := congrArg Prod.fst (writes ..)
  written {id d s _} h := congrArg Prod.snd (h.symm.trans (writes id d s))
  unwritten {id d s _ _} h := nomatch h.symm.trans (writes id d s)
  written_fine _ _ := trivial
  holds _ own _ := holds own
  still_untouched := still_untouched
  untouched := untouched

/-- The document under the id is the same, and no document has come or gone. -/
def MemoryStore.SameAt (id : String) (m m' : MemoryStore) : Prop :=
  m'.documents.get? id = m.documents.get? id ∧ m'.documents.keys = m.documents.keys

/-- The records in memory are the same but for the document under the id. -/
def MemoryStore.SameBut (id : String) (m m' : MemoryStore) : Prop :=
  m' = { m with documents := m'.documents } ∧
    ∀ id' ≠ id, m'.documents.get? id' = m.documents.get? id'

/-- Records in memory have a table of documents. While a document is modified it is locked, for
lookups too, and so is the table for new documents. -/
def MemoryStore.keeping : Store.Keeping MemoryStore MemoryStore.writeDocument :=
  .ofTable documents (fun id d m => { m with documents := m.documents.insert id d }) SameAt SameBut
    (fun _ _ => rfl) (fun _ _ _ => rfl) (fun _ => Table.get?_insert_self ..)
    (fun _ _ => ⟨rfl, rfl⟩) And.left

/-- While a document in memory is modified, other documents may be looked up, but not this one. -/
theorem MemoryStore.notReentrant_lookup_iff [Inhabited ω] {id id' : String} :
    keeping.NotReentrant id
        ((Store.getDocument id').onFirst : Action (MemoryStore × ω) (Option Document)) ↔
      id' ≠ id where
  mp apart := by
    rintro rfl
    let d := FileStore.sample .null
    let m : MemoryStore := { empty with documents := Table.empty.insert id' d }
    have same : SameBut id' empty m :=
      ⟨rfl, fun _ other => Table.get?_insert_of_ne _ other _⟩
    have unaware : some d = none :=
      (Table.get?_insert_self ..).symm.trans (Except.ok.inj (apart.unaware default same).1).symm
    cases unaware
  mpr other :=
    { untouched := fun _ => ⟨rfl, rfl⟩
      unaware := fun _ same => ⟨congrArg Except.ok (same.2 id' other).symm, same, rfl⟩ }

theorem MemoryStore.updateDocument_checks (d : Document) :
    Store.updateDocument d = Store.Keeping.replaceBy writeDocument d := by
  funext m
  show MemoryStore.updateDocument d m = _
  have looked : (Store.getDocument d.id : Action MemoryStore _) m =
      (.ok (m.documents.get? d.id), m) := rfl
  rw [Store.Keeping.replaceBy, bind_apply, looked, updateDocument, bind_apply, get_apply]
  dsimp only
  rw [Table.contains]
  cases m.documents.get? d.id <;> rfl

/-- Records in memory that are replaced instead of written. -/
def MemoryStore.replacing : Store.Keeping MemoryStore fun _ => Store.updateDocument :=
  keeping.replacing updateDocument_checks

/-- Records in two maps have a table of documents. Nothing is locked. -/
def PlainStore.keeping : Store.Keeping PlainStore fun _ => Store.updateDocument :=
  .ofTable documents (fun _ d m => { m with documents := m.documents.insert d.id d })
    (fun id m m' => m'.documents.get? id = m.documents.get? id) (fun _ => Eq) (fun _ _ => rfl)
    (fun _ _ _ => rfl) (fun own => own ▸ Table.get?_insert_self ..) (fun _ _ => rfl) id

/-! ## Records in files -/

namespace FileStore

variable {s : FileStore} {d : Document} {id : String}

/-- No faults are scheduled, and there is room for the document with the id. -/
def FineFor (id : String) (s : FileStore) : Prop :=
  s.disk.faults = [] ∧ (isValidId id = true → s.HasRoom "documents" id)

theorem FineFor.looks (fine : s.FineFor id) : (getDocument id s).2.FineFor id := by
  rw [eq_of_leaves fine.1 (getDocument_leaves id s)]
  exact fine

theorem FineFor.writes (fine : s.FineFor id) (d : Document) : (writeDocument d s).2.FineFor id := by
  refine ⟨@Store.Preserves.write _ _ _ _ calm_preserves id d s fine.1, fun valid => ?_⟩
  by_cases valid' : isValidId d.id = true
  · rw [writeDocument_apply valid']
    exact (fine.2 valid).touches (writeRecord_touches isName_documents valid' d.toJson s)
  · rw [writeDocument_invalid valid']
    exact fine.2 valid

/-- There is a text, and it is read as the document. -/
def Reads (d : Document) (text? : Option Bytes) : Prop :=
  ∃ text, text? = some text ∧ Document.schema.ofText (.ofBytes text) = .ok d

theorem shelf_documents (valid : isValidId id = true) (s : FileStore) :
    s.shelf "documents" id = s.text? "documents" id := shelf_eq_text? documents_mem_kinds valid

theorem valid_of_shelf {text : Bytes} (h : s.shelf "documents" id = some text) :
    isValidId id = true := by
  unfold shelf at h
  split at h
  · rename_i both
    exact both.2
  · cases h

theorem reads_of_found (h : (getDocument id s).1 = .ok (some d)) :
    Reads d (s.shelf "documents" id) := by
  by_cases valid : isValidId id = true
  · rw [getDocument_apply valid] at h
    obtain ⟨text, there, read⟩ := readRecord_found h
    exact ⟨text, (shelf_documents valid s).trans there, read⟩
  · rw [getDocument, if_neg valid] at h
    cases h

theorem FineFor.gives (fine : s.FineFor id) (h : Reads d (s.shelf "documents" id)) :
    (getDocument id s).1 = .ok (some d) := by
  obtain ⟨text, there, read⟩ := h
  have valid := valid_of_shelf there
  rw [shelf_documents valid] at there
  rw [getDocument_apply valid, readRecord_some fine.1 there read]

theorem FineFor.lacks (fine : s.FineFor id) (h : s.shelf "documents" id = none) :
    (getDocument id s).1 = .ok none := by
  by_cases valid : isValidId id = true
  · rw [shelf_documents valid] at h
    rw [getDocument_apply valid, readRecord_none _ fine.1 (fine.2 valid).1 h]
  · rw [getDocument, if_neg valid]
    rfl

/-- Records in files are a shelf of texts; a document is put there under its own id. A document that
is modified is locked for writing only. -/
def keeping : Store.Keeping FileStore fun _ => writeDocument where
  Still := FileStore
  still := sheltered
  Content := Shelf
  content := shelf
  Record := Option Bytes
  under id shelf := shelf "documents" id
  put _ d shelf := shelf.file d
  Has text? := ∃ text, text? = some text
  Holds := Reads
  Exact d := Document.schema.ofText (.ofBytes (textOf d)) = .ok d
  Fine := FineFor
  Untouched id s s' := s'.shelf "documents" id = s.shelf "documents" id
  Alike _ := Eq
  sees := shelf_of_sheltered
  looks := getDocument_sheltered
  looks_fine fine := fine.looks
  found h := reads_of_found h
  has h := h.imp fun _ both => both.1
  gives fine h := fine.gives h
  lacks fine h := fine.lacks (Option.eq_none_iff_forall_ne_some.2 fun text e => h ⟨text, e⟩)
  writes {id s d old} fine held own := by
    subst own
    obtain ⟨text, there, -⟩ := held
    have valid := valid_of_shelf there
    obtain ⟨s', written, -⟩ := writeDocument_wrote fine.1 valid (fine.2 valid)
    rw [written]
  written := shelf_writeDocument
  unwritten := shelf_writeDocument_failed
  written_fine {id d s} _ fine := fine.writes d
  holds {id d shelf} _ own exact_ := ⟨textOf d, if_pos ⟨rfl, own.symm⟩, exact_⟩
  still_untouched _ _ := rfl
  untouched h := h

theorem updateDocument_checks (d : Document) :
    Store.updateDocument d = Store.Keeping.replaceBy (fun _ => writeDocument) d := rfl

/-- Records in files that are replaced instead of written. -/
def replacing : Store.Keeping FileStore fun _ => Store.updateDocument :=
  keeping.replacing updateDocument_checks

/-- There is room for short ids in a tidy store. -/
theorem Tidy.fineFor (tidy : s.Tidy) (calm : s.disk.faults = [])
    (short : id.utf8ByteSize ≤ maxIdBytes) : s.FineFor id :=
  ⟨calm, fun valid => tidy "documents" documents_mem_kinds id valid short⟩

end FileStore

/-- Modifying a document has one contract: for records in memory, for records in files whatever
they hold and whatever faults befall them, and in the general way for every store, so for one that
has no other and for records in memory and in files too. In files nothing stands in the way of a
short id where no faults are scheduled and the store is tidy, and a document is what it is read as
if its data has integers only and nests less deep than a text may. -/
theorem modifying_has_one_contract (ω β : Type) :
    MemoryStore.keeping.Contract ω β Store.modifyDocumentWith ∧
    FileStore.keeping.Contract ω β Store.modifyDocumentWith ∧
    PlainStore.keeping.Contract ω β Store.modifyDocumentWith ∧
    (∀ (σ : Type) [Store σ] (k : Store.Keeping σ fun _ => Store.updateDocument),
      k.Contract ω β (modifyWith Store.getDocument Store.updateDocument)) ∧
    MemoryStore.replacing.Contract ω β (modifyWith Store.getDocument Store.updateDocument) ∧
    FileStore.replacing.Contract ω β (modifyWith Store.getDocument Store.updateDocument) ∧
    (∀ id (s : FileStore), s.disk.faults = [] → s.Tidy → id.utf8ByteSize ≤ FileStore.maxIdBytes →
      FileStore.keeping.Fine id s) ∧
    ∀ d : Document, d.data.json.Whole → d.data.json.depth < Json.depthLimit →
      FileStore.keeping.Exact d :=
  ⟨MemoryStore.keeping.contract_of_modifiesWith MemoryStore.modifiesWith ω β,
    FileStore.keeping.contract_of_modifiesWith FileStore.modifiesWith ω β,
    PlainStore.keeping.contract_of_modifiesWith PlainStore.modifiesWith ω β,
    fun _ _ k => k.contract_modifyWith ω β,
    MemoryStore.replacing.contract_modifyWith ω β,
    FileStore.replacing.contract_modifyWith ω β,
    fun _ _ calm tidy short => tidy.fineFor calm short,
    fun _ whole shallow => Document.ofText_pretty whole shallow⟩

namespace FileStore

/-- A document whose data is some value. -/
def stored (data : Value) : Document := { sample data with id := documentId 1 }

/-- Gives a document some data. -/
def giving (data : Value) : Update FileStore ω Unit :=
  Action.onSecond (modify fun (d, w) => ({ d with data }, w))

/-- Gives a document some data, and then fails. -/
def spoiling (data : Value) (f : Failure) : Update FileStore ω Unit :=
  Action.onSecond (do
    modify fun (d, w) => ({ d with data }, w)
    throw f)

/-- Writes down the document that is committed, with what is found under an id by then. -/
def recording (id : String) (d : Document) :
    Commitment FileStore (List (Document × Except Failure (Option Document))) := fun (s, log) =>
  let (found, s) := getDocument id s
  ((), s, (d, found) :: log)

theorem leaves_recording (id : String) (d : Document) : keeping.Leaves (recording id d) :=
  fun x => getDocument_sheltered id x.1

theorem notReentrant_recording (id : String) (d : Document) :
    keeping.NotReentrant id (recording id d) where
  untouched x := congrArg (fun shelf : Shelf => shelf "documents" id)
    (shelf_of_sheltered (leaves_recording id d x))
  unaware _ same := by
    cases same
    exact ⟨rfl, rfl, rfl⟩

/-- There is a store that has a document without data, which can be given some. -/
theorem exists_stored : ∃ s : FileStore, s.disk.faults = [] ∧ s.Tidy ∧
    getDocument (documentId 1) s = (.ok (some (stored .null)), s) := by
  have valid : isValidId (documentId 1) = true := isValidId_documentId 1
  obtain ⟨s, wrote, tidy, calm⟩ :=
    fresh_first.tidy.writes (by rfl) documents_mem_kinds valid (by decide) (stored .null).toJson
  exact ⟨s, calm, tidy, getDocument_written (d := stored .null) calm valid wrote.placed trivial
    (by decide)⟩

/-- Giving a document data ends with the document stored, and the commitment has run on it after
that. -/
theorem giving_stores {s : FileStore} {w : ω} {data : Value}
    {committed : Document → Unit → Commitment FileStore ω}
    {out : Except Failure (Document × Unit) × FileStore × ω} (fine : s.FineFor (documentId 1))
    (found : getDocument (documentId 1) s = (.ok (some (stored .null)), s))
    (h : keeping.Outcome (documentId 1) (giving data) committed s w out) :
    out.1 = .ok (stored data, ()) ∧ ∃ s₃, s₃.FineFor (documentId 1) ∧
      s₃.shelf = s.shelf.file (stored data) ∧ out.2 = (committed (stored data) () (s₃, w)).2 ∧
      (keeping.Exact (stored data) →
        (getDocument (documentId 1) s₃).1 = .ok (some (stored data)) ∧
          (out.2.1.FineFor (documentId 1) →
            (getDocument (documentId 1) out.2.1).1 = .ok (some (stored data)))) := by
  cases h with
  | unread looked => cases looked.symm.trans found
  | unknown looked => cases looked.symm.trans found
  | refused _ _ _ ran => cases ran
  | unwritten looked _ _ ran _ _ faulty =>
    cases looked.symm.trans found
    cases ran
    exact absurd fine (faulty rfl)
  | stored looked _ _ ran wrote placed told _ back =>
    cases looked.symm.trans found
    cases ran
    have fine₃ := fine.writes (stored data)
    rw [show writeDocument (stored data) s = _ from wrote] at fine₃
    exact ⟨rfl, _, fine₃, placed, (congrArg Prod.snd told).symm,
      fun exact_ => back rfl exact_ fine⟩

/-- Spoiling a document fails, and the commitment has not run. -/
theorem spoiling_fails {s : FileStore} {w : ω} {data : Value} {f : Failure}
    {committed : Document → Unit → Commitment FileStore ω}
    {out : Except Failure (Document × Unit) × FileStore × ω}
    (found : getDocument (documentId 1) s = (.ok (some (stored .null)), s))
    (h : keeping.Outcome (documentId 1) (spoiling data f) committed s w out) :
    out.1 = .error f ∧ out.2.2 = w := by
  cases h with
  | unread looked => cases looked.symm.trans found
  | unknown looked => cases looked.symm.trans found
  | refused _ _ _ ran =>
    cases ran
    exact ⟨rfl, rfl⟩
  | unwritten _ _ _ ran => cases ran
  | stored _ _ _ ran => cases ran

theorem owned_of_found {s : FileStore}
    (found : getDocument (documentId 1) s = (.ok (some (stored .null)), s)) :
    Store.Owned (documentId 1) s := by
  intro d looked
  have looked : (getDocument (documentId 1) s).1 = .ok (some d) := looked
  rw [found] at looked
  cases looked
  rfl

/-- The value true. -/
def yes : Value := ⟨.bool true, trivial⟩

/-- A truth value is given to a document: it is stored, found by the commitment, and read back. If
the update fails after that, it is as if the document had not been given anything. -/
theorem truth_data_is_read_back :
    ∃ s : FileStore, s.disk.faults = [] ∧ s.Tidy ∧ Store.Owned (documentId 1) s ∧
      let modify := fun update => Store.modifyDocumentWith (documentId 1) update
        (fun d (_ : Unit) => recording (documentId 1) d) (s, [])
      let given := modify (giving yes)
      let spoilt := modify (spoiling yes (.terminalState (documentId 1) "Open"))
      (given.1 = .ok (stored yes, ()) ∧ given.2.2 = [(stored yes, .ok (some (stored yes)))] ∧
        (getDocument (documentId 1) given.2.1).1 = .ok (some (stored yes))) ∧
      spoilt.1 = .error (.terminalState (documentId 1) "Open") ∧
        spoilt.2.1.shelf = s.shelf ∧ spoilt.2.2 = [] := by
  obtain ⟨s, calm, tidy, found⟩ := exists_stored
  have own := owned_of_found found
  obtain ⟨-, files, -, -, -, -, fine, exact_⟩ :=
    modifying_has_one_contract (List (Document × Except Failure (Option Document))) Unit
  have records (d : Document) (_ : Unit) := notReentrant_recording (documentId 1) d
  have given := files (documentId 1) (giving yes) _ s [] (keeping.notReentrant_onSecond _ _) records
    (fun _ _ _ => rfl) own
  have spoilt (f : Failure) := files (documentId 1) (spoiling yes f) _ s []
    (keeping.notReentrant_onSecond _ _) records (fun _ _ ok => nomatch ok) own
  obtain ⟨result, s₃, fine₃, -, left_, back⟩ :=
    giving_stores (fine (documentId 1) s calm tidy (by decide)) found given.outcome
  obtain ⟨found₃, read⟩ := back (exact_ _ trivial (by decide))
  rw [left_] at read
  have log : (recording (documentId 1) (stored yes) (s₃, [])).2.2 =
      [(stored yes, (getDocument (documentId 1) s₃).1)] := rfl
  obtain ⟨refusal, none_⟩ := spoiling_fails found (spoilt (.terminalState _ _)).outcome
  refine ⟨s, calm, tidy, own, ⟨result, ?_, ?_⟩, refusal,
    (spoilt _).failed (keeping.leaves_onSecond _) _ refusal, none_⟩
  · rw [left_, log, found₃]
  · rw [left_]
    exact read fine₃.looks

/-- The floating-point number that a value is. -/
def real? (data : Value) : Option Double :=
  match data.json with
  | .number (.real x) => some x
  | _ => none

/-- The number `1.0000000000000001e-24`, which is read as the number before it, `1e-24`. -/
def missed : Double := ⟨false, ⟨943, by decide⟩, ⟨940918243364520, by decide⟩⟩

/-- The number as data. -/
def missedData : Value := ⟨.number (.real missed), trivial⟩

theorem not_exact_missed : ¬ keeping.Exact (stored missedData) := by
  intro exact_
  have text : Text.ofBytes (textOf (stored missedData)) =
      Text.ofChars (Json.renderPretty 0 (stored missedData).toJson) := by
    rw [textOf, Text.ofBytes_encode, Text.ofString, Json.pretty, String.toList_ofList]
  have read : (Document.schema.ofText (.ofChars (Json.renderPretty 0
      (stored missedData).toJson))).toOption.bind (fun d => real? d.data) ≠ some missed := by
    decide +kernel
  rw [← text, show Document.schema.ofText _ = _ from exact_] at read
  exact read rfl

/-- A floating-point number is given to a document, which is returned and committed with it; but
what is read afterwards has another number. -/
theorem real_data_is_not_read_back :
    ∃ s : FileStore, s.disk.faults = [] ∧ s.Tidy ∧ Store.Owned (documentId 1) s ∧
      missedData.json.depth < Json.depthLimit ∧
      let out := Store.modifyDocumentWith (documentId 1) (giving missedData)
        (fun d _ => .beside (d :: ·)) (s, [])
      out.1 = .ok (stored missedData, ()) ∧ out.2.2 = [stored missedData] ∧
        (getDocument (documentId 1) out.2.1).1 ≠ .ok (some (stored missedData)) := by
  obtain ⟨s, calm, tidy, found⟩ := exists_stored
  have own := owned_of_found found
  have given := keeping.contract_of_modifiesWith modifiesWith (List Document) Unit
    (documentId 1) (giving missedData) (fun d _ => .beside (d :: ·)) s []
    (keeping.notReentrant_onSecond _ _) (fun _ _ => keeping.notReentrant_beside _ _)
    (fun _ _ _ => rfl) own
  obtain ⟨result, s₃, -, placed, left_, -⟩ :=
    giving_stores (tidy.fineFor calm (by decide)) found given.outcome
  refine ⟨s, calm, tidy, own, by decide, result, congrArg Prod.snd left_, fun read => ?_⟩
  obtain ⟨text, there, read⟩ := reads_of_found read
  rw [left_, show (Commitment.beside _ (s₃, _)).2.1 = s₃ from rfl, placed] at there
  obtain rfl : textOf (stored missedData) = text := Option.some.inj there
  exact not_exact_missed read

end FileStore

end Signoff
