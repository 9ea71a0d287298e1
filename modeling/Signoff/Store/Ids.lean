import Signoff.Instant.Printer
/-!
# Ids of records

A store takes the ids of new records from a source (`IdSource`), which has one with every number for
each kind of record. No two of them are the same, and all of them can become file names.

`IdSource.numbering` is the source whose ids show their numbers.
-/

namespace Signoff

/-- The character may stand in a file name. -/
def FileStore.isIdChar (c : Char) : Bool := c.isAlphanum || c == '-' || c == '_'

/-- The id can become a file name. -/
def FileStore.isValidId (id : String) : Bool := !id.isEmpty && id.toList.all isIdChar

/-- A source of new ids. Nothing is asked about their length, since only so many are short. -/
structure IdSource where
  /-- The id of the workflow with a number. -/
  workflowId : Nat → String
  /-- The id of the document with a number. -/
  documentId : Nat → String
  workflowId_inj : ∀ {m n}, workflowId m = workflowId n → m = n
  documentId_inj : ∀ {m n}, documentId m = documentId n → m = n
  workflowId_valid : ∀ n, FileStore.isValidId (workflowId n) = true
  documentId_valid : ∀ n, FileStore.isValidId (documentId n) = true

/-! ## Numbering -/

/-- What stands before the number in the ids of a kind. -/
def idStem (kind : String) : String := kind ++ "-00000000-0000-0000-0000-"

/-- The id with a number, after the name of its kind. -/
def numberedId (kind : String) (n : Nat) : String :=
  idStem kind ++ String.ofList (Instant.padded 12 n)

/-- The id of the workflow with a number. -/
def workflowId (n : Nat) : String := numberedId "wf" n

/-- The id of the document with a number. -/
def documentId (n : Nat) : String := numberedId "doc" n

/-- The number in the id of a kind with which a text begins, or zero if there is none. -/
def numberIn (kind text : String) : Nat :=
  let stem := (idStem kind).toList
  if stem.isPrefixOf text.toList then
    ((text.toList.drop stem.length).takeWhile Char.isDigit).foldl
      (fun n c => 10 * n + (c.toNat - '0'.toNat)) 0
  else 0

/-- The greatest number in the ids of a kind with which texts begin. -/
def lastNumber (kind : String) (texts : List String) : Nat :=
  (texts.map (numberIn kind)).foldl max 0

theorem numberedId_inj {kind : String} {m n : Nat} (h : numberedId kind m = numberedId kind n) :
    m = n := by
  have hl := congrArg String.toList h
  simp only [numberedId, String.toList_append, String.toList_ofList] at hl
  exact Instant.padded_inj (List.append_cancel_left hl)

theorem isValidId_numberedId {kind : String}
    (h : (idStem kind).toList.all FileStore.isIdChar = true) (n : Nat) :
    FileStore.isValidId (numberedId kind n) = true := by
  rw [FileStore.isValidId, Bool.and_eq_true, List.all_eq_true]
  constructor
  · have digits : Nat.toDigits 10 n ≠ [] := Nat.toDigits_ne_nil
    simp [numberedId, Instant.padded, digits]
  · intro c hc
    rw [numberedId, String.toList_append, String.toList_ofList, List.mem_append] at hc
    rcases hc with hc | hc
    · exact List.all_eq_true.1 h c hc
    · have digit := Instant.isDigit_padded _ _ c hc
      simp [FileStore.isIdChar, Char.isAlphanum, digit]

theorem FileStore.isValidId_workflowId (n : Nat) : isValidId (workflowId n) = true :=
  isValidId_numberedId (by decide) n

theorem FileStore.isValidId_documentId (n : Nat) : isValidId (documentId n) = true :=
  isValidId_numberedId (by decide) n

/-- The ids that show their numbers. -/
def IdSource.numbering : IdSource where
  workflowId := Signoff.workflowId
  documentId := Signoff.documentId
  workflowId_inj := numberedId_inj
  documentId_inj := numberedId_inj
  workflowId_valid := FileStore.isValidId_workflowId
  documentId_valid := FileStore.isValidId_documentId

end Signoff
