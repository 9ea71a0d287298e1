import Signoff.Proofs.Store.Archive
import Signoff.Proofs.Store.ReadBack

/-!
# The shelf of a file store

What a file store has is a shelf of texts, one for each kind and id that has a record
(`FileStore.shelf`). A record that is written is put on the shelf under its kind and id
(`shelf_written`), and one that is not leaves the shelf as it is (`shelf_unwritten`), whatever the
files hold and whatever faults befall them. Lookups take the faults of a store at most
(`FileStore.sheltered`), and so leave the shelf too.
-/

namespace Signoff

open Signoff.Action

namespace FileStore

variable {s s' : FileStore} {d : Document} {kind id : String} {j : Json} {f : Failure}

/-! ## Lookups -/

/-- The store without the faults that are scheduled for it. -/
def sheltered (s : FileStore) : FileStore := { s with disk := { s.disk with faults := [] } }

theorem getDocument_sheltered (id : String) : Keeps sheltered (getDocument id) := by
  intro s
  obtain ⟨faults, -, left_⟩ := getDocument_leaves id s
  rw [left_]
  rfl

theorem getWorkflow_sheltered (id : String) : Keeps sheltered (getWorkflow id) := by
  intro s
  obtain ⟨faults, -, left_⟩ := getWorkflow_leaves id s
  rw [left_]
  rfl

theorem text?_of_sheltered (h : s'.sheltered = s.sheltered) (kind id : String) :
    s'.text? kind id = s.text? kind id := by
  have same := congrArg (fun t : FileStore => t.text? kind id) h
  exact (text?_faults ..).symm.trans (same.trans (text?_faults ..))

/-! ## Texts by kind and id -/

/-- Texts by kinds and ids. -/
def Shelf : Type := String → String → Option Bytes

/-- The texts with one under a kind and an id. -/
def Shelf.put (shelf : Shelf) (kind id : String) (text : Bytes) : Shelf :=
  fun kind' id' => if kind' = kind ∧ id' = id then some text else shelf kind' id'

/-- The texts of the records that a store has. -/
def shelf (s : FileStore) : Shelf := fun kind id =>
  if kind ∈ kinds ∧ isValidId id = true then s.text? kind id else none

theorem shelf_eq_text? (hk : kind ∈ kinds) (valid : isValidId id = true) :
    s.shelf kind id = s.text? kind id := if_pos ⟨hk, valid⟩

theorem shelf_ext (h : ∀ kind ∈ kinds, ∀ id, isValidId id = true →
    s'.text? kind id = s.text? kind id) : s'.shelf = s.shelf := by
  funext kind id
  unfold shelf
  split
  · rename_i both
    exact h kind both.1 id both.2
  · rfl

theorem shelf_of_sheltered (h : s'.sheltered = s.sheltered) : s'.shelf = s.shelf :=
  shelf_ext fun kind _ id _ => text?_of_sheltered h kind id

theorem shelf_of_records (h : s'.records = s.records) : s'.shelf = s.shelf := by
  obtain ⟨-, workflow, document⟩ := records_inj h
  refine shelf_ext fun kind hk id _ => ?_
  simp only [kinds, List.mem_cons, List.not_mem_nil, or_false] at hk
  rcases hk with rfl | rfl
  · exact workflow id
  · exact document id

/-- A record that was written is on the shelf, next to what was there. -/
theorem shelf_written (hk : kind ∈ kinds) (valid : isValidId id = true)
    (h : writeRecord (recordPath s.folder kind id) j s = (.ok (), s')) :
    s'.shelf = s.shelf.put kind id (encode j.pretty) := by
  have placed := writeRecord_placed (congrArg Prod.fst h)
  have touches := writeRecord_touches (isName_kind kind hk) valid j s
  rw [h] at placed touches
  funext kind' id'
  unfold Shelf.put
  split
  · rename_i both
    obtain ⟨rfl, rfl⟩ := both
    rw [shelf_eq_text? hk valid, placed]
  · rename_i other
    unfold shelf
    split
    · rename_i record
      exact touches.other (isName_kind kind' record.1) record.2 other
    · rfl

/-- A record that was not written leaves the shelf as it is. -/
theorem shelf_unwritten {path : String} (h : writeRecord path j s = (.error f, s')) :
    s'.shelf = s.shelf := by
  have spared := writeRecord_spares path j s f (congrArg Prod.fst h)
  rw [h] at spared
  exact shelf_of_records spared

/-! ## Documents -/

/-- The text of a document. -/
def textOf (d : Document) : Bytes := encode d.toJson.pretty

/-- The texts with that of a document under its id. -/
def Shelf.file (shelf : Shelf) (d : Document) : Shelf := shelf.put "documents" d.id (textOf d)

theorem shelf_writeDocument (h : writeDocument d s = (.ok (), s')) : s'.shelf = s.shelf.file d := by
  have valid := (writeDocument_ok h).1
  rw [writeDocument_apply valid] at h
  exact shelf_written documents_mem_kinds valid h

theorem shelf_writeDocument_failed (h : writeDocument d s = (.error f, s')) :
    s'.shelf = s.shelf := by
  have spared := writeDocument_spares d s f (congrArg Prod.fst h)
  rw [h] at spared
  exact shelf_of_records spared

end FileStore

end Signoff
