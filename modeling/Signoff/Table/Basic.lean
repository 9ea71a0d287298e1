/-!
# Tables

Finite maps kept as a list of entries with strictly increasing keys, so a table has one
representation.

- `ofList` builds a table from entries in any order; of two entries with one key the later wins.
-/

namespace Signoff

variable {κ α β : Type} [Ord κ]

/-! ## Lists of entries -/

/-- The keys increase strictly. -/
def Increasing (entries : List (κ × α)) : Prop :=
  entries.Pairwise fun x y => compare x.1 y.1 = .lt

/-- The value of the first entry with a key. -/
def findEntry (key : κ) : List (κ × α) → Option α
  | [] => none
  | (k, v) :: rest => if compare key k = .eq then some v else findEntry key rest

/-- Puts an entry at its place and drops the one that had its key. -/
def insertEntry (key : κ) (value : α) : List (κ × α) → List (κ × α)
  | [] => [(key, value)]
  | (k, v) :: rest =>
    match compare key k with
    | .lt => (key, value) :: (k, v) :: rest
    | .eq => (key, value) :: rest
    | .gt => (k, v) :: insertEntry key value rest

/-- Puts an entry at its place unless its key is taken. -/
def addEntry (key : κ) (value : α) : List (κ × α) → List (κ × α)
  | [] => [(key, value)]
  | (k, v) :: rest =>
    match compare key k with
    | .lt => (key, value) :: (k, v) :: rest
    | .eq => (k, v) :: rest
    | .gt => (k, v) :: addEntry key value rest

/-- Drops the entry with a key. -/
def eraseEntry (key : κ) : List (κ × α) → List (κ × α)
  | [] => []
  | (k, v) :: rest => if compare key k = .eq then rest else (k, v) :: eraseEntry key rest

/-- Puts every entry at its place; of two entries with one key the later stays. -/
def sortEntries (entries : List (κ × α)) : List (κ × α) :=
  entries.foldr (fun (k, v) rest => addEntry k v rest) []

theorem mem_insertEntry {key : κ} {value : α} {entries : List (κ × α)} {x : κ × α}
    (h : x ∈ insertEntry key value entries) : x = (key, value) ∨ x ∈ entries := by
  fun_induction insertEntry key value entries <;> grind

theorem mem_addEntry {key : κ} {value : α} {entries : List (κ × α)} {x : κ × α}
    (h : x ∈ addEntry key value entries) : x = (key, value) ∨ x ∈ entries := by
  fun_induction addEntry key value entries <;> grind

theorem eraseEntry_sublist (key : κ) (entries : List (κ × α)) :
    (eraseEntry key entries).Sublist entries := by
  fun_induction eraseEntry key entries with
  | case1 => exact .slnil
  | case2 => exact List.sublist_cons_self ..
  | case3 _ _ _ _ ih => exact ih.cons_cons _

variable [Std.TransOrd κ] [Std.LawfulEqOrd κ]

theorem Increasing.insertEntry {entries : List (κ × α)} (h : Increasing entries) (key : κ)
    (value : α) : Increasing (insertEntry key value entries) := by
  fun_induction Signoff.insertEntry key value entries with
  | case1 => exact List.pairwise_singleton ..
  | case2 k v rest hlt =>
    exact h.cons fun x hx => by
      rcases List.mem_cons.1 hx with rfl | hx
      · exact hlt
      · exact Std.TransCmp.lt_trans hlt (List.rel_of_pairwise_cons h hx)
  | case3 k v rest heq =>
    obtain rfl := Std.LawfulEqOrd.eq_of_compare heq
    exact h.of_cons.cons fun x hx => List.rel_of_pairwise_cons h hx
  | case4 k v rest hgt ih =>
    refine (ih h.of_cons).cons fun x hx => ?_
    rcases mem_insertEntry hx with rfl | hx
    · exact Std.OrientedCmp.gt_iff_lt.1 hgt
    · exact List.rel_of_pairwise_cons h hx

omit [Std.LawfulEqOrd κ] in
theorem Increasing.addEntry {entries : List (κ × α)} (h : Increasing entries) (key : κ)
    (value : α) : Increasing (addEntry key value entries) := by
  fun_induction Signoff.addEntry key value entries with
  | case1 => exact List.pairwise_singleton ..
  | case2 k v rest hlt =>
    exact h.cons fun x hx => by
      rcases List.mem_cons.1 hx with rfl | hx
      · exact hlt
      · exact Std.TransCmp.lt_trans hlt (List.rel_of_pairwise_cons h hx)
  | case3 k v rest heq => exact h
  | case4 k v rest hgt ih =>
    refine (ih h.of_cons).cons fun x hx => ?_
    rcases mem_addEntry hx with rfl | hx
    · exact Std.OrientedCmp.gt_iff_lt.1 hgt
    · exact List.rel_of_pairwise_cons h hx

omit [Std.LawfulEqOrd κ] in
theorem increasing_sortEntries (entries : List (κ × α)) : Increasing (sortEntries entries) := by
  induction entries with
  | nil => exact .nil
  | cons x rest ih => exact ih.addEntry _ _

/-! ## Tables -/

/-- A finite map from keys to values. -/
structure Table (κ α : Type) [Ord κ] where
  entries : List (κ × α)
  increasing : Increasing entries
deriving DecidableEq

namespace Table

/-- No entries. -/
def empty : Table κ α := ⟨[], .nil⟩

instance : EmptyCollection (Table κ α) := ⟨empty⟩
instance : Inhabited (Table κ α) := ⟨empty⟩

/-- The value under a key. -/
def get? (t : Table κ α) (key : κ) : Option α := findEntry key t.entries

/-- The key has an entry. -/
def contains (t : Table κ α) (key : κ) : Bool := (t.get? key).isSome

/-- The number of entries. -/
def size (t : Table κ α) : Nat := t.entries.length

/-- The table has no entry. -/
def isEmpty (t : Table κ α) : Bool := t.entries.isEmpty

/-- The keys, increasing. -/
def keys (t : Table κ α) : List κ := t.entries.map (·.1)

/-- The values, by increasing key. -/
def values (t : Table κ α) : List α := t.entries.map (·.2)

/-- Sets the value under a key. -/
def insert (t : Table κ α) (key : κ) (value : α) : Table κ α :=
  ⟨insertEntry key value t.entries, t.increasing.insertEntry key value⟩

omit [Std.TransOrd κ] [Std.LawfulEqOrd κ] in
/-- Drops the entry with a key. -/
def erase (t : Table κ α) (key : κ) : Table κ α :=
  ⟨eraseEntry key t.entries, t.increasing.sublist (eraseEntry_sublist ..)⟩

omit [Std.LawfulEqOrd κ] in
/-- The table of some entries; of two with one key the later wins. -/
def ofList (entries : List (κ × α)) : Table κ α :=
  ⟨sortEntries entries, increasing_sortEntries entries⟩

omit [Std.TransOrd κ] [Std.LawfulEqOrd κ] in
/-- Changes every value. -/
def map (f : α → β) (t : Table κ α) : Table κ β :=
  ⟨t.entries.map fun x => (x.1, f x.2), by
    unfold Increasing; exact List.pairwise_map.2 t.increasing⟩

end Table

end Signoff
