import Signoff.Table.Lemmas

/-!
# The entries of a table in their order

Increasing lists with the same entries are equal (`increasing_ext_mem`), and sorting keys that
differ makes them increase strictly (`pairwise_lt_mergeSort`). Entries that increase already stay as
they are when they are sorted (`sortEntries_eq_self`). It does not matter whether entries are picked
by their keys before they are sorted or after (`filter_sortEntries`), nor whether values are changed
before they are put into a table or after (`Table.map_insert`), nor which of two keys is put into a
table first (`Table.insert_comm`), nor in which order the entries of a table stand before it is made
of them (`Table.ofList_of_perm`).
-/

namespace Signoff

/-- What is left after the entries at the front that have a property, where those that have it all
stand at the front. -/
theorem dropWhile_eq_filter {α : Type} {p : α → Bool} {xs : List α}
    (h : xs.Pairwise fun x y => p y = true → p x = true) :
    xs.dropWhile p = xs.filter fun x => !p x := by
  induction xs with
  | nil => rfl
  | cons x xs ih =>
    rw [List.pairwise_cons] at h
    cases hx : p x with
    | true => rw [List.dropWhile_cons_of_pos hx, ih h.2, List.filter_cons_of_neg (by simp [hx])]
    | false =>
      have none_after : xs.filter (fun y => !p y) = xs := by
        refine List.filter_eq_self.2 fun y hy => ?_
        cases hp : p y with
        | false => rfl
        | true => rw [h.1 y hy hp] at hx; cases hx
      rw [List.dropWhile_cons_of_neg (by simp [hx]), List.filter_cons_of_pos (by simp [hx]),
        none_after]

/-- The entries at the front that have a property, where those that have it all stand at the
front. -/
theorem takeWhile_eq_filter {α : Type} {p : α → Bool} {xs : List α}
    (h : xs.Pairwise fun x y => p y = true → p x = true) : xs.takeWhile p = xs.filter p := by
  induction xs with
  | nil => rfl
  | cons x xs ih =>
    rw [List.pairwise_cons] at h
    cases hx : p x with
    | true => rw [List.takeWhile_cons_of_pos hx, ih h.2, List.filter_cons_of_pos hx]
    | false =>
      have none_after : xs.filter p = [] :=
        List.filter_eq_nil_iff.2 fun y hy hp => by simp [h.1 y hy hp] at hx
      rw [List.takeWhile_cons_of_neg (by simp [hx]), List.filter_cons_of_neg (by simp [hx]),
        none_after]

variable {κ α β : Type} [Ord κ]

theorem findEntry_map (f : α → β) (key : κ) (entries : List (κ × α)) :
    findEntry key (entries.map fun x => (x.1, f x.2)) = (findEntry key entries).map f := by
  induction entries with
  | nil => rfl
  | cons x rest ih =>
    simp only [List.map_cons, findEntry]
    split
    · rfl
    · exact ih

/-- Entries that increase already stay as they are when they are sorted. -/
theorem sortEntries_eq_self {entries : List (κ × α)} (h : Increasing entries) :
    sortEntries entries = entries := by
  induction entries with
  | nil => rfl
  | cons x rest ih =>
    obtain ⟨key, value⟩ := x
    show addEntry key value (sortEntries rest) = _
    rw [ih h.of_cons]
    cases rest with
    | nil => rfl
    | cons y rest =>
      have lt : compare key y.1 = .lt := List.rel_of_pairwise_cons h List.mem_cons_self
      rw [addEntry, lt]

/-- An entry with a new key goes to its place among the others. -/
theorem perm_addEntry {key : κ} {value : α} {entries : List (κ × α)}
    (fresh : ∀ x ∈ entries, compare key x.1 ≠ .eq) :
    (addEntry key value entries).Perm ((key, value) :: entries) := by
  fun_induction addEntry key value entries with
  | case1 => exact .refl _
  | case2 => exact .refl _
  | case3 k v rest same => exact absurd same (fresh _ List.mem_cons_self)
  | case4 k v rest _ ih =>
    exact ((ih fun x hx => fresh x (List.mem_cons_of_mem _ hx)).cons _).trans (.swap ..)

variable [Std.TransOrd κ] [Std.LawfulEqOrd κ]

theorem increasing_ext_mem {xs ys : List (κ × α)} (hx : Increasing xs) (hy : Increasing ys)
    (h : ∀ key value, (key, value) ∈ xs ↔ (key, value) ∈ ys) : xs = ys := by
  refine increasing_ext hx hy fun key => Option.ext fun value => ?_
  constructor
  · intro found
    exact findEntry_of_mem hy ((h key value).1 (mem_of_findEntry found))
  · intro found
    exact findEntry_of_mem hx ((h key value).2 (mem_of_findEntry found))

omit [Std.TransOrd κ] in
/-- Entries whose keys differ are put in order, and none is dropped. -/
theorem perm_sortEntries {entries : List (κ × α)} (nodup : (entries.map (·.1)).Nodup) :
    (sortEntries entries).Perm entries := by
  induction entries with
  | nil => exact .refl _
  | cons x rest ih =>
    obtain ⟨fresh, nodup⟩ := List.nodup_cons.1 nodup
    have sorted := ih nodup
    refine (perm_addEntry fun y hy same => fresh ?_).trans (sorted.cons x)
    exact List.mem_map.2 ⟨y, sorted.subset hy, (Std.LawfulEqOrd.eq_of_compare same).symm⟩

omit [Std.TransOrd κ] in
theorem findEntry_filter (p : κ → Bool) (key : κ) (entries : List (κ × α)) :
    findEntry key (entries.filter fun x => p x.1) =
      if p key then findEntry key entries else none := by
  induction entries with
  | nil => simp [findEntry]
  | cons x rest ih =>
    obtain ⟨k, v⟩ := x
    rw [List.filter_cons]
    by_cases same : compare key k = .eq
    · obtain rfl := Std.LawfulEqOrd.eq_of_compare same
      split
      · simp [findEntry]
      · rename_i dropped
        rw [ih, if_neg dropped]
    · have other : findEntry key ((k, v) :: rest) = findEntry key rest := by
        rw [findEntry, if_neg same]
      rw [other, ← ih]
      split
      · rw [findEntry, if_neg same]
      · rfl

/-- Entries may be picked by their keys before they are sorted or after. -/
theorem filter_sortEntries (p : κ → Bool) (entries : List (κ × α)) :
    (sortEntries entries).filter (fun x => p x.1) =
      sortEntries (entries.filter fun x => p x.1) := by
  refine increasing_ext ((increasing_sortEntries entries).filter _) (increasing_sortEntries _)
    fun key => ?_
  have sorted (entries : List (κ × α)) :
      findEntry key (sortEntries entries) = findEntry key entries.reverse := Table.get?_ofList ..
  rw [findEntry_filter, sorted, sorted, ← List.filter_reverse, findEntry_filter]

/-- Keys that differ increase strictly once they are sorted. -/
theorem pairwise_lt_mergeSort {keys : List κ} (h : keys.Nodup) :
    (keys.mergeSort fun a b => (compare a b).isLE).Pairwise fun a b => compare a b = .lt := by
  have total (a b : κ) : ((compare a b).isLE || (compare b a).isLE) = true := by
    have swap : compare b a = (compare a b).swap := Std.OrientedOrd.eq_swap
    rw [swap]
    cases compare a b <;> rfl
  have sorted := List.pairwise_mergeSort (fun _ _ _ => Std.TransCmp.isLE_trans) total keys
  have differ := (List.mergeSort_perm keys fun a b => (compare a b).isLE).nodup_iff.2 h
  refine (sorted.and differ).imp fun {a b} ⟨le, ne⟩ => ?_
  cases hc : compare a b with
  | lt => rfl
  | eq => exact absurd (Std.LawfulEqOrd.eq_of_compare hc) ne
  | gt => rw [hc] at le; cases le

namespace Table

variable {t : Table κ α}

omit [Std.TransOrd κ] [Std.LawfulEqOrd κ] in
theorem get?_map (f : α → β) (t : Table κ α) (key : κ) :
    (t.map f).get? key = (t.get? key).map f :=
  findEntry_map f key t.entries

theorem map_insert (f : α → β) (t : Table κ α) (key : κ) (value : α) :
    (t.insert key value).map f = (t.map f).insert key (f value) := by
  refine ext_get? fun k => ?_
  rw [get?_map, get?_insert, get?_insert, get?_map]
  split <;> rfl

/-- A table with one more entry, looked up where keys can be told apart. -/
theorem get?_insert_eq_ite [DecidableEq κ] (t : Table κ α) (key key' : κ) (value : α) :
    (t.insert key value).get? key' = if key' = key then some value else t.get? key' := by
  simp only [get?_insert, Std.LawfulEqOrd.compare_eq_iff_eq]

/-- What is inserted last stands. -/
theorem insert_insert (t : Table κ α) (key : κ) (value value' : α) :
    (t.insert key value).insert key value' = t.insert key value' := by
  refine ext_get? fun k => ?_
  simp only [get?_insert]
  split <;> rfl

theorem insert_comm (t : Table κ α) {key key' : κ} (h : key ≠ key') (value value' : α) :
    (t.insert key value).insert key' value' = (t.insert key' value').insert key value := by
  refine ext_get? fun k => ?_
  by_cases hk : k = key
  · rw [hk, get?_insert_self, get?_insert_of_ne _ h, get?_insert_self]
  · by_cases hk' : k = key'
    · rw [hk', get?_insert_self, get?_insert_of_ne _ h.symm, get?_insert_self]
    · rw [get?_insert_of_ne _ hk', get?_insert_of_ne _ hk, get?_insert_of_ne _ hk,
        get?_insert_of_ne _ hk']

omit [Std.LawfulEqOrd κ] in
theorem keys_nodup (t : Table κ α) : t.keys.Nodup := by
  refine List.pairwise_map.2 (t.increasing.imp fun {x y} lt eq => ?_)
  rw [eq, Std.ReflOrd.compare_self] at lt
  cases lt

omit [Std.TransOrd κ] [Std.LawfulEqOrd κ] in
theorem eq_empty_of_isEmpty (h : t.isEmpty = true) : t = empty := by
  obtain ⟨entries, increasing⟩ := t
  obtain rfl : entries = [] := List.isEmpty_iff.1 h
  rfl

/-- The entries of a table make the table, in whatever order they stand. -/
theorem ofList_of_perm {entries : List (κ × α)} (h : entries.Perm t.entries) :
    ofList entries = t := by
  have nodup : (entries.map (·.1)).Nodup := (h.map _).nodup_iff.2 t.keys_nodup
  have perm : (sortEntries entries).Perm t.entries := (perm_sortEntries nodup).trans h
  have same : sortEntries entries = t.entries :=
    increasing_ext_mem (increasing_sortEntries entries) t.increasing fun _ _ => perm.mem_iff
  obtain ⟨entries', increasing⟩ := t
  cases same
  rfl

theorem mem_keys_iff {key : κ} : key ∈ t.keys ↔ ∃ value, t.get? key = some value := by
  simp only [keys, List.mem_map, ← mem_entries_iff]
  exact ⟨fun ⟨x, hx, h⟩ => ⟨x.2, h ▸ hx⟩, fun ⟨value, h⟩ => ⟨_, h, rfl⟩⟩

omit [Std.LawfulEqOrd κ] in
theorem length_insertEntry {entries : List (κ × α)} (inc : Increasing entries) (key : κ)
    (value : α) :
    (insertEntry key value entries).length =
      if (findEntry key entries).isSome then entries.length else entries.length + 1 := by
  fun_induction insertEntry key value entries with
  | case1 => rfl
  | case2 k v rest lt =>
    have free : findEntry key ((k, v) :: rest) = none := by
      refine findEntry_eq_none_of_lt fun x hx => ?_
      rcases List.mem_cons.1 hx with rfl | hx
      · exact lt
      · exact Std.TransCmp.lt_trans lt (List.rel_of_pairwise_cons inc hx)
    rw [free]
    rfl
  | case3 k v rest eq => simp [findEntry, eq]
  | case4 k v rest gt ih =>
    have next : findEntry key ((k, v) :: rest) = findEntry key rest := by
      rw [findEntry, if_neg (by rw [gt]; decide)]
    rw [next, List.length_cons, ih inc.of_cons]
    split <;> rfl

/-- An insertion under a key that is free adds an entry. -/
theorem size_insert_of_none {key : κ} (h : t.get? key = none) (value : α) :
    (t.insert key value).size = t.size + 1 := by
  have := length_insertEntry t.increasing key value
  rwa [show findEntry key t.entries = none from h] at this

/-- An insertion under a key that is taken replaces its entry. -/
theorem size_insert_of_some {key : κ} {old : α} (h : t.get? key = some old) (value : α) :
    (t.insert key value).size = t.size := by
  have := length_insertEntry t.increasing key value
  rwa [show findEntry key t.entries = some old from h] at this

/-- Erasing keys one after the other erases the values under all of them. -/
theorem get?_foldl_erase (keys : List κ) (t : Table κ α) (key : κ) (value : α) :
    (keys.foldl (fun table key => table.erase key) t).get? key = some value ↔
      key ∉ keys ∧ t.get? key = some value := by
  induction keys generalizing t with
  | nil => simp
  | cons k keys ih =>
    rw [List.foldl_cons, ih, get?_erase, List.mem_cons]
    by_cases hk : key = k
    · subst hk
      simp [Std.ReflOrd.compare_self]
    · have hc : ¬ compare key k = .eq := mt Std.LawfulEqOrd.eq_of_compare hk
      simp [hk, hc]

end Table

end Signoff
