import Signoff.Table.Basic
/-!
# Tables by their entries

What each operation on a table does under each key.

- `get?_insert`, `get?_erase`, `get?_ofList`: the value under a key after a change.
- `mem_entries_iff`: the entries are the keys with their values.
- `Table.ext_get?`: a table is determined by the value under each key.
-/

namespace Signoff

variable {κ α : Type} [Ord κ]

theorem findEntry_eq_none_of_lt [Std.TransOrd κ] {key : κ} {entries : List (κ × α)}
    (h : ∀ x ∈ entries, compare key x.1 = .lt) : findEntry key entries = none := by
  induction entries with
  | nil => rfl
  | cons x rest ih =>
    rw [findEntry, if_neg (by rw [h x (by simp)]; decide), ih fun y hy => h y (by simp [hy])]

variable [Std.TransOrd κ] [Std.LawfulEqOrd κ]

omit [Std.TransOrd κ] in
theorem mem_of_findEntry {key : κ} {value : α} {entries : List (κ × α)}
    (h : findEntry key entries = some value) : (key, value) ∈ entries := by
  fun_induction findEntry key entries with
  | case1 => cases h
  | case2 k v rest heq =>
    obtain rfl := Std.LawfulEqOrd.eq_of_compare heq
    cases h; exact List.mem_cons_self
  | case3 k v rest _ ih => exact List.mem_cons_of_mem _ (ih h)

theorem findEntry_of_mem {entries : List (κ × α)} (inc : Increasing entries) {key : κ} {value : α}
    (h : (key, value) ∈ entries) : findEntry key entries = some value := by
  induction entries with
  | nil => cases h
  | cons x rest ih =>
    rw [findEntry]
    rcases List.mem_cons.1 h with rfl | h
    · simp
    · have := List.rel_of_pairwise_cons inc h
      rw [if_neg, ih inc.of_cons h]
      simp only [Std.OrientedCmp.gt_iff_lt.2 this]; decide

theorem findEntry_insertEntry (key key' : κ) (value : α) (entries : List (κ × α)) :
    findEntry key' (insertEntry key value entries) =
      if compare key' key = .eq then some value else findEntry key' entries := by
  fun_induction insertEntry key value entries with
  | case1 => rfl
  | case2 k v rest hlt => rfl
  | case3 k v rest heq =>
    obtain rfl := Std.LawfulEqOrd.eq_of_compare heq
    simp only [findEntry]; split <;> rfl
  | case4 k v rest hgt ih =>
    simp only [findEntry, ih]
    split
    · rename_i h
      obtain rfl := Std.LawfulEqOrd.eq_of_compare h
      rw [if_neg]
      rw [Std.OrientedCmp.gt_iff_lt.1 hgt]; decide
    · rfl

theorem findEntry_addEntry (key key' : κ) (value : α) {entries : List (κ × α)}
    (inc : Increasing entries) :
    findEntry key' (addEntry key value entries) =
      (findEntry key' entries <|> if compare key' key = .eq then some value else none) := by
  fun_induction addEntry key value entries with
  | case1 => rfl
  | case2 k v rest hlt =>
    rw [findEntry]
    split
    · rename_i h
      obtain rfl := Std.LawfulEqOrd.eq_of_compare h
      rw [findEntry_eq_none_of_lt]; · rfl
      intro x hx
      rcases List.mem_cons.1 hx with rfl | hx
      · exact hlt
      · exact Std.TransCmp.lt_trans hlt (List.rel_of_pairwise_cons inc hx)
    · cases findEntry key' ((k, v) :: rest) <;> rfl
  | case3 k v rest heq =>
    obtain rfl := Std.LawfulEqOrd.eq_of_compare heq
    rw [findEntry]
    split
    · rfl
    · cases findEntry key' rest <;> rfl
  | case4 k v rest hgt ih =>
    rw [findEntry, findEntry, ih inc.of_cons]
    split <;> rfl

theorem findEntry_eraseEntry (key key' : κ) {entries : List (κ × α)} (inc : Increasing entries) :
    findEntry key' (eraseEntry key entries) =
      if compare key' key = .eq then none else findEntry key' entries := by
  fun_induction eraseEntry key entries with
  | case1 => simp [findEntry]
  | case2 k v rest heq =>
    obtain rfl := Std.LawfulEqOrd.eq_of_compare heq
    rw [findEntry]
    split
    · rename_i h
      obtain rfl := Std.LawfulEqOrd.eq_of_compare h
      exact findEntry_eq_none_of_lt fun x hx => List.rel_of_pairwise_cons inc hx
    · rfl
  | case3 k v rest hne ih =>
    rw [findEntry, findEntry, ih inc.of_cons]
    split
    · rename_i h
      obtain rfl := Std.LawfulEqOrd.eq_of_compare h
      rw [if_neg]
      intro h; obtain rfl := Std.LawfulEqOrd.eq_of_compare h; exact hne h
    · rfl

theorem increasing_ext {xs ys : List (κ × α)} (hx : Increasing xs) (hy : Increasing ys)
    (h : ∀ key, findEntry key xs = findEntry key ys) : xs = ys := by
  induction xs generalizing ys with
  | nil =>
    cases ys with
    | nil => rfl
    | cons y ys => have := h y.1; simp [findEntry] at this
  | cons x xs ih =>
    cases ys with
    | nil => have := h x.1; simp [findEntry] at this
    | cons y ys =>
      obtain ⟨k, v⟩ := x
      obtain ⟨k', v'⟩ := y
      have none_of_lt {zs : List (κ × α)} {k k' : κ} {v' : α} (hz : Increasing ((k', v') :: zs))
          (hlt : compare k k' = .lt) : findEntry k ((k', v') :: zs) = none :=
        findEntry_eq_none_of_lt fun z hz' => by
          rcases List.mem_cons.1 hz' with rfl | hz'
          · exact hlt
          · exact Std.TransCmp.lt_trans hlt (List.rel_of_pairwise_cons hz hz')
      have hk : k = k' := by
        cases hc : compare k k' with
        | eq => exact Std.LawfulEqOrd.eq_of_compare hc
        | lt =>
          have := h k
          rw [none_of_lt hy hc] at this; simp [findEntry] at this
        | gt =>
          have := h k'
          rw [none_of_lt hx (Std.OrientedCmp.gt_iff_lt.1 hc)] at this; simp [findEntry] at this
      subst hk
      have hv : v = v' := by simpa [findEntry] using h k
      subst hv
      rw [ih hx.of_cons hy.of_cons fun key => ?_]
      by_cases hc : compare key k = .eq
      · obtain rfl := Std.LawfulEqOrd.eq_of_compare hc
        rw [findEntry_eq_none_of_lt fun z hz => List.rel_of_pairwise_cons hx hz,
          findEntry_eq_none_of_lt fun z hz => List.rel_of_pairwise_cons hy hz]
      · simpa [findEntry, hc] using h key

namespace Table

omit [Std.TransOrd κ] [Std.LawfulEqOrd κ] in
@[simp] theorem get?_empty (key : κ) : (empty : Table κ α).get? key = none := rfl

theorem get?_insert (t : Table κ α) (key key' : κ) (value : α) :
    (t.insert key value).get? key' =
      if compare key' key = .eq then some value else t.get? key' :=
  findEntry_insertEntry ..

@[simp] theorem get?_insert_self (t : Table κ α) (key : κ) (value : α) :
    (t.insert key value).get? key = some value := by
  rw [get?_insert, if_pos Std.ReflOrd.compare_self]

theorem get?_insert_of_ne (t : Table κ α) {key key' : κ} (h : key' ≠ key) (value : α) :
    (t.insert key value).get? key' = t.get? key' := by
  rw [get?_insert, if_neg (mt Std.LawfulEqOrd.eq_of_compare h)]

theorem get?_erase (t : Table κ α) (key key' : κ) :
    (t.erase key).get? key' = if compare key' key = .eq then none else t.get? key' :=
  findEntry_eraseEntry key key' t.increasing

theorem mem_entries_iff (t : Table κ α) (key : κ) (value : α) :
    (key, value) ∈ t.entries ↔ t.get? key = some value :=
  ⟨findEntry_of_mem t.increasing, mem_of_findEntry⟩

/-- A table is determined by the value under each key. -/
theorem ext_get? {t u : Table κ α} (h : ∀ key, t.get? key = u.get? key) : t = u := by
  obtain ⟨ts, ht⟩ := t
  obtain ⟨us, hu⟩ := u
  obtain rfl := increasing_ext ht hu h
  rfl

/-- The last of the entries with a key wins. -/
theorem get?_ofList (entries : List (κ × α)) (key : κ) :
    (ofList entries).get? key = findEntry key entries.reverse := by
  suffices ∀ rest, findEntry key (entries.reverse ++ rest) =
      (findEntry key (sortEntries entries) <|> findEntry key rest) by
    have := this []
    rw [List.append_nil] at this
    rw [this]
    show findEntry key (sortEntries entries) = _
    cases findEntry key (sortEntries entries) <;> rfl
  induction entries with
  | nil => intro rest; rfl
  | cons x entries ih =>
    intro rest
    rw [List.reverse_cons, List.append_assoc, ih]
    show _ = (findEntry key (addEntry x.1 x.2 (sortEntries entries)) <|> _)
    rw [findEntry_addEntry _ _ _ (increasing_sortEntries entries)]
    cases findEntry key (sortEntries entries) with
    | some v => rfl
    | none =>
      show findEntry key (x :: rest) = _
      rw [findEntry]
      split <;> rfl

end Table

end Signoff
