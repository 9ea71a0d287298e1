import Mathlib.Data.List.Sort
import Signoff.Proofs.Text.Order
import Signoff.RoleSet

/-!
# Sets of roles by their members

A set is what it contains (`RoleSet.ext_contains`), so the list that it was made from may name its
roles in any order and repeat them (`ofList_congr`). A gate that lets an actor through lets every
actor through who has those roles and more (`permits_mono`), and one that has a role keeps those out
who have none of its roles (`permits_eq_false`). The roles of a set are listed in increasing order
(`toList_increasing`), which leaves one list (`eq_toList`).
-/

namespace Signoff

namespace RoleSet

variable {gate actor actor' : RoleSet} {roles roles' : List String}

/-- Two sets with the same roles are one set. -/
theorem ext_contains (h : ∀ role, actor.contains role = actor'.contains role) : actor = actor' := by
  suffices actor.table = actor'.table from congrArg RoleSet.mk this
  -- nothing but the unit is stored under a role, so it only matters which roles are there
  have unit_of_isSome (x y : Option Unit) (same : x.isSome = y.isSome) : x = y := by
    cases x <;> cases y <;> first | rfl | cases same
  exact Table.ext_get? fun role => unit_of_isSome _ _ (h role)

theorem contains_ofList_iff {role : String} :
    (ofList roles).contains role = true ↔ role ∈ roles := by
  rw [contains_ofList, List.contains_iff_mem]

/-- Neither the order in which roles are listed nor how often each one is matters. -/
theorem ofList_congr (h : ∀ role, role ∈ roles ↔ role ∈ roles') : ofList roles = ofList roles' :=
  ext_contains fun role => Bool.eq_iff_iff.2 <| by
    rw [contains_ofList_iff, contains_ofList_iff, h role]

/-- More roles open every gate that fewer opened. -/
theorem permits_mono (more : ∀ role, actor.contains role = true → actor'.contains role = true)
    (h : gate.permits actor = true) : gate.permits actor' = true := by
  rw [permits_iff] at h ⊢
  exact h.imp_right fun ⟨role, asked, has⟩ => ⟨role, asked, more role has⟩

theorem permits_ofList_mono (more : ∀ role ∈ roles, role ∈ roles')
    (h : gate.permits (ofList roles) = true) : gate.permits (ofList roles') = true :=
  permits_mono (fun role has => contains_ofList_iff.2 (more role (contains_ofList_iff.1 has))) h

/-- The roles of a set are listed in increasing order, each of them once. -/
theorem toList_increasing (r : RoleSet) : r.toList.Pairwise (· < ·) :=
  List.pairwise_map.2 (r.table.increasing.imp lt_of_compare_eq_lt)

/-- The roles of a set have no other increasing list. -/
theorem eq_toList {r : RoleSet} (increasing : roles.Pairwise (· < ·))
    (same : ∀ role, role ∈ roles ↔ r.contains role = true) : roles = r.toList :=
  increasing.eq_of_mem_iff r.toList_increasing fun role => by rw [same, mem_toList]

theorem isEmpty_iff {r : RoleSet} : r.isEmpty = true ↔ ∀ role, r.contains role = false := by
  have keys : r.isEmpty = true ↔ r.toList = [] := by
    rw [isEmpty, Table.isEmpty, List.isEmpty_iff, toList, Table.keys, List.map_eq_nil_iff]
  simp only [keys, List.eq_nil_iff_forall_not_mem, mem_toList, Bool.not_eq_true]

/-- The gate has a role, and the actor has none of its roles. -/
def Bars (gate actor : RoleSet) : Prop :=
  (∃ role, gate.contains role = true) ∧
    ∀ role, gate.contains role = true → actor.contains role = false

/-- A gate lets those through whom it does not bar. -/
theorem permits_eq_false : gate.permits actor = false ↔ gate.Bars actor := by
  rw [← Bool.not_eq_true, permits_iff, isEmpty_iff]
  simp [Bars]

end RoleSet

end Signoff
