import Signoff.Proofs.Encodings
import Signoff.Proofs.RoleSet

/-!
# The one form of a set of roles

A set of roles has one form for everything that was put into it, whichever list it was made from and
whichever roles were added after that (`RoleSet.sets_are_canonical`): its roles are listed once
each, by their bytes, which is by their code points; sets with the same roles are the same; and a
set that was written reads back.

* `RoleSet.made`: the sets that can be made, and `contains_made`: what is in them.
* `RoleSet.add_fst`: adding tells whether the role is new.
* `encode_lt_iff_codePoints`: bytes are ordered as code points are.
-/

namespace Signoff

/-! ## The order of roles -/

/-- The code points of a text. -/
def codePoints (s : String) : List Nat := s.toList.map Char.toNat

theorem codePoints_lt {s t : String} (h : s < t) : codePoints s < codePoints t :=
  List.map_lt (fun _ _ lt => UInt32.lt_iff_toNat_lt.1 lt) h

/-- Texts are ordered by their bytes as they are by their code points. -/
theorem encode_lt_iff_codePoints {s t : String} :
    encode s < encode t ↔ codePoints s < codePoints t := by
  rw [encode_lt_encode]
  refine ⟨codePoints_lt, fun h => Decidable.byContradiction fun no => ?_⟩
  by_cases gt : t < s
  · exact List.lt_asymm h (codePoints_lt gt)
  · obtain rfl := String.le_antisymm (String.not_lt.1 gt) (String.not_lt.1 no)
    exact List.lt_irrefl _ h

namespace RoleSet

variable {given added given' added' : List String}

/-! ## The sets that can be made -/

/-- The set of some roles, to which others were added one after the other. -/
def made (given added : List String) : RoleSet :=
  added.foldl (fun r role => (r.add role).2) (ofList given)

theorem add_fst (r : RoleSet) (role : String) : (r.add role).1 = !r.contains role := by
  rw [add]
  split
  · rename_i has
    rw [has]
    rfl
  · rename_i new
    rw [Bool.not_eq_true] at new
    rw [new]
    rfl

theorem contains_add (r : RoleSet) (role role' : String) :
    (r.add role).2.contains role' = (role' == role || r.contains role') := by
  rw [add]
  split
  · rename_i has
    by_cases same : role' = role
    · subst same
      simp [has]
    · simp [same]
  · exact contains_insert r role role'

theorem contains_made {role : String} :
    (made given added).contains role = true ↔ role ∈ given ∨ role ∈ added := by
  suffices ∀ r : RoleSet, (added.foldl (fun r role => (r.add role).2) r).contains role = true ↔
      r.contains role = true ∨ role ∈ added by
    rw [made, this, contains_ofList_iff]
  induction added with
  | nil => simp
  | cons first rest ih =>
    intro r
    rw [List.foldl_cons, ih, contains_add, List.mem_cons, Bool.or_eq_true, beq_iff_eq, or_assoc,
      or_left_comm]

theorem mem_toList_made {role : String} :
    role ∈ (made given added).toList ↔ role ∈ given ∨ role ∈ added := by
  rw [mem_toList, contains_made]

/-- Sets that were made are the same just if the same roles were put into them. -/
theorem made_eq_made_iff : made given added = made given' added' ↔
    ∀ role, role ∈ given ∨ role ∈ added ↔ role ∈ given' ∨ role ∈ added' := by
  constructor
  · intro same role
    rw [← contains_made, same, contains_made]
  · exact fun same => ext_contains fun role => Bool.eq_iff_iff.2 <| by
      rw [contains_made, contains_made, same role]

/-! ## Written sets -/

/-- What is written for a set is read back. -/
theorem readsBack (r : RoleSet) : schema.ReadsBack toJson r := by
  have flat : Json.WholeItems (r.toList.map .string) ∧ Json.depthItems (r.toList.map .string) ≤ 0 :=
    Workflow.items_toJson (fun role => by simp [Json.Whole, Json.depth]) r.toList
  exact Json.Schema.readsBack (r.decode_toJson Json.rewrites_id)
    (r.decode_toJson Json.rewrites_canonical) flat.1
    (Nat.succ_le_succ (Nat.le_trans flat.2 (by decide)))

/-- A set into which roles were put is their set. Adding a role tells whether it was not put in
before; the set has the roles that were put in, and lists each of them once, by increasing bytes,
which is by increasing code points; it is written as this list, and read back from what is written.
Two sets are the same just if the same roles were put into them. A set without roles lets everyone
through, and another one an actor who shares a role with it. -/
theorem sets_are_canonical (given added : List String) :
    (∀ role, ((made given added).add role).1 = true ↔ role ∉ given ∧ role ∉ added) ∧
    (∀ role, (made given added).contains role = true ↔ role ∈ given ∨ role ∈ added) ∧
    (∀ role, role ∈ (made given added).toList ↔ role ∈ given ∨ role ∈ added) ∧
    (made given added).toList.Pairwise (fun a b => encode a < encode b) ∧
    (∀ a b, encode a < encode b ↔ codePoints a < codePoints b) ∧
    (made given added).toJson = .array ((made given added).toList.map .string) ∧
    schema.ReadsBack toJson (made given added) ∧
    ∀ given' added',
      (made given added = made given' added' ↔
        ∀ role, role ∈ given ∨ role ∈ added ↔ role ∈ given' ∨ role ∈ added') ∧
      ((made given added).permits (made given' added') = true ↔
        (∀ role, role ∉ given ∧ role ∉ added) ∨
          ∃ role, (role ∈ given ∨ role ∈ added) ∧ (role ∈ given' ∨ role ∈ added')) := by
  refine ⟨fun role => ?_, fun role => contains_made, fun role => mem_toList_made,
    (toList_increasing _).imp encode_lt_encode.2, fun a b => encode_lt_iff_codePoints, rfl,
    readsBack _, fun given' added' => ⟨made_eq_made_iff, ?_⟩⟩
  · rw [add_fst, Bool.not_eq_true', ← Bool.not_eq_true, contains_made, not_or]
  · simp only [permits_iff, isEmpty_iff, contains_made, ← Bool.not_eq_true, not_or]

end RoleSet

end Signoff
