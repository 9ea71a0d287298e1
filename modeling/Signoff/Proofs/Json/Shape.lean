import Signoff.Json.Basic
import Signoff.Proofs.Table.Entries

/-!
# The shape of JSON values

Whether a value has no inner values (`Json.isScalar`), how deep lists and objects nest in it
(`Json.depth`), and that all numbers in it are integers (`Json.Whole`).

A value whose keys increase at every level is kept as it is (`Json.canonical_eq_self`), so a value
that was kept once stays the same (`Value.ofJson_json`). Keeping a value makes it no deeper
(`Json.depth_canonical_le`).
-/

namespace Signoff

namespace Json

/-- The value is neither a list nor an object. -/
def isScalar : Json → Bool
  | .array _ | .object _ => false
  | _ => true

mutual

/-- The number of lists and objects that stand inside one another. -/
def depth : Json → Nat
  | .array items => depthItems items + 1
  | .object members => depthMembers members + 1
  | _ => 0

/-- The greatest depth of some items. -/
def depthItems : List Json → Nat
  | [] => 0
  | j :: rest => max (depth j) (depthItems rest)

/-- The greatest depth of the values of some members. -/
def depthMembers : List (String × Json) → Nat
  | [] => 0
  | (_, j) :: rest => max (depth j) (depthMembers rest)

end

mutual

/-- All numbers in the value are integers. -/
def Whole : Json → Prop
  | .array items => WholeItems items
  | .object members => WholeMembers members
  | .number (.real _) => False
  | _ => True

/-- All numbers in the items are integers. -/
def WholeItems : List Json → Prop
  | [] => True
  | j :: rest => Whole j ∧ WholeItems rest

/-- All numbers in the values of the members are integers. -/
def WholeMembers : List (String × Json) → Prop
  | [] => True
  | (_, j) :: rest => Whole j ∧ WholeMembers rest

end

theorem wholeItems_iff {items : List Json} : WholeItems items ↔ ∀ j ∈ items, j.Whole := by
  induction items with
  | nil => simp [WholeItems]
  | cons j items ih => simp [WholeItems, ih]

theorem wholeMembers_iff {members : List (String × Json)} :
    WholeMembers members ↔ ∀ x ∈ members, x.2.Whole := by
  induction members with
  | nil => simp [WholeMembers]
  | cons x members ih =>
    obtain ⟨key, j⟩ := x
    simp only [WholeMembers, ih, List.forall_mem_cons]

theorem wholeItems_append {xs ys : List Json} :
    WholeItems (xs ++ ys) ↔ WholeItems xs ∧ WholeItems ys := by
  simp only [wholeItems_iff, List.forall_mem_append]

theorem wholeMembers_append {xs ys : List (String × Json)} :
    WholeMembers (xs ++ ys) ↔ WholeMembers xs ∧ WholeMembers ys := by
  simp only [wholeMembers_iff, List.forall_mem_append]

theorem depthMembers_append (xs ys : List (String × Json)) :
    depthMembers (xs ++ ys) = max (depthMembers xs) (depthMembers ys) := by
  induction xs with
  | nil => simp [depthMembers]
  | cons x xs ih =>
    obtain ⟨key, j⟩ := x
    simp only [List.cons_append, depthMembers, ih, Nat.max_assoc]

theorem depthItems_le_iff {items : List Json} {n : Nat} :
    depthItems items ≤ n ↔ ∀ j ∈ items, j.depth ≤ n := by
  induction items with
  | nil => simp [depthItems]
  | cons j items ih =>
    rw [depthItems, Nat.max_le, ih]
    simp

theorem depthMembers_le_iff {members : List (String × Json)} {n : Nat} :
    depthMembers members ≤ n ↔ ∀ x ∈ members, x.2.depth ≤ n := by
  induction members with
  | nil => simp [depthMembers]
  | cons x members ih =>
    obtain ⟨key, j⟩ := x
    rw [depthMembers, Nat.max_le, ih]
    simp

/-! ## Values that are kept as they are -/

theorem canonical_scalar {j : Json} (h : j.isScalar = true) : j.canonical = j := by
  cases j with
  | array | object => cases h
  | _ => rfl

mutual

theorem canonical_eq_self : (j : Json) → j.Canonical → j.canonical = j
  | .array items, h => by
    rw [canonical, canonicalItems_eq_self items (by rwa [Canonical] at h)]
  | .object members, h => by
    rw [Canonical] at h
    rw [canonical, canonicalMembers_eq_self members h.2, sortEntries_eq_self h.1]
  | .null, _ => canonical_scalar rfl
  | .bool _, _ => canonical_scalar rfl
  | .number _, _ => canonical_scalar rfl
  | .string _, _ => canonical_scalar rfl

theorem canonicalItems_eq_self : (items : List Json) → AllCanonical items →
    canonicalItems items = items
  | [], _ => by rw [canonicalItems]
  | j :: rest, h => by
    rw [AllCanonical] at h
    rw [canonicalItems, canonical_eq_self j h.1, canonicalItems_eq_self rest h.2]

theorem canonicalMembers_eq_self : (members : List (String × Json)) → MembersCanonical members →
    canonicalMembers members = members
  | [], _ => by rw [canonicalMembers]
  | (key, j) :: rest, h => by
    rw [MembersCanonical] at h
    rw [canonicalMembers, canonical_eq_self j h.1, canonicalMembers_eq_self rest h.2]

end

/-! ## The depth of values that are kept -/

mutual

/-- Keeping a value makes it no deeper. -/
theorem depth_canonical_le : (j : Json) → j.canonical.depth ≤ j.depth
  | .array items => by
    rw [canonical, depth, depth]
    exact Nat.succ_le_succ (depthItems_canonicalItems_le items)
  | .object members => by
    rw [canonical, depth, depth]
    refine Nat.succ_le_succ (depthMembers_le_iff.2 fun x mem => ?_)
    exact depthMembers_le_iff.1 (depthMembers_canonicalMembers_le members) x (mem_sortEntries mem)
  | .null => Nat.le_of_eq (by rw [canonical_scalar rfl])
  | .bool _ => Nat.le_of_eq (by rw [canonical_scalar rfl])
  | .number _ => Nat.le_of_eq (by rw [canonical_scalar rfl])
  | .string _ => Nat.le_of_eq (by rw [canonical_scalar rfl])

theorem depthItems_canonicalItems_le : (items : List Json) →
    depthItems (canonicalItems items) ≤ depthItems items
  | [] => Nat.le_of_eq (by rw [canonicalItems])
  | j :: rest => by
    have here := depth_canonical_le j
    have there := depthItems_canonicalItems_le rest
    rw [canonicalItems, depthItems, depthItems]
    omega

theorem depthMembers_canonicalMembers_le : (members : List (String × Json)) →
    depthMembers (canonicalMembers members) ≤ depthMembers members
  | [] => Nat.le_of_eq (by rw [canonicalMembers])
  | (key, j) :: rest => by
    have here := depth_canonical_le j
    have there := depthMembers_canonicalMembers_le rest
    rw [canonicalMembers, depthMembers, depthMembers]
    omega

end

end Json

/-- A value that was kept once stays the same. -/
theorem Value.ofJson_json (v : Value) : Value.ofJson v.json = v :=
  Value.ext (Json.canonical_eq_self v.json v.canonical)

end Signoff
