import Signoff.Json.Schema.Basic
import Signoff.Table.Lemmas
/-!
# Sets of roles

A set of role names gates a transition or says what an actor may act as. An empty gate lets everyone
through; any other gate asks for a role that the actor has.

- `RoleSet.contains_insert` and `contains_ofList` say what is in a set; `permits_iff` says what a
  gate asks for.
-/

namespace Signoff

/-- A set of role names. -/
structure RoleSet where
  table : Table String Unit
deriving DecidableEq

namespace RoleSet

/-- No roles. -/
def empty : RoleSet := ⟨Table.empty⟩

instance : Inhabited RoleSet := ⟨empty⟩

/-- The roles in increasing order. -/
def toList (r : RoleSet) : List String := r.table.keys

/-- The role is in the set. -/
def contains (r : RoleSet) (role : String) : Bool := r.table.contains role

/-- Adds a role. -/
def insert (r : RoleSet) (role : String) : RoleSet := ⟨r.table.insert role ()⟩

/-- Adds a role, and tells whether it is new; a role that the set has changes nothing. -/
def add (r : RoleSet) (role : String) : Bool × RoleSet :=
  if r.contains role then (false, r) else (true, r.insert role)

/-- The set of some roles, in any order and number. -/
def ofList (roles : List String) : RoleSet := ⟨Table.ofList (roles.map fun role => (role, ()))⟩

/-- The set has no role. -/
def isEmpty (r : RoleSet) : Bool := r.table.isEmpty

/-- The number of roles. -/
def size (r : RoleSet) : Nat := r.table.size

/-- A gate lets an actor through. -/
def permits (gate actor : RoleSet) : Bool := gate.isEmpty || gate.toList.any actor.contains

theorem mem_toList {r : RoleSet} {role : String} : role ∈ r.toList ↔ r.contains role = true := by
  simp only [toList, Table.keys, contains, Table.contains, Option.isSome_iff_exists,
    ← Table.mem_entries_iff, List.mem_map]
  exact ⟨fun ⟨x, hx, h⟩ => ⟨x.2, h ▸ hx⟩, fun ⟨u, h⟩ => ⟨(role, u), h, rfl⟩⟩

theorem contains_insert (r : RoleSet) (role role' : String) :
    (r.insert role).contains role' = (role' == role || r.contains role') := by
  by_cases h : role' = role
  · subst h
    simp [insert, contains, Table.contains]
  · simp [insert, contains, Table.contains, Table.get?_insert_of_ne _ h, h]

theorem contains_ofList (roles : List String) (role : String) :
    (ofList roles).contains role = roles.contains role := by
  have found (roles : List String) :
      (findEntry role (roles.map fun r => (r, ()))).isSome = roles.contains role := by
    induction roles with
    | nil => rfl
    | cons r roles ih =>
      by_cases h : role = r
      · subst h
        simp [findEntry, Std.ReflOrd.compare_self]
      · have hc : ¬ compare role r = .eq := mt Std.LawfulEqOrd.eq_of_compare h
        simp [findEntry, hc, ih, h]
  simp only [ofList, contains, Table.contains, Table.get?_ofList]
  rw [← List.map_reverse, found, List.contains_reverse]

/-- An empty gate lets everyone through, and any other an actor with one of its roles. -/
theorem permits_iff {gate actor : RoleSet} :
    gate.permits actor = true ↔
      gate.isEmpty = true ∨ ∃ role, gate.contains role = true ∧ actor.contains role = true := by
  simp [permits, mem_toList]

/-- The set as a JSON list. -/
def toJson (r : RoleSet) : Json := .array (r.toList.map .string)

/-- A set is written as a list. -/
def schema : Json.Schema RoleSet := .map ofList (.list .text)

end RoleSet

end Signoff
