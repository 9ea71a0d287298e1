import Signoff.Json.Double
import Signoff.Table.Basic
/-!
# JSON values

`Json` is a value as it is written: the members of an object stand in the order of the text, and a
key may occur twice. `Value` is a value as it is kept: every object has strictly increasing keys,
so equal values have one representation.

- `Value.ofJson` keeps a written value; of two members with one key the later wins.
- `Json.Canonical` says that keys increase strictly at every level.
-/

namespace Signoff

/-- An integer that 64 bits hold, with or without a sign. -/
def Number.Fits (n : Int) : Prop := -9223372036854775808 ≤ n ∧ n < 18446744073709551616

instance (n : Int) : Decidable (Number.Fits n) := inferInstanceAs (Decidable (_ ∧ _))

/-- A number: an integer in the range of 64 bits, or a floating-point number. -/
inductive Number where
  | whole (n : Int) (fits : Number.Fits n)
  | real (x : Double)
deriving DecidableEq

/-- A value as it is written. -/
inductive Json where
  | null
  | bool (b : Bool)
  | number (n : Number)
  | string (s : String)
  | array (items : List Json)
  | object (members : List (String × Json))
deriving Inhabited

namespace Json

/-- A natural number as a value; past 64 bits it is cut to the largest that fits. -/
def ofNat (n : Nat) : Json :=
  .number (.whole (min n 18446744073709551615) ⟨by omega, by omega⟩)

mutual

/-- The keys of every object increase strictly. -/
def Canonical : Json → Prop
  | .array items => AllCanonical items
  | .object members => Increasing members ∧ MembersCanonical members
  | _ => True

/-- Every item is canonical. -/
def AllCanonical : List Json → Prop
  | [] => True
  | j :: rest => Canonical j ∧ AllCanonical rest

/-- The value of every member is canonical. -/
def MembersCanonical : List (String × Json) → Prop
  | [] => True
  | (_, j) :: rest => Canonical j ∧ MembersCanonical rest

end

mutual

/-- Sorts the members of every object; of two with one key the later stays. -/
def canonical : Json → Json
  | .array items => .array (canonicalItems items)
  | .object members => .object (sortEntries (canonicalMembers members))
  | j => j

/-- Sorts the members in every item. -/
def canonicalItems : List Json → List Json
  | [] => []
  | j :: rest => canonical j :: canonicalItems rest

/-- Sorts the members in the value of every member. -/
def canonicalMembers : List (String × Json) → List (String × Json)
  | [] => []
  | (k, j) :: rest => (k, canonical j) :: canonicalMembers rest

end

theorem membersCanonical_iff {members : List (String × Json)} :
    MembersCanonical members ↔ ∀ x ∈ members, Canonical x.2 := by
  induction members with
  | nil => simp [MembersCanonical]
  | cons x rest ih => obtain ⟨k, j⟩ := x; simp [MembersCanonical, ih]

theorem mem_sortEntries {entries : List (String × Json)} {x : String × Json}
    (h : x ∈ sortEntries entries) : x ∈ entries := by
  induction entries with
  | nil => exact h
  | cons y rest ih =>
    rcases mem_addEntry h with rfl | h
    · exact List.mem_cons_self
    · exact List.mem_cons_of_mem _ (ih h)

mutual

theorem canonical_canonical : (j : Json) → Canonical (canonical j)
  | .array items => by rw [canonical, Canonical]; exact canonicalItems_canonical items
  | .object members => by
    rw [canonical, Canonical]
    exact ⟨increasing_sortEntries _, membersCanonical_iff.2 fun x hx =>
      membersCanonical_iff.1 (canonicalMembers_canonical members) x (mem_sortEntries hx)⟩
  | .null => by simp [canonical, Canonical]
  | .bool _ => by simp [canonical, Canonical]
  | .number _ => by simp [canonical, Canonical]
  | .string _ => by simp [canonical, Canonical]

theorem canonicalItems_canonical : (items : List Json) → AllCanonical (canonicalItems items)
  | [] => by simp [canonicalItems, AllCanonical]
  | j :: rest => by
    rw [canonicalItems, AllCanonical]
    exact ⟨canonical_canonical j, canonicalItems_canonical rest⟩

theorem canonicalMembers_canonical :
    (members : List (String × Json)) → MembersCanonical (canonicalMembers members)
  | [] => by simp [canonicalMembers, MembersCanonical]
  | (k, j) :: rest => by
    rw [canonicalMembers, MembersCanonical]
    exact ⟨canonical_canonical j, canonicalMembers_canonical rest⟩

end

end Json

/-- A value as it is kept. -/
structure Value where
  json : Json
  canonical : json.Canonical

namespace Value

/-- Keeps a written value. -/
def ofJson (j : Json) : Value := ⟨j.canonical, j.canonical_canonical⟩

/-- The null value. -/
def null : Value := ⟨.null, trivial⟩

instance : Inhabited Value := ⟨null⟩

/-- The value is null. -/
def isNull (v : Value) : Bool :=
  match v.json with
  | .null => true
  | _ => false

theorem ext {v w : Value} (h : v.json = w.json) : v = w := by
  cases v; cases w; cases h; rfl

theorem isNull_iff {v : Value} : v.isNull = true ↔ v = null := by
  constructor
  · intro h
    apply ext
    unfold isNull at h
    split at h
    · assumption
    · cases h
  · rintro rfl; rfl

end Value

end Signoff
