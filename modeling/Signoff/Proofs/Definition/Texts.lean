import Signoff.Engine
import Signoff.Proofs.Json.Verdict

/-!
# Definitions and their texts

A definition is read from a value just if it is read from the compact text of the value, and both
give the same definition (`Definition.ofBytes_compact`). That holds of every value, whatever its
members are called and whatever stands in those that no field knows.
-/

namespace Signoff

open Json

variable {depth : Nat}

/-! ## The schemas of definitions -/

theorem State.schema_decides : State.schema.Decides (depth + 1) :=
  Fields.Decides.record (((Fields.decides_nil.cons decides_flag _ _ _).cons decides_flag _ _ _).cons
    decides_text _ _ _) _ _

theorem RoleSet.schema_decides : RoleSet.schema.Decides (depth + 1) :=
  decides_text.list.map _

theorem Transition.schema_decides : Transition.schema.Decides (depth + 2) :=
  Fields.Decides.record ((((Fields.decides_nil.cons (RoleSet.schema_decides.optional.map _) _ _
    _).cons decides_text _ _ _).cons decides_text _ _ _).cons decides_text _ _ _) _ _

theorem Reapproval.schema_decides : Reapproval.schema.Decides (depth + 1) :=
  Fields.Decides.record ((Fields.decides_nil.cons decides_text _ _ _).cons decides_text _ _ _) _ _

/-- Lists of transitions with lists of roles are the deepest that a definition has. -/
theorem Definition.schema_decides : Definition.schema.Decides (depth + 4) :=
  Fields.Decides.record (((((Fields.decides_nil.cons Reapproval.schema_decides.optional _ _ _).cons
    ((decides_text.table.map _).optional.map _) _ _ _).cons
    (Transition.schema_decides.list.optional.map _) _ _ _).cons
    (State.schema_decides.list.optional.map _) _ _ _).cons decides_text _ _ _) _ _

namespace Definition

/-! ## Reading definitions -/

/-- What is not read as a definition, from a value or from a text, is invalid as one. -/
theorem invalid_of_unreadable {read : Except Json.Error Definition} {f : Failure}
    (h : read.mapError unreadable = .error f) : ∃ reason, f = .invalidDefinition reason := by
  obtain ⟨e, -, rfl⟩ := mapError_eq_error.1 h
  exact ⟨_, rfl⟩

/-- A value and its compact text are read as the same definition, or neither is read as one. -/
theorem ofBytes_compact (v : Value) {d : Definition} :
    ofBytes (encode v.json.compact) = .ok d ↔ ofValue v = .ok d := by
  have decides : schema.Decides depthLimit := schema_decides
  unfold ofBytes ofValue Schema.ofValue
  rw [mapError_eq_ok, mapError_eq_ok, mapError_eq_ok, Text.ofBytes_encode, Text.ofString, compact,
    String.toList_ofList]
  exact decides.ofText (spells_render v.json)

end Definition

end Signoff
