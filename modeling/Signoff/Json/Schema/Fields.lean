import Signoff.Json.Schema.Basic
import Signoff.Instant.Printer
/-!
# Fields and members

The usual kinds of fields of a record, and the members by which they are written.
-/

namespace Signoff

/-- A timestamp as JSON. -/
def Instant.toJson (t : Instant) : Json := .string t.format

namespace Json

/-- A member that is written only under a condition. -/
def memberIf (condition : Bool) (key : String) (j : Json) : List (String × Json) :=
  if condition then [(key, j)] else []

/-- A member that is written only if there is a value. -/
def memberOf? {α : Type} (key : String) (toJson : α → Json) : Option α → List (String × Json)
  | some a => [(key, toJson a)]
  | none => []

/-- A schema that also takes null, for a default. -/
def Schema.orNull {α : Type} (default : α) (schema : Schema α) : Schema α :=
  .map (·.getD default) (.optional schema)

/-- A field that has to be there. -/
def Fields.need {α π σ : Type} (key : String) (schema : Schema α) (rest : Fields π σ) :
    Fields (Option α × π) (α × σ) :=
  .cons key schema none none rest

/-- A field that may be missing. -/
def Fields.orElse {α π σ : Type} (key : String) (default : α) (schema : Schema α)
    (rest : Fields π σ) : Fields (Option α × π) (α × σ) :=
  .cons key schema (some default) (some default) rest

/-- A field that may be missing in an object, but not in a list. -/
def Fields.orAbsent {α π σ : Type} (key : String) (schema : Schema α) (rest : Fields π σ) :
    Fields (Option (Option α) × π) (Option α × σ) :=
  .cons key (.optional schema) (some none) none rest

/-- A schema of values as they are kept. -/
def Schema.value : Schema Value := .map Value.ofJson .any

/-- The name of a value among named values. -/
def nameOf {α : Type} [BEq α] (names : List (String × α)) (a : α) : String :=
  match names.find? fun x => x.2 == a with
  | some (name, _) => name
  | none => ""

end Json

end Signoff
