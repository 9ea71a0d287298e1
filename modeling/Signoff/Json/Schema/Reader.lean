import Signoff.Json.Schema.Basic
import Signoff.Json.Reader
/-!
# Reading a schema from text

A value is read from text as its schema demands, without building a tree first: members that no
field knows are skipped, and the first fault of either kind, of form or of shape, is the one
reported.

- `Schema.read` takes a value from the front of a text; `Schema.ofText` reads a whole text.
-/

namespace Signoff.Json

/-- Goes into a list or object, if its depth is allowed. -/
def enter {α : Type} (depth : Nat) (inside : Nat → Reader α) : Reader α :=
  match depth with
  | 0 => failNext .tooDeep
  | depth + 1 => do
    advance
    inside depth

/-- Gives a result or fails at the cursor. -/
def orFailHere {α : Type} : Except Problem α → Reader α
  | .ok a => pure a
  | .error p => failHere p

/-- Gives a result or fails behind the object at the cursor. -/
def orFailAfterObject {α : Type} : Except Problem α → Reader α
  | .ok a => pure a
  | .error p => failAfterObject p

/-- Takes a string, or fails with what was wanted. -/
def readText (wanted : Wanted) : Reader String := do
  if (← peekToken) = some (some '"') then
    advance
    readString
  else failType wanted

/-- Takes null. -/
def readUnit : Reader Unit := do
  if (← peekToken) = some (some 'n') then readWord ['n', 'u', 'l', 'l'] else failType .unit

/-- Takes the value with a name. -/
def readChosen {α : Type} (names : List (String × α)) (wanted : Wanted) : Reader α := do
  orFailHere (chosen names (← readText wanted))

/-- Takes one of some names, alone or as the key of an object. -/
def readChoice {α : Type} (names : List (String × α)) (depth : Nat) : Reader α := do
  match ← peekToken with
  | none => failHere .endOfValue
  | some g =>
    if g = some '"' then readChosen names .string
    else if g = some '\x7b' then
      enter depth fun _ => do
        let a ← readChosen names .variantName
        readColon
        readUnit
        match ← peekToken with
        | none => failHere .endOfObject
        | some g =>
          if g = some '\x7d' then
            advance
            return a
          else failHere .expectedValue
    else failNext .expectedValue

/-- Takes a natural number below a limit. -/
def readNatural (typeName : String) (limit : Nat) : Reader (Fin limit) := do
  match ← peekToken with
  | some (some c) =>
    if c = '-' || c.isDigit then
      let n ← readNumber
      orFailHere ((Schema.natural typeName limit).decode .given (.number n))
    else failType (.natural typeName)
  | _ => failType (.natural typeName)

mutual

/-- Takes a value in which lists and objects nest at most `depth` levels. -/
def Schema.read : {α : Type} → Schema α → (depth : Nat) → Reader α
  | _, .any, depth => readTree depth
  | _, .text, _ => readText .string
  | _, .flag, _ => do
    match ← peekToken with
    | some (some 't') =>
      readWord ['t', 'r', 'u', 'e']
      return true
    | some (some 'f') =>
      readWord ['f', 'a', 'l', 's', 'e']
      return false
    | _ => failType .boolean
  | _, .natural typeName limit, _ => readNatural typeName limit
  | _, .instant, _ => do
    let s ← readText .timestamp
    orFailHere ((Instant.parse s).mapError .timestamp)
  | _, .choice names, depth => readChoice names depth
  | _, .optional schema, depth => do
    if (← peekToken) = some (some 'n') then
      readWord ['n', 'u', 'l', 'l']
      return none
    else return some (← schema.read depth)
  | _, .list schema, depth => do
    if (← peekToken) = some (some '[') then
      enter depth fun depth => readItems (schema.read depth)
    else failType .sequence
  | _, .table schema, depth => do
    if (← peekToken) = some (some '\x7b') then
      enter depth fun depth => do
        let members ← readMembers (fun key members => do
          readColon
          return (key, ← schema.read depth) :: members) []
        endObject
        return members.reverse
    else failType .map
  | _, .record title fields build, depth => do
    match ← peekToken with
    | some (some '[') =>
      enter depth fun depth => do
        let a ← fields.readItems title fields.size 0 depth
        endList
        return build a
    | some (some '\x7b') =>
      enter depth fun depth => do
        let slots ← readMembers (fun key slots =>
          match fields.readMember depth key slots with
          | some reader => reader
          | none => do
            readColon
            skipValue
            return slots) fields.empty
        let a ← orFailAfterObject (fields.finish slots)
        endObject
        return build a
    | _ => failType (.record title)
  | _, .flattened title own inner build, depth => do
    if (← peekToken) = some (some '\x7b') then
      enter depth fun depth => do
        let (slots, others) ← readMembers (fun key (slots, others) =>
          match own.readMember depth key slots with
          | some reader => do return (← reader, others)
          | none => do
            readColon
            return (slots, (key, ← readTree depth) :: others)) (own.empty, [])
        let a ← orFailAfterObject (own.finish slots)
        let slots ← orFailAfterObject
          (decodeMembers (inner.decodeMember .buffered) others.reverse inner.empty)
        let b ← orFailAfterObject (inner.finish slots)
        endObject
        return build a b
    else failType (.record title)
  | _, .map f schema, depth => do return f (← schema.read depth)

/-- Takes the member with a key, from its colon, into its slot, if a field has the key. -/
def Fields.readMember : {π σ : Type} → Fields π σ → (depth : Nat) → String → π →
    Option (Reader π)
  | _, _, .nil, _, _, _ => none
  | _, _, .cons key schema _ _ rest, depth, k, (slot, slots) =>
    if k = key then
      some (if slot.isSome then failAfterObject (.duplicateField key)
        else do
          readColon
          return (some (← schema.read depth), slots))
    else
      match rest.readMember depth k slots with
      | none => none
      | some reader => some do return (slot, ← reader)

/-- Takes fields from the items of a list, of which the next is item number `index`. -/
def Fields.readItems : {π σ : Type} → Fields π σ → (title : String) → (total index depth : Nat) →
    Reader σ
  | _, _, .nil, _, _, _, _ => pure ()
  | _, _, .cons _ schema _ short rest, title, total, index, depth => do
    if ← nextItem (index = 0) then
      let a ← schema.read depth
      return (a, ← rest.readItems title total (index + 1) depth)
    else
      match short with
      | some a => return (a, ← rest.readItems title total (index + 1) depth)
      | none => failAfterList (.wrongLength index (.elements title total))

end

/-- Reads a whole text. -/
def Schema.ofText {α : Type} (schema : Schema α) (text : Text) : Except Error α :=
  parseAll (schema.read depthLimit) text

end Signoff.Json
