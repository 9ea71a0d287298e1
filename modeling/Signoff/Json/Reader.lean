import Signoff.Json.Number
import Signoff.Json.String
/-!
# Reading values

Lists and objects are read item by item, so that the first fault in the text is the one reported.
Lists and objects nest at most as deep as a reader allows.

- `readTree` takes any value; `skipValue` drops one of any depth, checking only its form.
- `failType` reports the value that stands at the cursor as one of the wrong type.
- `parseAll` reads a whole text.
-/

namespace Signoff.Json

/-! ## Lists and objects -/

/-- Moves to the next item of a list, past a comma unless it is the first. False at the bracket that
ends the list, which stays. -/
def nextItem (first : Bool) : Reader Bool := do
  match ← peekToken with
  | none => failHere .endOfList
  | some g =>
    if g = some ']' then return false
    else if first then return true
    else if g = some ',' then
      advance
      match ← peekToken with
      | none => failHere .endOfValue
      | some g => if g = some ']' then failNext .trailingComma else return true
    else failNext .expectedListEnd

/-- Drops the bracket that ends a list. -/
def endList : Reader Unit := do
  match ← peekToken with
  | none => failHere .endOfList
  | some g =>
    if g = some ']' then advance
    else if g = some ',' then
      advance
      if (← peekToken) = some (some ']') then failNext .trailingComma
      else failNext .trailingCharacters
    else failNext .trailingCharacters

/-- Moves to the key of the next member, past a comma unless it is the first. False at the brace
that ends the object, which stays. -/
def nextMember (first : Bool) : Reader Bool := do
  match ← peekToken with
  | none => failHere .endOfObject
  | some g =>
    if g = some '\x7d' then return false
    else if first then
      if g = some '"' then return true else failNext .keyNotString
    else if g = some ',' then
      advance
      match ← peekToken with
      | none => failHere .endOfValue
      | some g =>
        if g = some '"' then return true
        else if g = some '\x7d' then failNext .trailingComma
        else failNext .keyNotString
    else failNext .expectedObjectEnd

/-- Takes the key of a member. -/
def readKey : Reader String := do
  advance
  readString

/-- Drops the colon behind a key. -/
def readColon : Reader Unit := do
  match ← peekToken with
  | none => failHere .endOfObject
  | some g => if g = some ':' then advance else failNext .expectedColon

/-- Drops the brace that ends an object. -/
def endObject : Reader Unit := do
  match ← peekToken with
  | none => failHere .endOfObject
  | some g =>
    if g = some '\x7d' then advance
    else if g = some ',' then failNext .trailingComma
    else failNext .trailingCharacters

/-- Fails behind the end of a list that is left early. -/
def failAfterList {α : Type} (problem : Problem) : Reader α := do
  match ← peekToken with
  | some (some ']') =>
    advance
    failHere problem
  | some (some ',') =>
    advance
    modify Cursor.skipSpace
    failHere problem
  | _ => failHere problem

/-- Fails behind the end of an object that is left early. -/
def failAfterObject {α : Type} (problem : Problem) : Reader α := do
  if (← peekToken) = some (some '\x7d') then advance
  failHere problem

/-- Takes the items of a list up to its bracket. The text that remained at the start bounds their
number, since each takes at least one glyph of it. -/
def readItemsFrom {α : Type} (item : Reader α) : (bound : Text) → (before : List α) →
    Reader (List α)
  | [], _ => failHere .endOfList
  | _ :: bound, before => do
    if ← nextItem before.isEmpty then
      let a ← item
      readItemsFrom item bound (a :: before)
    else return before.reverse

/-- Takes a list behind its opening bracket. -/
def readItems {α : Type} (item : Reader α) : Reader (List α) := do
  let items ← readItemsFrom item (← get).rest []
  endList
  return items

/-- Takes the members of an object up to its brace; `member` takes the value under a key. The text
that remained at the start bounds their number. -/
def readMembersFrom {σ : Type} (member : String → σ → Reader σ) :
    (bound : Text) → (first : Bool) → (state : σ) → Reader σ
  | [], _, _ => failHere .endOfObject
  | _ :: bound, first, state => do
    if ← nextMember first then
      let key ← readKey
      let state ← member key state
      readMembersFrom member bound false state
    else return state

/-- Takes the members of an object up to its brace. -/
def readMembers {σ : Type} (member : String → σ → Reader σ) (state : σ) : Reader σ := do
  readMembersFrom member (← get).rest true state

/-! ## Any value -/

/-- Takes a value; lists and objects are left to two readers, at their opening bracket. -/
def readAny {α : Type} (scalar : Json → α) (list object : Reader α) : Reader α := do
  match ← peekToken with
  | none => failHere .endOfValue
  | some none => failNext .expectedValue
  | some (some c) =>
    if c = 'n' then
      readWord ['n', 'u', 'l', 'l']
      return scalar .null
    else if c = 't' then
      readWord ['t', 'r', 'u', 'e']
      return scalar (.bool true)
    else if c = 'f' then
      readWord ['f', 'a', 'l', 's', 'e']
      return scalar (.bool false)
    else if c = '-' || c.isDigit then return scalar (.number (← readNumber))
    else if c = '"' then
      advance
      return scalar (.string (← readString))
    else if c = '[' then list
    else if c = '\x7b' then object
    else failNext .expectedValue

/-- Takes a value in which lists and objects nest at most `depth` levels. -/
def readTree : (depth : Nat) → Reader Json
  | 0 => readAny id (failNext .tooDeep) (failNext .tooDeep)
  | depth + 1 =>
    readAny id
      (do
        advance
        return .array (← readItems (readTree depth)))
      (do
        advance
        let members ← readMembers (fun key members => do
          readColon
          return (key, ← readTree depth) :: members) []
        endObject
        return .object members.reverse)

/-- Fails because the value at the cursor has the wrong type. A scalar is reported behind itself, a
list or object in front of its bracket. -/
def failType {α : Type} (wanted : Wanted) : Reader α := do
  failHere (.wrongType (← readAny seen (return .sequence) (return .map)) wanted)

/-! ## Values that are not kept -/

/-- A list or object that is not at its end. -/
inductive Open where
  | list
  | object
deriving DecidableEq

/-- Moves from the end of a value to the next value in the lists and objects around it, dropping
the ends of those that end here. Gives those that are still open, or nothing at the end of all. -/
def skipEnds : List Open → Reader (Option (List Open))
  | [] => return none
  | .list :: around => do
    match ← peekToken with
    | none => failHere .endOfList
    | some g =>
      if g = some ',' then
        advance
        return some (.list :: around)
      else if g = some ']' then
        advance
        skipEnds around
      else failNext .expectedListEnd
  | .object :: around => do
    match ← peekToken with
    | none => failHere .endOfObject
    | some g =>
      if g = some ',' then
        advance
        return some (.object :: around)
      else if g = some '\x7d' then
        advance
        skipEnds around
      else failNext .expectedObjectEnd

/-- Drops a scalar, or the opening bracket of a list or object with its closing one if that comes
next. Gives the lists and objects that are open then, or nothing at the end of all. -/
def skipScalar (around : List Open) : Reader (Option (List Open)) := do
  match ← peekToken with
  | none => failHere .endOfValue
  | some none => failNext .expectedValue
  | some (some c) =>
    if c = 'n' then
      readWord ['n', 'u', 'l', 'l']
      skipEnds around
    else if c = 't' then
      readWord ['t', 'r', 'u', 'e']
      skipEnds around
    else if c = 'f' then
      readWord ['f', 'a', 'l', 's', 'e']
      skipEnds around
    else if c = '-' || c.isDigit then
      skipNumber
      skipEnds around
    else if c = '"' then
      advance
      skipString
      skipEnds around
    else if c = '[' then
      advance
      match ← peekToken with
      | none => failHere .endOfList
      | some g =>
        if g = some ']' then
          advance
          skipEnds around
        else return some (.list :: around)
    else if c = '\x7b' then
      advance
      match ← peekToken with
      | none => failHere .endOfObject
      | some g =>
        if g = some '\x7d' then
          advance
          skipEnds around
        else return some (.object :: around)
    else failNext .expectedValue

/-- Drops the key of a member and its colon. -/
def skipKey : Reader Unit := do
  match ← peekToken with
  | none => failHere .endOfObject
  | some g =>
    if g = some '"' then
      advance
      skipString
      readColon
    else failNext .keyNotString

/-- Drops a value and what remains of the lists and objects around it. The text that remained at
the start bounds the number of scalars and brackets. -/
def skipFrom : (bound : Text) → List Open → Reader Unit
  | [], _ => failHere .endOfValue
  | _ :: bound, around => do
    match ← skipScalar around with
    | none => return ()
    | some around =>
      if around.head? = some .object then skipKey
      skipFrom bound around

/-- Drops a value of any depth. -/
def skipValue : Reader Unit := do skipFrom (← get).rest []

/-! ## Whole texts -/

/-- Reads a whole text. -/
def parseAll {α : Type} (reader : Reader α) (text : Text) : Except Error α := do
  let run : Reader α := do
    let a ← reader
    if (← peekToken).isSome then failNext .trailingCharacters else return a
  return (← run.run (.start text)).1

/-- The number of levels that lists and objects may nest. -/
def depthLimit : Nat := 127

/-- Reads the text of a value. -/
def parse (text : Text) : Except Error Json := parseAll (readTree depthLimit) text

end Signoff.Json
