import Signoff.Json.Error
/-!
# Schemas

A schema says how a Lean value is written in JSON. The same schema reads it from a value in memory
(`Schema.decode`) and from text (`Schema.read`).

A record is written as an object, whose members may come in any order among members that are not
known, or as a list of its fields in order. `Fields` are the fields of a record, indexed by the type
of the slots that collect them and by the type of the complete fields.
-/

namespace Signoff.Json

mutual

/-- How a value of a type is written. -/
inductive Schema : Type → Type 1 where
  /-- Any JSON. -/
  | any : Schema Json
  /-- A string. -/
  | text : Schema String
  /-- A boolean. -/
  | flag : Schema Bool
  /-- A natural number below a limit. -/
  | natural (typeName : String) (limit : Nat) : Schema (Fin limit)
  /-- A timestamp in a string. -/
  | instant : Schema Instant
  /-- One of some names; an object with the name as its only key and null under it will do. -/
  | choice {α : Type} (names : List (String × α)) : Schema α
  /-- A value or null. -/
  | optional {α : Type} (schema : Schema α) : Schema (Option α)
  /-- A list. -/
  | list {α : Type} (schema : Schema α) : Schema (List α)
  /-- An object with any keys. -/
  | table {α : Type} (schema : Schema α) : Schema (List (String × α))
  /-- A record. -/
  | record {π σ α : Type} (title : String) (fields : Fields π σ) (build : σ → α) : Schema α
  /-- A record whose object also holds the fields of a second record. -/
  | flattened {π σ π' σ' α : Type} (title : String) (own : Fields π σ) (inner : Fields π' σ')
      (build : σ → σ' → α) : Schema α
  /-- A function of a value that is written. -/
  | map {α β : Type} (f : α → β) (schema : Schema α) : Schema β

/-- The fields of a record: `missing` stands in for a field that an object lacks, and `short` for
one that a list is too short to have. -/
inductive Fields : Type → Type → Type 1 where
  | nil : Fields Unit Unit
  | cons {α π σ : Type} (key : String) (schema : Schema α) (missing short : Option α)
      (rest : Fields π σ) : Fields (Option α × π) (α × σ)

end

namespace Fields

/-- The number of fields. -/
def size : {π σ : Type} → Fields π σ → Nat
  | _, _, .nil => 0
  | _, _, .cons _ _ _ _ rest => rest.size + 1

/-- The slots before any field is known. -/
def empty : {π σ : Type} → Fields π σ → π
  | _, _, .nil => ()
  | _, _, .cons _ _ _ _ rest => (none, rest.empty)

/-- The complete fields, if every field is known or can be missing. -/
def finish : {π σ : Type} → Fields π σ → π → Except Problem σ
  | _, _, .nil, _ => .ok ()
  | _, _, .cons key _ missing _ rest, (slot, slots) =>
    match slot <|> missing with
    | some a => (rest.finish slots).map (a, ·)
    | none => .error (.missingField key)

end Fields

/-- Where a value in memory comes from: it was given as such, or it was set aside while a text or a
value was being read. -/
inductive Origin where
  | given
  | buffered
deriving DecidableEq

/-- The problem with a list that has more items than fields. -/
def Origin.tooMany (origin : Origin) (length fields : Nat) : Problem :=
  match origin with
  | .given => .wrongLength length .fewerElements
  | .buffered => .wrongLength length (.bufferedElements fields)

/-- The value with a name. -/
def chosen {α : Type} (names : List (String × α)) (name : String) : Except Problem α :=
  match names.lookup name with
  | some a => .ok a
  | none => .error (.unknownName name (names.map (·.1)))

/-- Collects members in slots; `member` says what to do with a key, if it is known. -/
def decodeMembers {π : Type} (member : String → π → Json → Option (Except Problem π)) :
    List (String × Json) → π → Except Problem π
  | [], slots => .ok slots
  | (key, j) :: rest, slots =>
    match member key slots j with
    | none => decodeMembers member rest slots
    | some (.ok slots) => decodeMembers member rest slots
    | some (.error p) => .error p

mutual

/-- Reads a value in memory. -/
def Schema.decode : {α : Type} → Schema α → Origin → Json → Except Problem α
  | _, .any, _, j => .ok j
  | _, .text, _, j =>
    match j with
    | .string s => .ok s
    | _ => .error (.wrongType j.seen .string)
  | _, .flag, _, j =>
    match j with
    | .bool b => .ok b
    | _ => .error (.wrongType j.seen .boolean)
  | _, .natural typeName limit, _, j =>
    match j with
    | .number (.whole n _) =>
      if h : 0 ≤ n ∧ n.toNat < limit then .ok ⟨n.toNat, h.2⟩
      else .error (.wrongValue j.seen (.natural typeName))
    | _ => .error (.wrongType j.seen (.natural typeName))
  | _, .instant, _, j =>
    match j with
    | .string s => (Instant.parse s).mapError .timestamp
    | _ => .error (.wrongType j.seen .timestamp)
  | _, .choice names, _, j =>
    match j with
    | .string s => chosen names s
    | .object [(key, j)] => do
      let a ← chosen names key
      match j with
      | .null => .ok a
      | _ => .error (.wrongType j.seen .unit)
    | .object _ => .error (.wrongValue .map .singleKey)
    | _ => .error (.wrongType j.seen .stringOrMap)
  | _, .optional schema, origin, j =>
    match j with
    | .null => .ok none
    | _ => (schema.decode origin j).map some
  | _, .list schema, origin, j =>
    match j with
    | .array items => items.mapM fun j => schema.decode origin j
    | _ => .error (.wrongType j.seen .sequence)
  | _, .table schema, origin, j =>
    match j with
    | .object members =>
      members.mapM fun x => (schema.decode origin x.2).map fun a => (x.1, a)
    | _ => .error (.wrongType j.seen .map)
  | _, .record title fields build, origin, j =>
    match j with
    | .object members => do
      let slots ← decodeMembers (fields.decodeMember origin) members fields.empty
      (fields.finish slots).map build
    | .array items => do
      let (a, rest) ← fields.decodeItems origin title fields.size 0 items
      if rest.isEmpty then .ok (build a) else .error (origin.tooMany items.length fields.size)
    | _ => .error (.wrongType j.seen (.record title))
  | _, .flattened title own inner build, origin, j =>
    match j with
    | .object members => do
      let slots ← decodeMembers (own.decodeMember origin) members own.empty
      let a ← own.finish slots
      let others := members.filter fun x => !own.hasKey x.1
      let slots ← decodeMembers (inner.decodeMember .buffered) others inner.empty
      (inner.finish slots).map (build a)
    | _ => .error (.wrongType j.seen (.record title))
  | _, .map f schema, origin, j => (schema.decode origin j).map f

/-- The fields include one with a key. -/
def Fields.hasKey : {π σ : Type} → Fields π σ → String → Bool
  | _, _, .nil, _ => false
  | _, _, .cons key _ _ _ rest, k => k == key || rest.hasKey k

/-- Reads the member with a key into its slot, if a field has the key. -/
def Fields.decodeMember : {π σ : Type} → Fields π σ → Origin → String → π → Json →
    Option (Except Problem π)
  | _, _, .nil, _, _, _, _ => none
  | _, _, .cons key schema _ _ rest, origin, k, (slot, slots), j =>
    if k = key then
      if slot.isSome then some (.error (.duplicateField key))
      else some ((schema.decode origin j).map fun a => (some a, slots))
    else (rest.decodeMember origin k slots j).map fun r => r.map fun slots => (slot, slots)

/-- Reads fields from the items of a list, of which the first is item number `index`, and gives the
items beyond them. -/
def Fields.decodeItems : {π σ : Type} → Fields π σ → Origin → (title : String) →
    (total index : Nat) → List Json → Except Problem (σ × List Json)
  | _, _, .nil, _, _, _, _, items => .ok ((), items)
  | _, _, .cons _ _ _ short rest, origin, title, total, index, [] => do
    match short with
    | some a =>
      let (r, items) ← rest.decodeItems origin title total (index + 1) []
      .ok ((a, r), items)
    | none => .error (.wrongLength index (.elements title total))
  | _, _, .cons _ schema _ _ rest, origin, title, total, index, j :: items => do
    let a ← schema.decode origin j
    let (r, items) ← rest.decodeItems origin title total (index + 1) items
    .ok ((a, r), items)

end

/-- Reads a kept value. -/
def Schema.ofValue {α : Type} (schema : Schema α) (v : Value) : Except Error α :=
  (schema.decode .given v.json).mapError fun p => ⟨p, none⟩

end Signoff.Json
