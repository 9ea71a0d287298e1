import Signoff.Json.Schema.Fields
import Signoff.Proofs.Action

/-!
# What a record is decoded from

A record is decoded from an object that has one member for each field, or none for a field that may
be missing, among members that no field knows (`Fields.Told`), or from a list of its fields in order
(`Fields.Listed`). From nothing else is it decoded (`Schema.decode_record_iff`). Members in any
order say the same, and so do any members beside them, but a field may not be told twice.

* `SlotAfter`: what becomes of the slot of one field.
* `Names`: what one of some names is decoded from.
-/

namespace Signoff.Json

variable {α β π σ : Type} {origin : Origin}

/-! ## Members one after the other -/

/-- Members are decoded one after the other; one that is not known changes nothing. -/
theorem decodeMembers_cons_eq (member : String → π → Json → Option (Except Problem π))
    (key : String) (j : Json) (members : List (String × Json)) (slots : π) :
    decodeMembers member ((key, j) :: members) slots =
      (member key slots j).getD (.ok slots) >>= decodeMembers member members := by
  rw [decodeMembers]
  rcases member key slots j with _ | _ | _ <;> rfl

theorem decodeMembers_append (member : String → π → Json → Option (Except Problem π))
    (members others : List (String × Json)) (slots : π) :
    decodeMembers member (members ++ others) slots =
      decodeMembers member members slots >>= decodeMembers member others := by
  induction members generalizing slots with
  | nil => rfl
  | cons x members ih =>
    obtain ⟨key, j⟩ := x
    rw [List.cons_append, decodeMembers_cons_eq, decodeMembers_cons_eq, bind_assoc]
    exact congrArg _ (funext ih)

theorem decodeMembers_nil (members : List (String × Json)) (slots : Unit) :
    decodeMembers (Fields.nil.decodeMember origin) members slots = .ok () := by
  induction members with
  | nil => rfl
  | cons x members ih => exact ih

/-- No two fields have the same key. -/
def Fields.distinct : {π σ : Type} → Fields π σ → Bool
  | _, _, .nil => true
  | _, _, .cons key _ _ _ rest => !rest.hasKey key && rest.distinct

theorem Fields.decodeMember_eq_none_iff : {π σ : Type} → (fields : Fields π σ) → {key : String} →
    {slots : π} → {j : Json} →
    (fields.decodeMember origin key slots j = none ↔ fields.hasKey key = false)
  | _, _, .nil, _, _, _ => ⟨fun _ => rfl, fun _ => rfl⟩
  | _, _, .cons key' _ _ _ rest, key, (slot, slots), j => by
    unfold Fields.decodeMember Fields.hasKey
    by_cases same : key = key'
    · rw [if_pos same]
      constructor
      · intro h
        split at h <;> cases h
      · simp [same]
    · rw [if_neg same, Option.map_eq_none_iff, rest.decodeMember_eq_none_iff]
      simp [same]

/-! ## Members by the keys of fields -/

/-- The only member under the key is the value. -/
def Only (members : List (String × Json)) (key : String) (j : Json) : Prop :=
  members.filter (fun x => x.1 == key) = [(key, j)]

/-- No member is under the key. -/
def Lacks (members : List (String × Json)) (key : String) : Prop :=
  members.filter (fun x => x.1 == key) = []

/-- What is in the slot of a field behind the members is what was in front of them, if no member has
the key of the field, or what the only member decodes to that has it. -/
def SlotAfter (origin : Origin) (key : String) (schema : Schema α)
    (members : List (String × Json)) (slot slot' : Option α) : Prop :=
  Lacks members key ∧ slot' = slot ∨
    slot = none ∧ ∃ j a, Only members key j ∧ schema.decode origin j = .ok a ∧ slot' = some a

theorem slotAfter_same {key : String} {schema : Schema α} {j : Json}
    {members : List (String × Json)} {slot slot' : Option α} :
    SlotAfter origin key schema ((key, j) :: members) slot slot' ↔
      slot = none ∧ ∃ a, schema.decode origin j = .ok a ∧
        SlotAfter origin key schema members (some a) slot' := by
  unfold SlotAfter Lacks Only
  rw [List.filter_cons_of_pos (by simp)]
  constructor
  · rintro (⟨h, -⟩ | ⟨rfl, j', a, h, eq, rfl⟩)
    · cases h
    · injection h with head tail
      obtain rfl := (Prod.mk.inj head).2
      exact ⟨rfl, a, eq, .inl ⟨tail, rfl⟩⟩
  · rintro ⟨rfl, a, eq, ⟨h, rfl⟩ | ⟨h, -⟩⟩
    · exact .inr ⟨rfl, j, a, by rw [h], eq, rfl⟩
    · cases h

theorem slotAfter_other {key k : String} (other : k ≠ key) {schema : Schema α} {j : Json}
    {members : List (String × Json)} {slot slot' : Option α} :
    SlotAfter origin key schema ((k, j) :: members) slot slot' ↔
      SlotAfter origin key schema members slot slot' := by
  unfold SlotAfter Lacks Only
  rw [List.filter_cons_of_neg (by simpa using other)]

/-- The members are decoded for the first field and for the others alike. -/
theorem decodeMembers_cons_iff {key : String} {schema : Schema α} {missing short : Option α}
    {rest : Fields π σ} (fresh : rest.hasKey key = false) {members : List (String × Json)}
    {slot slot' : Option α} {slots slots' : π} :
    decodeMembers ((Fields.cons key schema missing short rest).decodeMember origin) members
        (slot, slots) = .ok (slot', slots') ↔
      SlotAfter origin key schema members slot slot' ∧
        decodeMembers (rest.decodeMember origin) members slots = .ok slots' := by
  induction members generalizing slot slots with
  | nil =>
    simp [decodeMembers, SlotAfter, Lacks, Only, eq_comm]
  | cons x members ih =>
    obtain ⟨k, j⟩ := x
    rw [decodeMembers_cons_eq, decodeMembers_cons_eq, bind_eq_ok, bind_eq_ok]
    by_cases same : k = key
    · subst same
      have first : (Fields.cons k schema missing short rest).decodeMember origin k (slot, slots) j =
          some (if slot.isSome then .error (.duplicateField k)
            else (schema.decode origin j).map fun a => (some a, slots)) := by
        rw [Fields.decodeMember, if_pos rfl]
        split <;> rfl
      rw [first, rest.decodeMember_eq_none_iff.2 fresh, slotAfter_same]
      cases slot with
      | some a => simp
      | none =>
        cases schema.decode origin j with
        | error p => simp [Except.map]
        | ok a => simp [Except.map, ih]
    · have others : (Fields.cons key schema missing short rest).decodeMember origin k
          (slot, slots) j =
            (rest.decodeMember origin k slots j).map fun r => r.map fun slots => (slot, slots) := by
        rw [Fields.decodeMember, if_neg same]
      rw [others, slotAfter_other same]
      rcases rest.decodeMember origin k slots j with _ | p | slots₁
      · simp [ih]
      · simp [Except.map]
      · simp [Except.map, ih]

/-- The members say what the fields are: for each there is one member with its key, which decodes as
the field, or there is none, and the field may be missing. -/
def Fields.Told (origin : Origin) : {π σ : Type} → Fields π σ → List (String × Json) → σ → Prop
  | _, _, .nil, _, _ => True
  | _, _, .cons key schema missing _ rest, members, (a, b) =>
    (Lacks members key ∧ missing = some a ∨
      ∃ j, Only members key j ∧ schema.decode origin j = .ok a) ∧ rest.Told origin members b

/-- So do the items of a list, one for each field up to some that it may be too short to have. -/
def Fields.Listed (origin : Origin) : {π σ : Type} → Fields π σ → List Json → σ → Prop
  | _, _, .nil, items, _ => items = []
  | _, _, .cons _ _ _ short rest, [], (a, b) => short = some a ∧ rest.Listed origin [] b
  | _, _, .cons _ schema _ _ rest, j :: items, (a, b) =>
    schema.decode origin j = .ok a ∧ rest.Listed origin items b

theorem Fields.finish_cons_iff {key : String} {schema : Schema α} {missing short : Option α}
    {rest : Fields π σ} {slot : Option α} {slots : π} {a : α} {b : σ} :
    (Fields.cons key schema missing short rest).finish (slot, slots) = .ok (a, b) ↔
      (slot <|> missing) = some a ∧ rest.finish slots = .ok b := by
  rw [Fields.finish]
  cases slot <|> missing with
  | none => simp
  | some a' => cases rest.finish slots <;> simp [Except.map]

/-- A field is known from its slot or by what stands in for it. -/
theorem slotAfter_none {key : String} {schema : Schema α} {members : List (String × Json)}
    {missing : Option α} {a : α} :
    (∃ slot, SlotAfter origin key schema members none slot ∧ (slot <|> missing) = some a) ↔
      (Lacks members key ∧ missing = some a ∨
        ∃ j, Only members key j ∧ schema.decode origin j = .ok a) := by
  constructor
  · rintro ⟨slot, ⟨lacks, rfl⟩ | ⟨-, j, a', only, eq, rfl⟩, known⟩
    · exact .inl ⟨lacks, known⟩
    · obtain rfl : a' = a := Option.some.inj known
      exact .inr ⟨j, only, eq⟩
  · rintro (⟨lacks, known⟩ | ⟨j, only, eq⟩)
    · exact ⟨none, .inl ⟨lacks, rfl⟩, known⟩
    · exact ⟨some a, .inr ⟨rfl, j, a, only, eq, rfl⟩, rfl⟩

theorem Fields.told_iff : {π σ : Type} → {fields : Fields π σ} → fields.distinct = true →
    {members : List (String × Json)} → {a : σ} →
    ((∃ slots, decodeMembers (fields.decodeMember origin) members fields.empty = .ok slots ∧
      fields.finish slots = .ok a) ↔ fields.Told origin members a)
  | _, _, .nil, _, members, _ => iff_of_true ⟨(), decodeMembers_nil members (), rfl⟩ trivial
  | _, _, .cons key schema missing short rest, differ, members, (a, b) => by
    rw [Fields.distinct, Bool.and_eq_true, Bool.not_eq_true'] at differ
    unfold Fields.Told
    rw [← slotAfter_none, ← told_iff differ.2]
    constructor
    · rintro ⟨⟨slot, slots⟩, eq, done⟩
      obtain ⟨first, others⟩ := (decodeMembers_cons_iff differ.1).1 eq
      obtain ⟨known, done⟩ := Fields.finish_cons_iff.1 done
      exact ⟨⟨slot, first, known⟩, slots, others, done⟩
    · rintro ⟨⟨slot, first, known⟩, slots, others, done⟩
      exact ⟨(slot, slots), (decodeMembers_cons_iff differ.1).2 ⟨first, others⟩,
        Fields.finish_cons_iff.2 ⟨known, done⟩⟩

theorem Fields.listed_iff : {π σ : Type} → (fields : Fields π σ) → (title : String) →
    (total index : Nat) → {items : List Json} → {a : σ} →
    (fields.decodeItems origin title total index items = .ok (a, []) ↔ fields.Listed origin items a)
  | _, _, .nil, _, _, _, items, _ => by
    unfold Fields.decodeItems Fields.Listed
    simp
  | _, _, .cons key schema missing short rest, title, total, index, [], (a, b) => by
    unfold Fields.decodeItems Fields.Listed
    rw [← rest.listed_iff title total (index + 1)]
    cases short with
    | none => simp
    | some a' =>
      dsimp only
      rw [bind_eq_ok]
      constructor
      · rintro ⟨⟨r, items⟩, eq, last⟩
        cases last
        exact ⟨rfl, eq⟩
      · rintro ⟨same, eq⟩
        cases same
        exact ⟨_, eq, rfl⟩
  | _, _, .cons key schema missing short rest, title, total, index, j :: items, (a, b) => by
    unfold Fields.decodeItems Fields.Listed
    rw [← rest.listed_iff title total (index + 1), bind_eq_ok]
    constructor
    · rintro ⟨a', here, there⟩
      obtain ⟨⟨r, others⟩, eq, last⟩ := bind_eq_ok.1 there
      cases last
      exact ⟨here, eq⟩
    · rintro ⟨here, eq⟩
      exact ⟨a, here, bind_eq_ok.2 ⟨_, eq, rfl⟩⟩

/-- What a record is decoded from: an object whose members say what its fields are, or a list whose
items do. -/
theorem Schema.decode_record_iff {fields : Fields π σ} (differ : fields.distinct = true)
    {title : String} {build : σ → α} {j : Json} {a : α} :
    (Schema.record title fields build).decode origin j = .ok a ↔ ∃ b, build b = a ∧
      ((∃ members, j = .object members ∧ fields.Told origin members b) ∨
        ∃ items, j = .array items ∧ fields.Listed origin items b) := by
  unfold Schema.decode
  constructor
  · intro h
    split at h
    · obtain ⟨slots, eq, done⟩ := bind_eq_ok.1 h
      obtain ⟨b, there, rfl⟩ := map_eq_ok.1 done
      exact ⟨b, rfl, .inl ⟨_, rfl, (Fields.told_iff differ).1 ⟨slots, eq, there⟩⟩⟩
    · obtain ⟨⟨b, others⟩, eq, done⟩ := bind_eq_ok.1 h
      dsimp only at done
      split at done
      · rename_i none_
        obtain rfl := List.isEmpty_iff.1 none_
        cases done
        exact ⟨b, rfl, .inr ⟨_, rfl, (fields.listed_iff _ _ _).1 eq⟩⟩
      · cases done
    · cases h
  · rintro ⟨b, rfl, ⟨members, rfl, told⟩ | ⟨items, rfl, listed⟩⟩
    · obtain ⟨slots, eq, done⟩ := (Fields.told_iff differ).2 told
      exact bind_eq_ok.2 ⟨slots, eq, map_eq_ok.2 ⟨b, done, rfl⟩⟩
    · exact bind_eq_ok.2 ⟨(b, []), (fields.listed_iff _ _ _).2 listed, rfl⟩

/-- The value names an entry: its name stands in a string, or as the only key of an object with null
under it. -/
def Names (names : List (String × α)) (j : Json) (a : α) : Prop :=
  ∃ name, names.lookup name = some a ∧ (j = .string name ∨ j = .object [(name, .null)])

theorem chosen_eq_ok {names : List (String × α)} {name : String} {a : α} :
    chosen names name = .ok a ↔ names.lookup name = some a := by
  unfold chosen
  cases names.lookup name <;> simp

theorem Schema.decode_choice_iff {names : List (String × α)} {j : Json} {a : α} :
    (Schema.choice names).decode origin j = .ok a ↔ Names names j a := by
  unfold Schema.decode Names
  constructor
  · intro h
    split at h
    · exact ⟨_, chosen_eq_ok.1 h, .inl rfl⟩
    · obtain ⟨a', named, h⟩ := bind_eq_ok.1 h
      split at h
      · cases h
        exact ⟨_, chosen_eq_ok.1 named, .inr rfl⟩
      · cases h
    · cases h
    · cases h
  · rintro ⟨name, named, rfl | rfl⟩
    · exact chosen_eq_ok.2 named
    · exact bind_eq_ok.2 ⟨a, chosen_eq_ok.2 named, rfl⟩

theorem Schema.decode_text_iff {j : Json} {s : String} :
    Schema.text.decode origin j = .ok s ↔ j = .string s := by
  unfold Schema.decode
  cases j <;> simp

theorem Schema.decode_value_iff {j : Json} {v : Value} :
    Schema.value.decode origin j = .ok v ↔ v = .ofJson j := by
  show Except.ok (Value.ofJson j) = .ok v ↔ _
  rw [Except.ok.injEq]
  exact eq_comm

end Signoff.Json
