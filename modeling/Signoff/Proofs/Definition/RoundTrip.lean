import Signoff.Definition.Basic
import Signoff.Proofs.Instant.RoundTrip
import Signoff.Proofs.Json.Records

/-!
# Definitions read back

What is written for a definition is decoded as the definition, in whatever order the members stand
(`Definition.decode_toJson`), and so is what is written for a workflow (`Workflow.decode_toJson`).
The members that a workflow adds are unknown to a definition, so a workflow is decoded as its
definition as well (`Workflow.decode_definition`).
-/

namespace Signoff

open Json

variable {f : Json → Json} {origin : Origin}

theorem decode_text (rewrites : Rewrites f) (s : String) :
    Schema.text.decode origin (f (.string s)) = .ok s := by
  rw [rewrites.string]
  rfl

theorem Instant.decode_toJson (rewrites : Rewrites f) (t : Instant) :
    Schema.instant.decode origin (f t.toJson) = .ok t := by
  rw [Instant.toJson, rewrites.string, Schema.decode, Instant.parse_format]
  rfl

theorem Instant.decode_optional (rewrites : Rewrites f) (t : Instant) :
    (Schema.optional .instant).decode origin (f t.toJson) = .ok (some t) := by
  have inner : Schema.instant.decode origin (f t.toJson) = .ok t := decode_toJson rewrites t
  rw [toJson, rewrites.string] at inner ⊢
  show (Schema.instant.decode origin _).map some = _
  rw [inner]
  rfl

/-! ## Parts of a definition -/

theorem State.decode_toJson (rewrites : Rewrites f) (s : State) :
    State.schema.decode origin (f s.toJson) = .ok s := by
  refine rewrites.decode_record (a := (s.name, s.initial, s.terminal, ())) ?_ rfl ?_
  · cases s.initial <;> cases s.terminal <;> simp [DistinctKeys, memberIf]
  · simp only [Fields.Fits, Fields.need, Fields.orElse, lookup_map]
    cases s.initial <;> cases s.terminal <;>
      simp [memberIf, List.lookup_cons, rewrites.string, rewrites.bool, Schema.decode]

theorem RoleSet.ofList_toList (r : RoleSet) : RoleSet.ofList r.toList = r := by
  obtain ⟨⟨entries, increasing⟩⟩ := r
  have units : (entries.map (·.1)).map (fun role => (role, ())) = entries := by
    rw [List.map_map]
    exact List.map_id _
  show RoleSet.mk (Table.ofList ((entries.map (·.1)).map fun role => (role, ()))) = _
  simp only [units, Table.ofList, sortEntries_eq_self increasing]

theorem RoleSet.decode_toJson (rewrites : Rewrites f) (r : RoleSet) :
    RoleSet.schema.decode origin (f r.toJson) = .ok r := by
  show ((Schema.list .text).decode origin (f (.array (r.toList.map .string)))).map _ = _
  rw [rewrites.decode_list (decode_text rewrites), Except.map, RoleSet.ofList_toList]

theorem Schema.decode_orNull (origin : Origin) {α : Type} {schema : Schema α} {j : Json} {a : α}
    (h : schema.decode origin j = .ok a) (some_ : j ≠ .null) (default : α) :
    (schema.orNull default).decode origin j = .ok a := by
  show ((Schema.optional schema).decode origin j).map _ = _
  have inner : (Schema.optional schema).decode origin j = .ok (some a) := by
    rw [Schema.decode, h]
    · rfl
    · exact fun eq => some_ eq
  rw [inner]
  rfl

theorem Transition.decode_toJson (rewrites : Rewrites f) (t : Transition) :
    Transition.schema.decode origin (f t.toJson) = .ok t := by
  refine rewrites.decode_record (a := (t.source, t.target, t.event, t.roles, ())) ?_ rfl ?_
  · cases t.roles.isEmpty <;> simp [DistinctKeys, memberIf]
  · have roles := Schema.decode_orNull origin (RoleSet.decode_toJson rewrites t.roles)
      (rewrites.array_ne_null _) .empty
    have none_ (h : t.roles.isEmpty = true) : RoleSet.empty = t.roles :=
      (congrArg RoleSet.mk (Table.eq_empty_of_isEmpty h)).symm
    simp only [Fields.Fits, Fields.need, Fields.orElse, lookup_map]
    cases h : t.roles.isEmpty <;>
      simp [memberIf, List.lookup_cons, decode_text rewrites, roles, h, none_]

theorem Reapproval.decode_toJson (rewrites : Rewrites f) (r : Reapproval) :
    Reapproval.schema.decode origin (f r.toJson) = .ok r := by
  refine rewrites.decode_record (a := (r.after, r.target, ())) ?_ rfl ?_
  · simp [DistinctKeys]
  · simp [Fields.Fits, Fields.need, List.lookup_cons, decode_text rewrites]

/-! ## Tables of texts -/

/-- The members of a table with strings. -/
def Table.members (t : Table String String) : List (String × Json) :=
  t.entries.map fun (key, value) => (key, .string value)

theorem Table.rewrites_members (rewrites : Rewrites f) (t : Table String String) :
    f (.object t.members) = .object (t.entries.map fun x => (x.1, f (.string x.2))) := by
  have increasing : Increasing t.members := List.pairwise_map.2 t.increasing
  rw [rewrites.table _ increasing, Table.members, List.map_map]
  rfl

theorem Table.decode_members (rewrites : Rewrites f) (t : Table String String) :
    (Schema.map Table.ofList (.table .text)).decode origin (f (.object t.members)) = .ok t := by
  have entries : (Schema.table .text).decode origin
      (.object (t.entries.map fun x => (x.1, f (.string x.2)))) = .ok t.entries :=
    Schema.decode_table (decode_text rewrites) t.entries
  rw [t.rewrites_members rewrites]
  show ((Schema.table .text).decode origin _).map Table.ofList = _
  rw [entries]
  simp only [Except.map, Table.ofList, sortEntries_eq_self t.increasing]

/-! ## Whole definitions -/

namespace Definition

/-- The fields of a definition in their order. -/
def toFields (d : Definition) : FieldTypes :=
  (d.name, d.states, d.transitions, d.deadlines, d.reapproval, ())

theorem distinctKeys_members (d : Definition) : DistinctKeys d.members := by
  unfold members
  cases d.deadlines.isEmpty <;> cases d.reapproval <;> simp [DistinctKeys, memberIf, memberOf?]

theorem fits_members (rewrites : Rewrites f) (d : Definition) :
    fields.Fits origin (d.members.map fun x => (x.1, f x.2)) d.toFields := by
  have states := Schema.decode_orNull origin
    (rewrites.decode_list (State.decode_toJson rewrites) d.states)
    (rewrites.array_ne_null _) []
  have transitions := Schema.decode_orNull origin
    (rewrites.decode_list (Transition.decode_toJson rewrites) d.transitions)
    (rewrites.array_ne_null _) []
  have deadlines := Schema.decode_orNull origin (Table.decode_members rewrites d.deadlines)
    (by simp [Table.rewrites_members rewrites]) .empty
  have noDeadlines (h : d.deadlines.isEmpty = true) : Table.empty = d.deadlines :=
    (Table.eq_empty_of_isEmpty h).symm
  have reapproval (r : Reapproval) : (Schema.optional Reapproval.schema).decode origin
      (f r.toJson) = .ok (some r) := by
    rw [Schema.decode, Reapproval.decode_toJson rewrites]
    · rfl
    · intro null
      have read : Reapproval.schema.decode origin (f r.toJson) = .ok r :=
        Reapproval.decode_toJson rewrites r
      rw [null] at read
      cases read
  simp only [Fields.Fits, fields, Fields.orElse, lookup_map, members, toFields]
  refine ⟨?_, ?_, ?_, ?_, ?_, trivial⟩
  · simp [decode_text rewrites]
  · simpa [List.lookup_cons] using states
  · simpa [List.lookup_cons] using transitions
  · cases h : d.deadlines.isEmpty
    · simpa [List.lookup_cons, List.lookup_append, Table.members] using deadlines
    · simpa [List.lookup_cons, List.lookup_append] using noDeadlines h
  · cases h : d.reapproval
    · simp [List.lookup_cons, List.lookup_append]
    · simpa [List.lookup_cons, List.lookup_append] using reapproval _

/-- A definition is decoded from what is written for it. -/
theorem decode_toJson (rewrites : Rewrites f) (d : Definition) :
    schema.decode origin (f d.toJson) = .ok d :=
  rewrites.decode_record d.distinctKeys_members rfl (d.fits_members rewrites)

end Definition

/-! ## Workflows -/

namespace Workflow

/-- The members that a workflow adds to those of its definition. -/
def ownFields : Fields (Option String × Option Instant × Unit) (String × Instant × Unit) :=
  .orElse "id" "" .text <| .need "createdAt" .instant .nil

/-- The members of a workflow. -/
def members (w : Workflow) : List (String × Json) :=
  memberIf (!w.id.isEmpty) "id" (.string w.id) ++ w.definition.members ++
    [("createdAt", w.createdAt.toJson)]

theorem toJson_eq (w : Workflow) : w.toJson = .object w.members := rfl

theorem defined_iff (key : String) : Definition.fields.hasKey key = true ↔
    key = "name" ∨ key = "states" ∨ key = "transitions" ∨ key = "sla" ∨ key = "reapproval" := by
  simp [Definition.fields, Fields.orElse, Fields.hasKey]

/-- No field of a definition has the key of a member that a workflow adds. -/
theorem own_apart (key : String) (h : Definition.fields.hasKey key = true) :
    ownFields.hasKey key = false := by
  rcases (defined_iff key).1 h with rfl | rfl | rfl | rfl | rfl <;> rfl

theorem lookup_members {key : String} (h : Definition.fields.hasKey key = true) (w : Workflow) :
    w.members.lookup key = w.definition.members.lookup key := by
  rcases (defined_iff key).1 h with rfl | rfl | rfl | rfl | rfl <;>
    simp [members, List.lookup_append, List.lookup_cons]

theorem distinctKeys_members (w : Workflow) : DistinctKeys w.members := by
  unfold members Definition.members
  cases w.id.isEmpty <;> cases w.definition.deadlines.isEmpty <;> cases w.definition.reapproval <;>
    simp [DistinctKeys, memberIf, memberOf?]

theorem fits_definition (rewrites : Rewrites f) (w : Workflow) :
    Definition.fields.Fits origin (w.members.map fun x => (x.1, f x.2)) w.definition.toFields :=
  (w.definition.fits_members rewrites).congr fun key h => by
    rw [lookup_map, lookup_map, w.lookup_members h]

theorem fits_own (rewrites : Rewrites f) (w : Workflow) :
    ownFields.Fits origin (w.members.map fun x => (x.1, f x.2)) (w.id, w.createdAt, ()) := by
  simp only [Fields.Fits, ownFields, Fields.orElse, Fields.need, lookup_map, members]
  refine ⟨?_, ?_, trivial⟩
  · cases h : w.id.isEmpty
    · simp [List.lookup_append, decode_text rewrites]
    · simp [List.lookup_append, List.lookup_cons, Definition.members, String.isEmpty_iff.1 h]
  · simp [List.lookup_append, Definition.members, List.lookup_cons, Instant.decode_toJson rewrites]

/-- A workflow is decoded from what is written for it. -/
theorem decode_toJson (rewrites : Rewrites f) (w : Workflow) :
    schema.decode origin (f w.toJson) = .ok w := by
  obtain ⟨members', eq, distinct, fits⟩ := rewrites.fits w.distinctKeys_members
  rw [w.toJson_eq, eq]
  exact Schema.decode_flattened (fits (w.fits_own rewrites)) (fits (w.fits_definition rewrites))
    rfl rfl own_apart distinct _ _

/-- A workflow is decoded as its definition from what is written for it. -/
theorem decode_definition (rewrites : Rewrites f) (w : Workflow) :
    Definition.schema.decode origin (f w.toJson) = .ok w.definition := by
  rw [w.toJson_eq]
  exact rewrites.decode_record w.distinctKeys_members rfl (w.fits_definition rewrites)

end Workflow

end Signoff
