import Signoff.Document
import Signoff.Proofs.Definition.RoundTrip
import Signoff.Proofs.Json.Schema

/-!
# Records read back from their text

The pretty text of a workflow is read as the workflow (`Workflow.ofText_pretty`). So is that of a
document whose data has integers only and leaves room for the object of the document around it
(`Document.ofText_pretty`); data that nests as deep as a reader allows, or deeper, is written all
the same and refused when the document is read (`Document.refuses_pretty`).
-/

namespace Signoff

open Json

variable {f : Json → Json} {origin : Origin}

/-! ## Documents -/

namespace Document

/-- The members of a document in front of its data. -/
def firstMembers (d : Document) : List (String × Json) :=
  [("id", .string d.id), ("workflowId", .string d.workflowId), ("current", .string d.current)]

/-- The members of a document behind its data. -/
def lastMembers (d : Document) : List (String × Json) :=
  [("createdAt", d.createdAt.toJson), ("updatedAt", d.updatedAt.toJson)] ++
    memberOf? "dueAt" Instant.toJson d.dueAt ++
    memberOf? "nextReapproval" Instant.toJson d.nextReapproval

/-- The members of a document. -/
def members (d : Document) : List (String × Json) :=
  d.firstMembers ++ (memberIf (!d.data.isNull) "data" d.data.json ++ d.lastMembers)

theorem toJson_eq (d : Document) : d.toJson = .object d.members := by
  simp only [toJson, members, firstMembers, lastMembers, List.append_assoc]

/-- The fields of a document. -/
def fields : Fields
    (Option String × Option String × Option String × Option Value × Option Instant ×
      Option Instant × Option (Option Instant) × Option (Option Instant) × Unit)
    (String × String × String × Value × Instant × Instant × Option Instant × Option Instant ×
      Unit) :=
  .orElse "id" "" .text <| .need "workflowId" .text <| .need "current" .text <|
    .orElse "data" .null .value <| .need "createdAt" .instant <| .need "updatedAt" .instant <|
    .orElse "dueAt" none (.optional .instant) <|
    .orElse "nextReapproval" none (.optional .instant) .nil

theorem distinctKeys_members (d : Document) : DistinctKeys d.members := by
  unfold members firstMembers lastMembers
  cases d.data.isNull <;> cases d.dueAt <;> cases d.nextReapproval <;>
    simp [DistinctKeys, memberIf, memberOf?]

theorem fits_members (rewrites : Rewrites f) {d : Document} (kept : f d.data.json = d.data.json) :
    fields.Fits origin (d.members.map fun x => (x.1, f x.2))
      (d.id, d.workflowId, d.current, d.data, d.createdAt, d.updatedAt, d.dueAt, d.nextReapproval,
        ()) := by
  have time (t : Instant) : Schema.instant.decode origin (f t.toJson) = .ok t :=
    Instant.decode_toJson rewrites t
  have value : Schema.value.decode origin (f d.data.json) = .ok d.data := by
    rw [kept, Schema.decode_value]
  simp only [Fields.Fits, fields, Fields.orElse, Fields.need, lookup_map, members, firstMembers,
    lastMembers]
  refine ⟨?_, ?_, ?_, ?_, ?_, ?_, ?_, ?_, trivial⟩
  · simp [decode_text rewrites]
  · simp [List.lookup_cons, decode_text rewrites]
  · simp [List.lookup_cons, decode_text rewrites]
  · cases h : d.data.isNull
    · simp [List.lookup_cons, List.lookup_append, value]
    · simp [List.lookup_cons, List.lookup_append, Value.isNull_iff.1 h]
  · simp [List.lookup_cons, List.lookup_append, time]
  · simp [List.lookup_cons, List.lookup_append, time]
  · cases d.dueAt <;>
      simp [List.lookup_cons, List.lookup_append, Instant.decode_optional rewrites]
  · cases d.nextReapproval <;>
      simp [List.lookup_cons, List.lookup_append, Instant.decode_optional rewrites]

/-- A document is decoded from what is written for it, in whatever order its members stand. -/
theorem decode_toJson (rewrites : Rewrites f) {d : Document} (kept : f d.data.json = d.data.json) :
    schema.decode origin (f d.toJson) = .ok d := by
  rw [toJson_eq]
  exact rewrites.decode_record d.distinctKeys_members rfl (fits_members rewrites kept)

/-- A document has no numbers but those of its data. -/
theorem whole_toJson {d : Document} : d.toJson.Whole ↔ d.data.json.Whole := by
  rw [toJson_eq, Json.Whole, members, wholeMembers_append, wholeMembers_append]
  have first : WholeMembers d.firstMembers := by simp [firstMembers, WholeMembers, Json.Whole]
  have last : WholeMembers d.lastMembers := by
    cases h : d.dueAt <;> cases h' : d.nextReapproval <;>
      simp [lastMembers, h, h', memberOf?, WholeMembers, Json.Whole, Instant.toJson]
  cases h : d.data.isNull with
  | false => simp [first, last, memberIf, WholeMembers]
  | true => simp [first, last, memberIf, WholeMembers, Json.Whole, Value.isNull_iff.1 h, Value.null]

theorem depthMembers_lastMembers (d : Document) : depthMembers d.lastMembers = 0 := by
  cases h : d.dueAt <;> cases h' : d.nextReapproval <;>
    simp [lastMembers, h, h', memberOf?, depthMembers, depth, Instant.toJson]

/-- A document nests one level deeper than its data. -/
theorem depth_toJson (d : Document) : d.toJson.depth = d.data.json.depth + 1 := by
  rw [toJson_eq, depth, members, depthMembers_append, depthMembers_append,
    depthMembers_lastMembers]
  cases h : d.data.isNull with
  | false => simp [firstMembers, memberIf, depthMembers, depth]
  | true =>
    simp [firstMembers, memberIf, depthMembers, depth, Value.isNull_iff.1 h, Value.null]

/-- A document is read back from its text if its data leaves room for the object around it. -/
theorem ofText_pretty {d : Document} (whole : d.data.json.Whole)
    (le : d.data.json.depth < depthLimit) :
    schema.ofText (Text.ofBytes (encode d.toJson.pretty)) = .ok d :=
  have decoded : schema.decode .given d.toJson = .ok d := decode_toJson rewrites_id rfl
  schema.ofText_pretty decoded (whole_toJson.2 whole) (by rw [depth_toJson]; omega)

/-- A document whose data nests deeper is refused. -/
theorem refuses_pretty {d : Document} (whole : d.data.json.Whole)
    (deep : depthLimit ≤ d.data.json.depth) :
    ∃ e, schema.ofText (Text.ofBytes (encode d.toJson.pretty)) = .error e ∧ TooDeep e := by
  have some_ : d.data.isNull = false := by
    cases h : d.data.isNull with
    | false => rfl
    | true =>
      rw [Value.isNull_iff.1 h] at deep
      simp [Value.null, depth, depthLimit] at deep
  have spells := spells_renderPretty 0 d.toJson
  rw [Text.ofBytes_encode, Text.ofString, pretty, String.toList_ofList]
  rw [toJson_eq] at spells ⊢
  generalize renderPretty 0 (.object d.members) = text at spells
  rw [Spells] at spells
  obtain ⟨inner, spells, rfl⟩ := spells
  rw [members, some_] at spells
  -- the members in front of the data are read, and the data is not
  have decoded : decodeMembers (fields.decodeMember .given) d.firstMembers fields.empty =
      .ok (some d.id, some d.workflowId, some d.current, fields.empty.2.2.2) := rfl
  have first : FoldsMembers (fields.takeMember 126) d.firstMembers fields.empty _ :=
    foldsMembers_takeMember fields.faithful decoded
      (by simp [firstMembers, WholeMembers, Json.Whole])
      (by simp [firstMembers, depthMembers, depth])
  have data : RefusesMember TooDeep
      (fields.takeMember 126 "data" (some d.id, some d.workflowId, some d.current,
        fields.empty.2.2.2)) d.data.json :=
    (((((refusesValue_readTree 126 d.data.json whole deep).bind _).bind _).member.bind _).bind
      _).bind _
  have refuses := refuses_readMembers first data spells []
  rw [List.append_nil] at refuses
  refine parseAll_of_refuses (r := schema.read depthLimit)
    (.after (reads_peekToken .nil (by decide) _) ?_)
  exact .after (reads_advance '\x7b' _) refuses.bind

end Document

/-! ## Workflows -/

namespace Workflow

/-- Items that all have integers only and nest at most as deep as a bound. -/
theorem items_toJson {α : Type} {toJson : α → Json} {depth : Nat}
    (h : ∀ a, (toJson a).Whole ∧ (toJson a).depth ≤ depth) (as : List α) :
    WholeItems (as.map toJson) ∧ depthItems (as.map toJson) ≤ depth := by
  induction as with
  | nil => exact ⟨trivial, Nat.zero_le _⟩
  | cons a as ih =>
    rw [List.map_cons, WholeItems, depthItems]
    exact ⟨⟨(h a).1, ih.1⟩, Nat.max_le.2 ⟨(h a).2, ih.2⟩⟩

theorem state_toJson (s : State) : s.toJson.Whole ∧ s.toJson.depth ≤ 1 := by
  cases h : s.initial <;> cases h' : s.terminal <;>
    simp [State.toJson, h, h', memberIf, Json.Whole, WholeMembers, depth, depthMembers]

theorem transition_toJson (t : Transition) : t.toJson.Whole ∧ t.toJson.depth ≤ 2 := by
  have roles : WholeItems (t.roles.toList.map .string) ∧
      depthItems (t.roles.toList.map .string) ≤ 0 :=
    items_toJson (fun s => by simp [Json.Whole, depth]) _
  cases h : t.roles.isEmpty
  · simp [Transition.toJson, RoleSet.toJson, h, memberIf, Json.Whole, WholeMembers, depth,
      depthMembers, roles.1]
    omega
  · simp [Transition.toJson, h, memberIf, Json.Whole, WholeMembers, depth, depthMembers]

theorem deadlines_members (t : Table String String) :
    WholeMembers t.members ∧ depthMembers t.members = 0 := by
  unfold Table.members
  induction t.entries with
  | nil => exact ⟨trivial, rfl⟩
  | cons x entries ih => simp [WholeMembers, Json.Whole, depthMembers, depth, ih.1, ih.2]

theorem definition_members (d : Definition) :
    WholeMembers d.members ∧ depthMembers d.members ≤ 3 := by
  have states := items_toJson state_toJson d.states
  have transitions := items_toJson transition_toJson d.transitions
  have deadlines := deadlines_members d.deadlines
  rw [Table.members] at deadlines
  have reapproval (r : Reapproval) : r.toJson.Whole ∧ r.toJson.depth = 1 := by
    simp [Reapproval.toJson, Json.Whole, WholeMembers, depth, depthMembers]
  cases h : d.deadlines.isEmpty <;> cases h' : d.reapproval <;>
    simp [Definition.members, h, h', memberIf, memberOf?, WholeMembers, Json.Whole, depthMembers,
      depth, states.1, transitions.1, deadlines.1, deadlines.2, reapproval] <;>
    omega

theorem whole_toJson (w : Workflow) : w.toJson.Whole := by
  have defined := (definition_members w.definition).1
  rw [toJson_eq, Json.Whole, members, wholeMembers_append, wholeMembers_append]
  cases w.id.isEmpty <;>
    simp [defined, memberIf, WholeMembers, Json.Whole, Instant.toJson]

theorem depth_toJson (w : Workflow) : w.toJson.depth ≤ depthLimit := by
  have defined := (definition_members w.definition).2
  rw [toJson_eq, depth, members, depthMembers_append, depthMembers_append]
  cases w.id.isEmpty <;> simp [memberIf, depthMembers, depth, Instant.toJson, depthLimit] <;> omega

/-- A workflow is read back from its text. -/
theorem ofText_pretty (w : Workflow) :
    schema.ofText (Text.ofBytes (encode w.toJson.pretty)) = .ok w :=
  have decoded : schema.decode .given w.toJson = .ok w := w.decode_toJson rewrites_id
  schema.ofText_pretty decoded w.whole_toJson w.depth_toJson

end Workflow

end Signoff
