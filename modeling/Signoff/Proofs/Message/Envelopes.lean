import Signoff.Proofs.Json.Members
import Signoff.Proofs.Json.Soundness
import Signoff.Proofs.Message.Responses

/-!
# The form of a request

Whether a line reads as a request is told by the value it holds (`Request.Envelope`): it has one
type, one identifier and one operation, in whatever order, and other members do not matter. Either
type will do. An encoded response names no operation, so that none of them reads as a request,
whatever is in it.

* `Request.decode_iff`: the values that a request is decoded from.
* `Request.envelope_of_readLine`: the value on a line that reads as a request.
* `Request.readLine_of_envelope`: lines of such values read as the request.
* `Response.readLine_refuses`: lines of responses do not.
-/

namespace Signoff

open Json

variable {origin : Origin}

/-- A line is read if it is text and the text without the carriage returns at its end is. -/
theorem readLine_eq_ok {α : Type} {parse : Text → Except Json.Error α} {line : Bytes} {a : α} :
    readLine parse line = .ok a ↔ ∃ text, decode? line = some text ∧
      parse (.ofChars (text.toList.rdropWhile (· == '\r'))) = .ok a := by
  unfold readLine
  cases decode? line with
  | none => simp
  | some text =>
    dsimp only
    cases h : parse (.ofChars (text.toList.rdropWhile (· == '\r'))) <;> simp [Except.mapError, h]

/-- A value is read from its line, if its numbers are integers and it does not nest too deep. -/
theorem readLine_value {j : Json} (whole : j.Whole) (le : j.depth ≤ depthLimit) :
    readLine (parseAll (readTree depthLimit)) (encode j.compact) = .ok j := by
  have reads := readsValue_readTree depthLimit j whole le [] _ [] .nil (spells_render j) .nil
  rw [List.nil_append, List.append_nil] at reads
  rw [readLine_compact, parseAll_of_reads reads .nil]
  rfl

namespace Request

/-- What a request is read from: an object with one member each for the type, the identifier and the
operation and at most one for the parameters, among any others, or a list of three or four. -/
def Envelope (r : Request) : Json → Prop
  | .object members =>
    (∃ kind, Only members "type" kind ∧ Names MessageKind.names kind r.kind) ∧
      Only members "id" (.string r.id) ∧
      (∃ operation, Only members "op" operation ∧ Names Operation.names operation r.operation) ∧
      (Lacks members "params" ∧ r.params = .null ∨
        ∃ params, Only members "params" params ∧ r.params = .ofJson params)
  | .array [kind, id, operation] => Names MessageKind.names kind r.kind ∧ id = .string r.id ∧
      Names Operation.names operation r.operation ∧ r.params = .null
  | .array [kind, id, operation, params] => Names MessageKind.names kind r.kind ∧
      id = .string r.id ∧ Names Operation.names operation r.operation ∧ r.params = .ofJson params
  | _ => False

theorem told_iff {members : List (String × Json)} {r : Request} :
    fields.Told origin members (r.kind, r.id, r.operation, r.params, ()) ↔
      r.Envelope (.object members) := by
  simp only [fields, Fields.need, Fields.orElse, Fields.Told, Schema.decode_choice_iff,
    Schema.decode_text_iff, Schema.decode_value_iff, Envelope]
  simp [eq_comm]

theorem listed_iff {items : List Json} {r : Request} :
    fields.Listed origin items (r.kind, r.id, r.operation, r.params, ()) ↔
      r.Envelope (.array items) := by
  rcases items with _ | ⟨a, _ | ⟨b, _ | ⟨c, _ | ⟨d, _ | ⟨e, items⟩⟩⟩⟩⟩
  all_goals
    simp only [fields, Fields.need, Fields.orElse, Fields.Listed, Schema.decode_choice_iff,
      Schema.decode_text_iff, Schema.decode_value_iff, Envelope]
    simp [eq_comm]

/-- A request is decoded from the values that have its form. -/
theorem decode_iff {j : Json} {r : Request} :
    schema.decode origin j = .ok r ↔ r.Envelope j := by
  refine (Schema.decode_record_iff rfl).trans ?_
  constructor
  · rintro ⟨⟨kind, id, operation, params, ⟨⟩⟩, rfl, ⟨members, rfl, told⟩ | ⟨items, rfl, listed⟩⟩
    · exact told_iff.1 told
    · exact listed_iff.1 listed
  · intro h
    refine ⟨(r.kind, r.id, r.operation, r.params, ()), rfl, ?_⟩
    cases j with
    | object members => exact .inl ⟨members, rfl, told_iff.2 h⟩
    | array items => exact .inr ⟨items, rfl, listed_iff.2 h⟩
    | _ => exact h.elim

theorem sound_schema : schema.Sound :=
  (((Fields.sound_nil.cons (sound_any.map _) _ _ _).cons (sound_choice _) _ _ _).cons sound_text
    _ _ _).cons (sound_choice _) _ _ _ |>.record _ _

/-- Whatever a line reads as, the value on the line has the form of that request. -/
theorem envelope_of_readLine {line : Bytes} {r : Request} {depth : Nat} {j : Json}
    (read : readLine schema.ofText line = .ok r)
    (value : readLine (parseAll (readTree depth)) line = .ok j) : r.Envelope j := by
  obtain ⟨text, decoded, read⟩ := readLine_eq_ok.1 read
  obtain ⟨text', decoded', value⟩ := readLine_eq_ok.1 value
  cases decoded.symm.trans decoded'
  exact decode_iff.1 (sound_schema.ofText read value .given)

/-- A value of the form of a request is read as the request from its line, if its numbers are
integers and it does not nest too deep. -/
theorem readLine_of_envelope {r : Request} {j : Json} (h : r.Envelope j) (whole : j.Whole)
    (le : j.depth ≤ depthLimit) : readLine schema.ofText (encode j.compact) = .ok r := by
  have decoded : schema.decode .given j = .ok r := decode_iff.2 h
  rw [readLine_compact, schema.ofText_ofChars decoded whole le (spells_render j)]
  rfl

end Request

/-! ## Responses -/

/-- Members that no field knows are passed. -/
theorem Json.foldsMembers_unknown {π σ : Type} {fields : Fields π σ}
    {members : List (String × Json)}
    (unknown : ∀ x ∈ members, fields.hasKey x.1 = false) (depth : Nat) (slots : π) :
    FoldsMembers (fields.takeMember depth) members slots slots := by
  induction members with
  | nil => rfl
  | cons x members ih =>
    obtain ⟨here, others⟩ := List.forall_mem_cons.1 unknown
    refine ⟨slots, ?_, ih others⟩
    have undecoded : fields.decodeMember .given x.1 slots x.2 = none :=
      fields.decodeMember_eq_none_iff.2 here
    unfold Fields.takeMember
    rw [fields.readMember_eq_none undecoded depth]
    exact readsMember_skipValue x.2 slots

theorem Json.foldsMembers_append {σ : Type} {member : String → σ → Reader σ}
    {members others : List (String × Json)} {s t u : σ} (h : FoldsMembers member members s t)
    (h' : FoldsMembers member others t u) : FoldsMembers member (members ++ others) s u := by
  induction members generalizing s with
  | nil =>
    obtain rfl : s = t := h
    exact h'
  | cons x members ih =>
    obtain ⟨s', here, there⟩ := h
    exact ⟨s', here, ih there⟩

namespace Response

/-- The type and the identifier of a response are read as those of a request, and the rest is
passed. -/
theorem folds_members (r : Response) (details : List (String × Value)) :
    FoldsMembers (Request.fields.takeMember 126) (r.members details) Request.fields.empty
      (some r.kind, some r.id, none, none, ()) := by
  have known : FoldsMembers (Request.fields.takeMember 126)
      [("type", .string r.kind.name), ("id", .string r.id)] Request.fields.empty
      (some r.kind, some r.id, none, none, ()) := by
    have decoded : decodeMembers (Request.fields.decodeMember .given)
        [("type", .string r.kind.name), ("id", .string r.id)] Request.fields.empty =
        .ok (some r.kind, some r.id, none, none, ()) := by
      cases r.kind <;> rfl
    exact foldsMembers_takeMember Request.fields.faithful decoded
      (by simp [WholeMembers, Json.Whole]) (by simp [depthMembers, depth])
  have unknown : ∀ x ∈ ("status", .string r.status.name) ::
      memberOf? "result" Value.json r.result ++
        memberOf? "error" (fun e => .object (e.members details)) r.error ++
        memberIf (!r.meta_.isEmpty) "meta" r.meta_.toJson, Request.fields.hasKey x.1 = false := by
    cases r.result <;> cases r.error <;> cases r.meta_.isEmpty <;>
      simp [memberOf?, memberIf, Request.fields, Fields.need, Fields.orElse, Fields.hasKey]
  have all := foldsMembers_append known (foldsMembers_unknown unknown 126 _)
  exact all

/-- No line of a response reads as a request. -/
theorem readLine_refuses (r : Response) (details : List (String × Value)) :
    ∃ e, readLine Request.schema.ofText (encode (Json.object (r.members details)).compact) =
      .error e := by
  have spells := spells_render (.object (r.members details))
  rw [Spells] at spells
  obtain ⟨inner, spells, eq⟩ := spells
  have refuses : Refuses Cursor.rest (fun _ => True) (Request.schema.read depthLimit)
      (Text.ofChars ('\x7b' :: inner)) := by
    have members := reads_readMembers (r.folds_members details) spells []
    rw [List.append_nil] at members
    exact .after (reads_peekToken .nil (by decide) _) (.after (reads_advance '\x7b' _)
      (.after members (((fails_failAfterObject _).refuses _).bind)))
  obtain ⟨e, stop, -⟩ := parseAll_of_refuses refuses
  rw [readLine_compact, eq, Schema.ofText, stop]
  exact ⟨_, rfl⟩

end Response

end Signoff
