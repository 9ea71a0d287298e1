import Signoff.Message.Response
import Signoff.Proofs.Definition.RoundTrip
import Signoff.Proofs.Message.RoundTrip

/-!
# Responses read back from their lines

What is written for a response is read as the response (`Response.readsLine`), in whatever order
the details of its error stand, but for one thing: a result that is null is taken for no result at
all (`Response.received`). So a response reads back as itself, with a result or with an error and
not with both, unless it answers with null (`responses_read_back`).
-/

namespace Signoff

open Json LineDecoder

variable {origin : Origin}

/-! ## Lines that hold one message -/

/-- The line of the value reads as the message, as a text and when it comes as a stream. -/
structure Json.Schema.ReadsLine {α : Type} (schema : Schema α) (j : Json) (a : α) : Prop where
  text : schema.ofText (.ofString (encodeLine j)) = .ok a
  stream : ∀ limit pieces, (encode j.compact).length ≤ limit →
    pieces.flatten = encode (encodeLine j) → ∀ rs d,
      (Feeds schema.ofText (.start limit) pieces rs d ↔ rs = [.ok a] ∧ d = .start limit)

/-- An object that is decoded is read from its line. -/
theorem Json.Schema.readsLine {α : Type} {schema : Schema α} {members : List (String × Json)}
    {a : α} (decoded : schema.decode .given (.object members) = .ok a)
    (whole : WholeMembers members) (lt : depthMembers members < depthLimit) :
    schema.ReadsLine (.object members) a := by
  have whole : (Json.object members).Whole := by rwa [Json.Whole]
  have le : (Json.object members).depth ≤ depthLimit := by rw [depth]; exact lt
  have spells := spells_render (.object members)
  refine ⟨?_, fun limit pieces short cut rs d => ?_⟩
  · have newLine : Gap ['\n'] := gap_newLine 0
    have ends : Ends ['\n'] := by simpa using ends_gap newLine Ends.nil
    have reads := schema.faithful decoded whole le [] _ ['\n'] .nil spells ends
    rw [Text.ofString, encodeLine, compact, String.toList_append, String.toList_ofList]
    exact parseAll_of_reads reads newLine
  · have read := schema.ofText_ofChars decoded whole le spells
    have short : ∀ j ∈ [Json.object members], (encode j.compact).length ≤ limit := by simpa
    have cut : pieces.flatten = [Json.object members].flatMap fun j => encode (encodeLine j) := by
      simpa using cut
    rw [feeds_iff, feed_encodeLine short cut, List.map_singleton, readings_compact, read,
      Prod.mk.injEq]
    exact and_congr eq_comm eq_comm

/-! ## Errors -/

namespace ResponseError

/-- The members of an error whose details stand in some order. -/
def members (e : ResponseError) (details : List (String × Value)) : List (String × Json) :=
  [("code", e.code.toJson), ("message", .string e.message), ("retryable", .bool e.retryable)] ++
    memberIf (!details.isEmpty) "details" (.object (details.map fun (key, v) => (key, v.json)))

theorem toJson_eq (e : ResponseError) : e.toJson = .object (e.members e.details.entries) := rfl

/-- An error is decoded from what is written for it, in whatever order its details stand. -/
theorem decode_members {e : ResponseError} {details : List (String × Value)}
    (perm : details.Perm e.details.entries) :
    schema.decode origin (.object (e.members details)) = .ok e := by
  have code : ErrorCode.schema.decode origin e.code.toJson = .ok e.code := by
    cases e.code <;> rfl
  have sorted : Table.ofList details = e.details := Table.ofList_of_perm perm
  have none_ (h : details.isEmpty = true) : Table.empty = e.details := by
    rw [← sorted, List.isEmpty_iff.1 h]
    rfl
  have some_ : (Schema.map Table.ofList (.table .value)).decode origin
      (.object (details.map fun (key, v) => (key, v.json))) = .ok e.details := by
    show ((Schema.table .value).decode origin _).map Table.ofList = _
    rw [Schema.decode_table Schema.decode_value, ← sorted]
    rfl
  refine Schema.decode_record (a := (e.code, e.message, e.retryable, e.details, ())) ?_ rfl ?_ _ _
  · simp only [Fields.Fits, Fields.need, Fields.orElse, members]
    refine ⟨by simpa using code, ?_, ?_, ?_, trivial⟩
    · simp [List.lookup_cons, Schema.decode]
    · simp [List.lookup_cons, Schema.decode]
    · cases h : details.isEmpty
      · simpa [List.lookup_cons] using some_
      · simpa [List.lookup_cons] using none_ h
  · unfold members
    cases details.isEmpty <;> simp [DistinctKeys, memberIf]

theorem shape_members {details : List (String × Value)} {n : Nat}
    (h : ∀ x ∈ details, x.2.json.Whole ∧ x.2.json.depth ≤ n) (e : ResponseError) :
    WholeMembers (e.members details) ∧ depthMembers (e.members details) ≤ n + 1 := by
  have whole : WholeMembers (details.map fun (key, v) => (key, v.json)) :=
    wholeMembers_iff.2 (List.forall_mem_map.2 fun x mem => (h x mem).1)
  have le : depthMembers (details.map fun (key, v) => (key, v.json)) ≤ n :=
    depthMembers_le_iff.2 (List.forall_mem_map.2 fun x mem => (h x mem).2)
  cases some_ : details.isEmpty <;>
    simp [members, some_, memberIf, ErrorCode.toJson, Json.Whole, WholeMembers, depth,
      depthMembers, whole, le]

end ResponseError

/-! ## What goes with a response -/

namespace ResponseMeta

theorem decode_httpStatus (n : UInt16) :
    (Schema.optional (.map UInt16.ofFin (.natural "u16" UInt16.size))).decode origin
      (.ofNat n.toNat) = .ok (some n) := by
  have bound : n.toNat < UInt16.size := n.toNat_lt_size
  have whole : min (n.toNat : Int) 18446744073709551615 = n.toNat := by
    have : UInt16.size = 65536 := rfl
    omega
  have inner : (Schema.natural "u16" UInt16.size).decode origin (.ofNat n.toNat) = .ok n.toFin := by
    simp only [ofNat, whole, Schema.decode]
    rw [dif_pos ⟨Int.natCast_nonneg _, bound⟩]
    rfl
  show (((Schema.natural "u16" UInt16.size).decode origin _).map UInt16.ofFin).map some = _
  rw [inner]
  rfl

theorem decode_toJson (m : ResponseMeta) : schema.decode origin m.toJson = .ok m := by
  have time (t : Instant) : (Schema.optional .instant).decode origin t.toJson = .ok (some t) :=
    Instant.decode_optional rewrites_id t
  refine Schema.decode_record (a := (m.serverTime, m.httpStatus, ())) ?_ rfl ?_ _ _
  · simp only [Fields.Fits, Fields.orAbsent]
    cases m.serverTime <;> cases m.httpStatus <;>
      simp [List.lookup_append, time, decode_httpStatus]
  · cases m.serverTime <;> cases m.httpStatus <;> simp [DistinctKeys, memberOf?]

theorem whole_toJson (m : ResponseMeta) : m.toJson.Whole := by
  cases h : m.serverTime <;> cases h' : m.httpStatus <;>
    simp [toJson, h, h', memberOf?, Json.Whole, WholeMembers, Instant.toJson, ofNat]

theorem depth_toJson (m : ResponseMeta) : m.toJson.depth = 1 := by
  cases h : m.serverTime <;> cases h' : m.httpStatus <;>
    simp [toJson, h, h', memberOf?, depth, depthMembers, Instant.toJson, ofNat]

end ResponseMeta

/-! ## Responses -/

namespace Response

/-- The members of a response whose error has its details in some order. -/
def members (r : Response) (details : List (String × Value)) : List (String × Json) :=
  [("type", .string r.kind.name), ("id", .string r.id), ("status", .string r.status.name)] ++
    memberOf? "result" Value.json r.result ++
    memberOf? "error" (fun e => .object (e.members details)) r.error ++
    memberIf (!r.meta_.isEmpty) "meta" r.meta_.toJson

/-- The details of the error, if there is one. -/
def details (r : Response) : List (String × Value) :=
  match r.error with
  | some e => e.details.entries
  | none => []

theorem toJson_eq (r : Response) : r.toJson = .object (r.members r.details) := by
  unfold toJson members details
  cases r.error <;> rfl

/-- The response as it is read back: null is taken for no result. -/
def received (r : Response) : Response := { r with result := r.result.filter fun v => !v.isNull }

/-- Exactly one of result and error is set, the one that the status tells of. -/
def Exclusive (r : Response) : Prop := r.result.isSome = r.isOk ∧ r.error.isSome = !r.isOk

/-- The response has integers only and leaves room for the objects around its values. -/
structure Legible (r : Response) : Prop where
  result : ∀ v, r.result = some v → v.json.Whole ∧ v.json.depth < depthLimit
  details : ∀ x ∈ r.details, x.2.json.Whole ∧ x.2.json.depth + 2 < depthLimit

theorem decode_result (v : Value) : (Schema.optional .value).decode origin v.json =
    .ok ((some v).filter fun v => !v.isNull) := by
  cases h : v.isNull with
  | true =>
    rw [Value.isNull_iff.1 h]
    rfl
  | false =>
    have some_ : v.json ≠ .null := fun null => by simp [Value.isNull, null] at h
    rw [Schema.decode, Schema.decode_value]
    · simp [Except.map, Option.filter, h]
    · exact some_

/-- A response is decoded from what is written for it, in whatever order its details stand, but for
a result that is null. -/
theorem decode_members {r : Response} {details : List (String × Value)}
    (perm : details.Perm r.details) :
    schema.decode origin (.object (r.members details)) = .ok r.received := by
  have kind : (Schema.choice MessageKind.names).decode origin (.string r.kind.name) =
      .ok r.kind := by
    cases r.kind <;> rfl
  have status : (Schema.choice ResponseStatus.names).decode origin (.string r.status.name) =
      .ok r.status := by
    cases r.status <;> rfl
  have error (e : ResponseError) (h : r.error = some e) :
      (Schema.optional ResponseError.schema).decode origin (.object (e.members details)) =
        .ok (some e) := by
    rw [Response.details, h] at perm
    show (ResponseError.schema.decode origin _).map some = _
    rw [ResponseError.decode_members perm]
    rfl
  have meta_ : ResponseMeta.schema.decode origin r.meta_.toJson = .ok r.meta_ :=
    r.meta_.decode_toJson
  have noMeta (h : r.meta_.isEmpty = true) : ResponseMeta.empty = r.meta_ := by
    rw [ResponseMeta.isEmpty, Bool.and_eq_true, Option.isNone_iff_eq_none,
      Option.isNone_iff_eq_none] at h
    rw [ResponseMeta.empty, ← h.1, ← h.2]
  refine Schema.decode_record (a := (r.kind, r.id, r.status, r.received.result, r.error, r.meta_,
    ())) ?_ rfl ?_ _ _
  · simp only [Fields.Fits, Fields.need, Fields.orElse, Fields.orAbsent, members]
    refine ⟨?_, ?_, ?_, ?_, ?_, ?_, trivial⟩
    · simpa [List.lookup_cons] using kind
    · simp [List.lookup_cons, Schema.decode]
    · simpa [List.lookup_cons] using status
    · cases h : r.result <;>
        simp [List.lookup_cons, List.lookup_append, decode_result, received, h]
    · cases h : r.error with
      | none => simp [List.lookup_cons, List.lookup_append]
      | some e => simpa [List.lookup_cons, List.lookup_append] using error e h
    · cases h : r.meta_.isEmpty
      · simpa [List.lookup_cons, List.lookup_append] using meta_
      · simpa [List.lookup_cons, List.lookup_append] using noMeta h
  · unfold members
    cases r.result <;> cases r.error <;> cases r.meta_.isEmpty <;>
      simp [DistinctKeys, memberIf, memberOf?]

theorem shape_result {r : Response} (legible : r.Legible) :
    WholeMembers (memberOf? "result" Value.json r.result) ∧
      depthMembers (memberOf? "result" Value.json r.result) < depthLimit := by
  cases h : r.result with
  | none => exact ⟨trivial, by decide⟩
  | some v =>
    obtain ⟨whole, lt⟩ := legible.result v h
    exact ⟨⟨whole, trivial⟩, Nat.max_lt.2 ⟨lt, by decide⟩⟩

theorem shape_error {r : Response} (legible : r.Legible) {details : List (String × Value)}
    (perm : details.Perm r.details) :
    let error := memberOf? "error" (fun e => .object (e.members details)) r.error
    WholeMembers error ∧ depthMembers error < depthLimit := by
  have inner : ∀ x ∈ details, x.2.json.Whole ∧ x.2.json.depth ≤ 124 := by
    intro x mem
    obtain ⟨whole, lt⟩ := legible.details x (perm.mem_iff.1 mem)
    rw [depthLimit] at lt
    exact ⟨whole, by omega⟩
  cases r.error with
  | none => exact ⟨trivial, Nat.succ_pos 126⟩
  | some e =>
    obtain ⟨whole, le⟩ := ResponseError.shape_members inner e
    simp only [memberOf?, WholeMembers, Json.Whole, depthMembers, depth, depthLimit]
    exact ⟨⟨whole, trivial⟩, by omega⟩

theorem shape_members {r : Response} (legible : r.Legible) {details : List (String × Value)}
    (perm : details.Perm r.details) :
    WholeMembers (r.members details) ∧ depthMembers (r.members details) < depthLimit := by
  obtain ⟨result, resultDepth⟩ := shape_result legible
  obtain ⟨error, errorDepth⟩ := shape_error legible perm
  have meta_ : WholeMembers (memberIf (!r.meta_.isEmpty) "meta" r.meta_.toJson) ∧
      depthMembers (memberIf (!r.meta_.isEmpty) "meta" r.meta_.toJson) ≤ 1 := by
    cases r.meta_.isEmpty <;>
      simp [memberIf, WholeMembers, depthMembers, r.meta_.whole_toJson, r.meta_.depth_toJson]
  simp only [members, wholeMembers_append, depthMembers_append, depthLimit] at *
  refine ⟨⟨⟨⟨?_, result⟩, error⟩, meta_.1⟩, ?_⟩
  · simp [WholeMembers, Json.Whole]
  · simp only [depthMembers, depth]
    omega

/-- A response is read from its line, in whatever order its details stand, but for a result that is
null. -/
theorem readsLine {r : Response} (legible : r.Legible) {details : List (String × Value)}
    (perm : details.Perm r.details) :
    schema.ReadsLine (.object (r.members details)) r.received :=
  have ⟨whole, lt⟩ := shape_members legible perm
  Schema.readsLine (decode_members perm) whole lt

/-- A result that is null is not received; any other response is received as it is. -/
theorem received_of_result {r : Response} {v : Value} (result : r.result = some v) :
    r.received = if v.isNull then { r with result := none } else r := by
  rw [received, result]
  cases h : v.isNull
  · rw [if_neg Bool.false_ne_true, Option.filter, if_pos (by rw [h]; rfl), ← result]
  · rw [if_pos rfl, Option.filter, if_neg (by simp [h])]

end Response

/-- A response that grants a request, with the time of the service or without, is read from its
line as it is and has a result and no error, unless the result is null: then it is read without the
result, and has neither. A response that refuses a request is read from its line as it is, in
whatever order the details of the error stand, and has an error and no result. -/
theorem responses_read_back (id : String) :
    (∀ (v : Value) (r : Response), r = .ok id v ∨ (∃ now, r = (Response.ok id v).at_ now) →
      v.json.Whole → v.json.depth < depthLimit →
      let r' := if v.isNull then { r with result := none } else r
      Response.schema.ReadsLine r.toJson r' ∧ r.Exclusive ∧ (r'.Exclusive ↔ v ≠ .null)) ∧
    ∀ (e : ResponseError) (details : List (String × Value)),
      details.Perm e.details.entries →
      (∀ x ∈ details, x.2.json.Whole ∧ x.2.json.depth + 2 < depthLimit) →
      let r := Response.refuse id e
      Response.schema.ReadsLine (.object (r.members details)) r ∧ r.Exclusive := by
  constructor
  · intro v r made whole lt r'
    obtain ⟨result, status, error⟩ : r.result = some v ∧ r.status = .ok ∧ r.error = none := by
      rcases made with rfl | ⟨now, rfl⟩ <;> exact ⟨rfl, rfl, rfl⟩
    have legible : r.Legible := by
      refine ⟨fun v' eq => ?_, fun x mem => ?_⟩
      · obtain rfl := Option.some.inj (result.symm.trans eq)
        exact ⟨whole, lt⟩
      · rw [Response.details, error] at mem
        cases mem
    have received : r.received = r' := Response.received_of_result result
    have reads := Response.readsLine legible (.refl _)
    rw [← Response.toJson_eq, received] at reads
    refine ⟨reads, ?_, ?_⟩
    · simp [Response.Exclusive, Response.isOk, result, status, error]
    · rw [Ne, ← Value.isNull_iff, ← received]
      cases h : v.isNull <;>
        simp [Response.Exclusive, Response.isOk, Response.received, result, status, error, h]
  · intro e details perm legible r
    have legible : r.Legible := ⟨nofun, fun x mem => legible x (perm.mem_iff.2 mem)⟩
    exact ⟨Response.readsLine legible perm, rfl, rfl⟩

/-- A grant with a time, and a refusal whose details stand in the other order, read back. -/
theorem grant_and_refusal_read_back :
    let pong : Json := .object [("pong", .bool true)]
    let granted := (Response.ok "1" ⟨pong, by simp [pong, Canonical, MembersCanonical,
      Increasing]⟩).at_ .epoch
    let e : ResponseError := ⟨.forbidden, "no", false, ⟨[("a", .null), ("b", .null)],
      by simp [Increasing]; decide⟩⟩
    let refused := Response.refuse "2" e
    Response.schema.ReadsLine granted.toJson granted ∧
      Response.schema.ReadsLine (.object (refused.members [("b", .null), ("a", .null)])) refused :=
  ⟨((responses_read_back "1").1 _ _ (.inr ⟨.epoch, rfl⟩)
      (by simp [Json.Whole, WholeMembers]) (by simp [depth, depthMembers, depthLimit])).1,
    ((responses_read_back "2").2 _ [("b", .null), ("a", .null)] (.swap ..)
      (by simp [Value.null, Json.Whole, depth, depthLimit])).1⟩

/-- A response whose result is null has a result, and what is read from its line has none. -/
theorem null_result_is_lost :
    let r := Response.ok "1" .null
    let line := "\x7b\"type\":\"response\",\"id\":\"1\",\"status\":\"ok\",\"result\":null\x7d\n"
    encodeLine r.toJson = line ∧ r.Exclusive ∧
      Response.schema.ofText (.ofString line) = .ok { r with result := none } ∧
      ¬ Response.Exclusive { r with result := none } ∧ ¬ Response.schema.ReadsLine r.toJson r := by
  intro r line
  have written : encodeLine r.toJson = line := by decide +kernel
  have legible : r.Legible := by
    refine ⟨fun v eq => ?_, nofun⟩
    obtain rfl : v = .null := (Option.some.inj eq).symm
    exact ⟨by simp [Value.null, Json.Whole], by simp [Value.null, depth, depthLimit]⟩
  have read := (Response.readsLine legible (.refl _)).text
  rw [← Response.toJson_eq, written] at read
  refine ⟨written, ⟨rfl, rfl⟩, read, fun exclusive => Bool.false_ne_true exclusive.1,
    fun reads => ?_⟩
  have both := reads.text
  rw [written, read] at both
  have results := congrArg Response.result (Except.ok.inj both)
  cases results

end Signoff
