import Signoff.Message.Request
import Signoff.Proofs.Json.Compact
import Signoff.Proofs.Json.Schema
import Signoff.Proofs.Message.Decoding

/-!
# Requests read back from a stream

A request is decoded from what is written for it (`Request.decode_toJson`). Its compact text is one
line that is not blank and ends in no carriage return, so the line reads as what the text reads as
(`readings_compact`), and the lines of requests that are written one after the other read as the
requests (`request_streams_round_trip`).
-/

namespace Signoff

open Json LineDecoder

variable {α : Type} {origin : Origin}

/-! ## Values on lines -/

/-- Dropping the carriage returns at the end of text leaves text without control characters. -/
theorem rdropWhile_of_visible {cs : List Char} (h : Visible cs) :
    cs.rdropWhile (· == '\r') = cs := by
  rw [List.rdropWhile_eq_self_iff]
  intro some_ last
  have visible := h _ (List.getLast_mem some_)
  rw [eq_of_beq last] at visible
  exact absurd visible (by decide)

theorem not_isBlankLine_encode {s : String} {c : Char} (mem : c ∈ s.toList)
    (h : isBlank c = false) : isBlankLine (encode s) = false := by
  rw [isBlankLine, decode?_encode, List.all_eq_false]
  exact ⟨c, mem, by rw [h]; exact Bool.false_ne_true⟩

/-- The compact text of a value is a line that reads as it does. -/
theorem readLine_compact (parse : Text → Except Json.Error α) (j : Json) :
    readLine parse (encode j.compact) = (parse (.ofChars j.render)).mapError .json := by
  rw [readLine, decode?_encode]
  dsimp only
  rw [compact, String.toList_ofList, rdropWhile_of_visible (visible_render j)]

/-- The line of an object reads as the text of the object. -/
theorem readings_compact (parse : Text → Except Json.Error α) (members : List (String × Json)) :
    readings parse [encode (Json.object members).compact] =
      [(parse (.ofChars (Json.object members).render)).mapError .json] := by
  have brace : '\x7b' ∈ (Json.object members).compact.toList := by
    rw [compact, String.toList_ofList]
    cases members <;> rw [render] <;> simp
  rw [readings_singleton, not_isBlankLine_encode brace rfl, readLine_compact]
  rfl

/-- Compact texts are free of line feeds. -/
theorem lineFeed_notMem_compact (j : Json) : lineFeed ∉ encode j.compact := fun mem =>
  absurd (j.byte_encode_compact _ mem) (by decide)

/-- Values that are written one after the other, each as a line, read as their lines do; nothing is
left of them. -/
theorem feed_encodeLine {parse : Text → Except Json.Error α} {limit : Nat} {values : List Json}
    (short : ∀ j ∈ values, (encode j.compact).length ≤ limit) {pieces : List Bytes}
    (cut : pieces.flatten = values.flatMap fun j => encode (encodeLine j)) :
    feed parse pieces (.start limit) =
      (readings parse (values.map fun j => encode j.compact), .start limit) := by
  have lines : pieces.flatten =
      (values.map fun j => encode j.compact).flatMap (· ++ [lineFeed]) := by
    rw [cut, List.flatMap_map]
    exact List.flatMap_congr fun j _ => encode_encodeLine j
  have free : ∀ line ∈ values.map fun j => encode j.compact, lineFeed ∉ line :=
    List.forall_mem_map.2 fun j _ => lineFeed_notMem_compact j
  obtain ⟨ended, opened⟩ := endedLines_flatMap free
  rw [feed_of_short, lines, ended, opened]
  · rfl
  · rw [splitOn_eq, lines, ended, opened]
    refine List.forall_mem_append.2 ⟨List.forall_mem_map.2 short, fun line mem => ?_⟩
    rw [List.mem_singleton.1 mem]
    exact Nat.zero_le _

/-! ## Requests -/

namespace Request

/-- The members of a request. -/
def members (r : Request) : List (String × Json) :=
  [("type", .string r.kind.name), ("id", .string r.id), ("op", .string r.operation.name),
    ("params", r.params.json)]

/-- The fields of a request. -/
def fields : Fields
    (Option MessageKind × Option String × Option Operation × Option Value × Unit)
    (MessageKind × String × Operation × Value × Unit) :=
  .need "type" (.choice MessageKind.names) <| .need "id" .text <|
    .need "op" (.choice Operation.names) <| .orElse "params" .null .value .nil

theorem fits_members (r : Request) :
    fields.Fits origin r.members (r.kind, r.id, r.operation, r.params, ()) := by
  have kind (k : MessageKind) :
      (Schema.choice MessageKind.names).decode origin (.string k.name) = .ok k := by
    cases k <;> rfl
  have operation (o : Operation) :
      (Schema.choice Operation.names).decode origin (.string o.name) = .ok o := by
    cases o <;> rfl
  exact ⟨kind r.kind, rfl, operation r.operation, Schema.decode_value r.params, trivial⟩

/-- A request is decoded from what is written for it. -/
theorem decode_toJson (r : Request) : schema.decode origin r.toJson = .ok r :=
  Schema.decode_record r.fits_members rfl (by simp [DistinctKeys, members]) _ _

theorem whole_toJson {r : Request} : r.toJson.Whole ↔ r.params.json.Whole := by
  simp [toJson, Json.Whole, WholeMembers]

/-- A request nests one level deeper than its parameters. -/
theorem depth_toJson (r : Request) : r.toJson.depth = r.params.json.depth + 1 := by
  simp [toJson, depth, depthMembers]

/-- A request is read from its line if its parameters leave room for the object around them. -/
theorem readings_toJson {r : Request} (whole : r.params.json.Whole)
    (le : r.params.json.depth < depthLimit) :
    readings schema.ofText [encode r.toJson.compact] = [.ok r] := by
  have decoded : schema.decode .given r.toJson = .ok r := r.decode_toJson
  have read := schema.ofText_ofChars decoded (whole_toJson.2 whole)
    (by rw [depth_toJson]; exact le) (spells_render r.toJson)
  rw [toJson] at read ⊢
  rw [readings_compact, read]
  rfl

/-- The lines of such requests read as the requests. -/
theorem readings_map_toJson {requests : List Request}
    (modest : ∀ r ∈ requests, r.params.json.Whole ∧ r.params.json.depth < depthLimit) :
    readings schema.ofText ((requests.map toJson).map fun j => encode j.compact) =
      requests.map .ok := by
  induction requests with
  | nil => rfl
  | cons r requests ih =>
    obtain ⟨⟨whole, le⟩, others⟩ := List.forall_mem_cons.1 modest
    rw [List.map_cons, List.map_cons, readings_cons, readings_toJson whole le, ih others]
    rfl

end Request

/-- Requests whose parameters have integers only and leave room for the object around them are
written one after the other. If no line is longer than the limit, then however the stream is cut
into pieces, even inside a character, these requests are taken in their order, and nothing else,
and the decoder is left with an empty buffer. -/
theorem request_streams_round_trip (limit : Nat) (requests : List Request)
    (modest : ∀ r ∈ requests, r.params.json.Whole ∧ r.params.json.depth < depthLimit)
    (short : ∀ r ∈ requests, (encode r.toJson.compact).length ≤ limit) (pieces : List Bytes)
    (cut : pieces.flatten = requests.flatMap fun r => encode (encodeLine r.toJson))
    (rs : List (Except LineError Request)) (d : LineDecoder) :
    Feeds Request.schema.ofText (.start limit) pieces rs d ↔
      rs = requests.map .ok ∧ d = .start limit := by
  have cut' : pieces.flatten =
      (requests.map Request.toJson).flatMap fun j => encode (encodeLine j) :=
    cut.trans (List.flatMap_map Request.toJson (fun j => encode (encodeLine j)) requests).symm
  rw [feeds_iff, feed_encodeLine (List.forall_mem_map.2 short) cut',
    Request.readings_map_toJson modest, Prod.mk.injEq]
  exact and_congr eq_comm eq_comm

/-- Two requests: a line feed in an identifier, a letter of two bytes, a negative number, and line
ends in a key and in a text. -/
def sentRequests : List Request :=
  [⟨.request, "1\n2", .ping, .null⟩,
    ⟨.request, "é", .createDocument,
      ⟨.object [("data", .object [("\n", .array [.number (.whole (-7) (by decide)), .null])]),
        ("workflow_id", .string "wf\r\n")],
        by simp [Canonical, MembersCanonical, AllCanonical, Increasing]; decide⟩⟩]

/-- The stream of the requests, cut between the two bytes of the letter, under the least limit that
allows their lines. -/
theorem cut_letter_round_trips :
    let stream := sentRequests.flatMap fun r => encode (encodeLine r.toJson)
    decode? (stream.take 82) = none ∧
      Feeds Request.schema.ofText (.start 109) [stream.take 82, stream.drop 82]
        (sentRequests.map .ok) (.start 109) := by
  intro stream
  refine ⟨by decide +kernel, (request_streams_round_trip 109 sentRequests ?_ (by decide +kernel) _
    ?_ _ _).2 ⟨rfl, rfl⟩⟩
  · simp [sentRequests, Value.null, Json.Whole, WholeMembers, WholeItems, depth, depthMembers,
      depthItems, depthLimit]
  · rw [List.flatten_cons, List.flatten_singleton, List.take_append_drop]

end Signoff
