import Signoff.Proofs.Message.Envelopes
import Signoff.Proofs.Service.Transcript

/-!
# Which lines are carried out

What a line must hold to be carried out. The type that it gives itself is read, and nothing asks for
it afterwards: it does not keep the line of a response from being carried out, which is kept only by
a response naming no operation.
-/

namespace Signoff

namespace Service

open Json LineDecoder

/-- A line is carried out if it reads as a request, and what else it holds then has the form of that
request: one type, one identifier and one operation. The type is looked at no further. A line that
calls itself a response but names an operation is carried out like the request it would otherwise
be, whoever sends it. What is written for a response names no operation, and is refused. -/
theorem envelope_type_is_ignored {σ : Type} [Store σ] (info : ServiceInfo) (now : Instant)
    (s : σ × Ambient) :
    (∀ (line : Bytes) (r : Request), readLine Request.schema.ofText line = .ok r →
      answer info now (readLine Request.schema.ofText line) s =
        handle info now { r with kind := .request } s ∧
      ∀ depth j, readLine (parseAll (readTree depth)) line = .ok j → r.Envelope j) ∧
    (∀ (r : Request) (j : Json), r.Envelope j → j.Whole → j.depth ≤ depthLimit →
      readLine Request.schema.ofText (encode j.compact) = .ok r) ∧
    ∀ (r : Response) (details : List (String × Value)),
      let line := encode (Json.object (r.members details)).compact
      ∃ e, readLine Request.schema.ofText line = .error e ∧
        answer info now (readLine Request.schema.ofText line) s =
          (.refuse "" (.ofCode .badRequest e.message), s) := by
  refine ⟨fun line r read => ⟨?_, fun depth j value => Request.envelope_of_readLine read value⟩,
    fun r j form whole le => Request.readLine_of_envelope form whole le, fun r details => ?_⟩
  · rw [read]
    rfl
  · obtain ⟨e, read⟩ := r.readLine_refuses details
    refine ⟨e, read, ?_⟩
    rw [read]
    show (Response.refuse "" (.ofCode (lineErrorCode e) e.message), s) = _
    rw [lineErrorCode_of_readLine read]

/-- A line with the type of a response that asks for a ping. -/
def disguisedPing : Request := ⟨.response, "1", .ping, .null⟩

/-- The line of it holds what it reads as, and is carried out like a request. -/
theorem disguised_ping_is_carried_out :
    let line := encode disguisedPing.toJson.compact
    disguisedPing.Envelope disguisedPing.toJson ∧
    answer Session.reviewer .epoch (readLine Request.schema.ofText line)
      (Engine.uncheckedRecords, .start true) =
      handle Session.reviewer .epoch { disguisedPing with kind := .request }
        (Engine.uncheckedRecords, .start true) := by
  intro line
  have form : disguisedPing.Envelope disguisedPing.toJson :=
    Request.decode_iff.1 (disguisedPing.decode_toJson : Request.schema.decode .given _ = _)
  have whole : disguisedPing.toJson.Whole :=
    Request.whole_toJson.2 (by simp [disguisedPing, Value.null, Json.Whole])
  have le : disguisedPing.toJson.depth ≤ depthLimit := by
    simp [disguisedPing, Request.depth_toJson, Value.null, depth, depthLimit]
  obtain ⟨carriedOut, isRead, -⟩ := envelope_type_is_ignored Session.reviewer .epoch
    (Engine.uncheckedRecords, .start true)
  obtain ⟨same, holds⟩ := carriedOut line _ (isRead _ _ form whole le)
  exact ⟨holds _ _ (readLine_value whole le), same⟩

/-- A line that has the type of a response is read as a request and carried out. -/
theorem line_of_response_type_is_carried_out :
    let line := encode "\x7b\"type\":\"response\",\"id\":\"1\",\"op\":\"PING\"\x7d"
    (readLine Request.schema.ofText line).toOption.map (fun r => (r.kind, r.operation)) =
      some (.response, .ping) ∧
    ∃ responses s', Serves Session.reviewer (fun _ => .epoch) 0 [line ++ [lineFeed]]
        (.start maxLineBytes) (Engine.uncheckedRecords, .start true) responses s' ∧
      responses.map (fun r => (r.id, r.status, r.result.map fun v => v.json.compact)) =
        [("1", .ok, some "\x7b\"pong\":true\x7d")] := by
  intro line
  refine ⟨by decide +kernel, _, _, serves_iff.2 (Prod.eta _).symm, ?_⟩
  have short : ∀ line' ∈ [line ++ [lineFeed]].flatten.splitOn lineFeed,
      line'.length ≤ maxLineBytes := by decide +kernel
  have answered : serve Session.reviewer (fun _ => .epoch) [line ++ [lineFeed]]
      (Engine.uncheckedRecords, .start true) = _ := serve_eq_transcript _ short
  show (serve Session.reviewer (fun _ => .epoch) [line ++ [lineFeed]]
    (Engine.uncheckedRecords, .start true)).1.map _ = _
  rw [answered]
  decide +kernel

end Service

end Signoff
