import Signoff.Message.ErrorCode
import Signoff.Message.Request
/-!
# Responses

A response answers the request with its id, with a result or with an error.

- `Response.ok` and `Response.error` are the two ways to answer.
-/

namespace Signoff

open Json (Schema memberIf memberOf? nameOf)

/-- A request was carried out or refused. -/
inductive ResponseStatus where
  | ok
  | error
deriving DecidableEq, Repr

/-- The names of the outcomes. -/
def ResponseStatus.names : List (String × ResponseStatus) := [("ok", .ok), ("error", .error)]

/-- The name of an outcome. -/
def ResponseStatus.name (s : ResponseStatus) : String := nameOf names s

/-- Why a request was refused, as a response tells it. -/
structure ResponseError where
  code : ErrorCode
  message : String
  retryable : Bool
  details : Table String Value

namespace ResponseError

/-- How an error is written. -/
def schema : Schema ResponseError :=
  .record "ResponseError"
    (.need "code" ErrorCode.schema <| .need "message" .text <| .need "retryable" .flag <|
      .orElse "details" .empty (.map Table.ofList (.table .value)) .nil)
    fun (code, message, retryable, details, ()) => ⟨code, message, retryable, details⟩

/-- An error as JSON; empty details are left out. -/
def toJson (e : ResponseError) : Json :=
  .object ([("code", e.code.toJson), ("message", .string e.message),
      ("retryable", .bool e.retryable)] ++
    memberIf (!e.details.isEmpty) "details"
      (.object (e.details.entries.map fun (key, v) => (key, v.json))))

/-- The error with a code, retryable if the code is, without details. -/
def ofCode (code : ErrorCode) (message : String) : ResponseError :=
  ⟨code, message, code.isRetryable, .empty⟩

/-- The error with one more detail. -/
def withDetail (e : ResponseError) (key : String) (v : Value) : ResponseError :=
  { e with details := e.details.insert key v }

end ResponseError

/-- What goes with a response. -/
structure ResponseMeta where
  serverTime : Option Instant
  httpStatus : Option UInt16
deriving DecidableEq

namespace ResponseMeta

/-- Nothing goes with a response. -/
def empty : ResponseMeta := ⟨none, none⟩

/-- Nothing goes with a response. -/
def isEmpty (m : ResponseMeta) : Bool := m.serverTime.isNone && m.httpStatus.isNone

/-- How it is written. -/
def schema : Schema ResponseMeta :=
  .record "ResponseMeta"
    (.orAbsent "server_time" .instant <|
      .orAbsent "http_status" (.map UInt16.ofFin (.natural "u16" UInt16.size)) .nil)
    fun (serverTime, httpStatus, ()) => ⟨serverTime, httpStatus⟩

/-- It as JSON. -/
def toJson (m : ResponseMeta) : Json :=
  .object (memberOf? "server_time" Instant.toJson m.serverTime ++
    memberOf? "http_status" (fun n => .ofNat n.toNat) m.httpStatus)

end ResponseMeta

/-- A response. -/
structure Response where
  kind : MessageKind
  id : String
  status : ResponseStatus
  result : Option Value
  error : Option ResponseError
  meta_ : ResponseMeta

namespace Response

/-- How a response is written. -/
def schema : Schema Response :=
  .record "Response"
    (.need "type" (.choice MessageKind.names) <| .need "id" .text <|
      .need "status" (.choice ResponseStatus.names) <| .orAbsent "result" .value <|
      .orAbsent "error" ResponseError.schema <| .orElse "meta" .empty ResponseMeta.schema .nil)
    fun (kind, id, status, result, error, meta_, ()) => ⟨kind, id, status, result, error, meta_⟩

/-- A response as JSON; what is absent is left out. -/
def toJson (r : Response) : Json :=
  .object ([("type", .string r.kind.name), ("id", .string r.id),
      ("status", .string r.status.name)] ++
    memberOf? "result" Value.json r.result ++
    memberOf? "error" ResponseError.toJson r.error ++
    memberIf (!r.meta_.isEmpty) "meta" r.meta_.toJson)

/-- Answers a request with a result. -/
def ok (id : String) (result : Value) : Response :=
  ⟨.response, id, .ok, some result, none, .empty⟩

/-- Refuses a request. -/
def refuse (id : String) (error : ResponseError) : Response :=
  ⟨.response, id, .error, none, some error, ⟨none, some error.code.httpStatus⟩⟩

/-- The response with the time at which it was made. -/
def at_ (r : Response) (now : Instant) : Response :=
  { r with meta_ := { r.meta_ with serverTime := some now } }

/-- The request was carried out. -/
def isOk (r : Response) : Bool := r.status == .ok

end Response

end Signoff
