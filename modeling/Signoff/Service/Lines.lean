import Signoff.Service.Handler
/-!
# Serving lines

Requests come as lines and are answered in order, one line for each. A line that is no request is
answered too, by an error response without an id, and changes nothing.

- `Service.answer` answers what a line decoder gives; `Service.serve` a whole stream.
-/

namespace Signoff.Service

variable {σ : Type} [Store σ]

/-- The longest request line, in bytes. -/
def maxLineBytes : Nat := 4194304

/-- The code that goes with a line that is no request. -/
def lineErrorCode : LineError → ErrorCode
  | .tooLong _ _ => .payloadTooLarge
  | _ => .badRequest

/-- Refuses a line that is no request. -/
def refuseLine (e : LineError) : Response := .refuse "" (.ofCode (lineErrorCode e) e.message)

/-- Answers a line at a time. -/
def answer (info : ServiceInfo) (now : Instant) (line : Except LineError Request)
    (s : σ × Ambient) : Response × σ × Ambient :=
  match line with
  | .ok r => handle info now r s
  | .error e => (refuseLine e, s)

/-- Answers lines in order. The clock tells when each line of a stream is answered, by the number of
lines answered before it. -/
def answerAll (info : ServiceInfo) (clock : Nat → Instant) :
    (answered : Nat) → List (Except LineError Request) → σ × Ambient →
      List Response × σ × Ambient
  | _, [], s => ([], s)
  | answered, line :: rest, s =>
    let (response, s) := answer info (clock answered) line s
    let (responses, s) := answerAll info clock (answered + 1) rest s
    (response :: responses, s)

/-- Takes a piece of the stream and answers the lines that have ended. -/
def take (info : ServiceInfo) (clock : Nat → Instant) (answered : Nat) (piece : Bytes)
    (d : LineDecoder) (s : σ × Ambient) : List Response × LineDecoder × σ × Ambient :=
  let (lines, d) := (d.extend piece).nextAll Request.schema.ofText
  let (responses, s) := answerAll info clock answered lines s
  (responses, d, s)

/-- Answers what remains when the stream has ended, as if its last line had ended too. -/
def finish (info : ServiceInfo) (clock : Nat → Instant) (answered : Nat) (d : LineDecoder)
    (s : σ × Ambient) : List Response × σ × Ambient :=
  if d.buffered = 0 then ([], s)
  else
    let (responses, _, s) := take info clock answered [lineFeed] d s
    (responses, s)

/-- Answers the pieces of a stream. -/
def servePieces (info : ServiceInfo) (clock : Nat → Instant) :
    (answered : Nat) → List Bytes → LineDecoder → σ × Ambient → List Response × σ × Ambient
  | answered, [], d, s => finish info clock answered d s
  | answered, piece :: rest, d, s =>
    let (responses, d, s) := take info clock answered piece d s
    let (more, s) := servePieces info clock (answered + responses.length) rest d s
    (responses ++ more, s)

/-- Answers a stream that comes in pieces. -/
def serve (info : ServiceInfo) (clock : Nat → Instant) (pieces : List Bytes) (s : σ × Ambient) :
    List Response × σ × Ambient :=
  servePieces info clock 0 pieces (.start maxLineBytes) s

end Signoff.Service
