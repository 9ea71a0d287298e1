import Signoff.Json.Schema.Reader
import Signoff.Json.Printer
import Signoff.Text.Blank
/-!
# Lines of messages

Messages are written as JSON, one to a line. A decoder collects the bytes of a stream and takes the
messages off it line by line. Blank lines carry no message, and a line that is too long is an error.
When a line is too long that has not ended yet, what has come of it is dropped, and what comes next
is taken for a line of its own.

- `LineDecoder.next` takes the next message; `encodeLine` writes one.
-/

namespace Signoff

/-- What keeps a line from being a message. -/
inductive LineError where
  | tooLong (size limit : Nat)
  | json (e : Json.Error)
  | notUtf8
deriving DecidableEq

/-- The wording of an error. -/
def LineError.message : LineError → String
  | .tooLong size limit => s!"line too long: {size} bytes (max {limit})"
  | .json e => s!"JSON error: {e.message}"
  | .notUtf8 => "invalid UTF-8 in payload"

/-- The byte that ends a line. -/
def lineFeed : UInt8 := 10

/-- A message as a line. -/
def encodeLine (j : Json) : String := j.compact ++ "\n"

/-- Splits the first line off, if it has ended. -/
def splitLine (bytes : Bytes) : Option (Bytes × Bytes) :=
  match bytes.dropWhile (· != lineFeed) with
  | _ :: rest => some (bytes.takeWhile (· != lineFeed), rest)
  | [] => none

theorem splitLine_length {bytes line rest : Bytes} (h : splitLine bytes = some (line, rest)) :
    rest.length < bytes.length := by
  unfold splitLine at h
  split at h
  · rename_i hs
    cases h
    have := (List.dropWhile_suffix (l := bytes) (· != lineFeed)).length_le
    rw [hs, List.length_cons] at this
    omega
  · cases h

/-- Drops carriage returns at the end of a line. -/
def dropReturns (cs : List Char) : List Char := (cs.reverse.dropWhile (· == '\r')).reverse

/-- The message on a line, unless the line is blank. -/
def decodeLine {α : Type} (parse : Text → Except Json.Error α) (limit : Nat) (line : Bytes) :
    Option (Except LineError α) :=
  if limit < line.length then some (.error (.tooLong line.length limit))
  else
    match decode? line with
    | none => some (.error .notUtf8)
    | some s =>
      let cs := dropReturns s.toList
      if cs.all isBlank then none else some ((parse (.ofChars cs)).mapError .json)

/-- The bytes of a stream that were not taken yet, and the longest line that is taken. -/
structure LineDecoder where
  limit : Nat
  buffer : Bytes

namespace LineDecoder

/-- A decoder before the first byte. -/
def start (limit : Nat) : LineDecoder := ⟨limit, []⟩

/-- The number of bytes that were not taken yet. -/
def buffered (d : LineDecoder) : Nat := d.buffer.length

/-- Adds bytes of the stream. -/
def extend (d : LineDecoder) (bytes : Bytes) : LineDecoder :=
  { d with buffer := d.buffer ++ bytes }

/-- Takes the next message or error from a buffer, if a line has ended or grown too long. -/
def nextFrom {α : Type} (parse : Text → Except Json.Error α) (limit : Nat) (buffer : Bytes) :
    Option (Except LineError α) × Bytes :=
  match _ : splitLine buffer with
  | none =>
    if limit < buffer.length then (some (.error (.tooLong buffer.length limit)), [])
    else (none, buffer)
  | some (line, rest) =>
    match decodeLine parse limit line with
    | some r => (some r, rest)
    | none => nextFrom parse limit rest
termination_by buffer.length
decreasing_by exact splitLine_length ‹_›

/-- Takes the next message or error, if there is one yet. -/
def next {α : Type} (parse : Text → Except Json.Error α) (d : LineDecoder) :
    Option (Except LineError α) × LineDecoder :=
  let (r, buffer) := nextFrom parse d.limit d.buffer
  (r, { d with buffer })

/-- Takes all messages and errors that there are yet, each of which takes a byte at least. -/
def drain {α : Type} (parse : Text → Except Json.Error α) :
    (fuel : Nat) → LineDecoder → List (Except LineError α) × LineDecoder
  | 0, d => ([], d)
  | fuel + 1, d =>
    match d.next parse with
    | (none, d) => ([], d)
    | (some r, d) =>
      let (rs, d) := drain parse fuel d
      (r :: rs, d)

/-- Takes all messages and errors that there are yet. -/
def nextAll {α : Type} (parse : Text → Except Json.Error α) (d : LineDecoder) :
    List (Except LineError α) × LineDecoder :=
  d.drain parse d.buffered

end LineDecoder

end Signoff
