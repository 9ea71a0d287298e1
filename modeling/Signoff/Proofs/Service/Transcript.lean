import Signoff.Command.Run
import Signoff.Proofs.Engine.Availability
import Signoff.Proofs.Json.Compact
import Signoff.Proofs.Message.Decoding
import Signoff.Proofs.Service.Session

/-!
# What is answered follows from the lines that ask

The service reads its input in pieces. After each piece it takes the lines that have ended one by
one and answers each before it takes the next (`Answers`); when the input has ended, so has its last
line (`Serves`). However the input is cut, each line that is not blank gets one answer, in the order
of the lines and from the state that the answers before it have left (`transcript`).

* `serves_iff`: the loops, as the functions that run.
* `servePieces_eq`: what is answered is what the decoder gives for the input and a last line feed.
* `answerAll_readings`: answering what lines read as gives their transcript.
* `encode_encodeResponses`: the bytes of the answers, line by line.
-/

namespace Signoff

namespace Service

open LineDecoder

variable {σ : Type} [Store σ] (info : ServiceInfo) (clock : Nat → Instant)

/-- The lines of an input that ask for an answer: all that are not blank, the last one too. -/
def askedLines (input : Bytes) : List Bytes :=
  (input.splitOn lineFeed).filter fun line => !isBlankLine line

/-- The answers to lines. A line that reads as a request is answered as a request, and the next line
from the state that this leaves; any other line is refused and leaves the state as it is. -/
def transcript :
    (answered : Nat) → List Bytes → σ × Ambient → List Response × σ × Ambient
  | _, [], s => ([], s)
  | answered, line :: lines, s =>
    let (response, s) := match readLine Request.schema.ofText line with
      | .ok r => handle info (clock answered) r s
      | .error e => (.refuse "" (.ofCode .badRequest e.message), s)
    let (responses, s) := transcript (answered + 1) lines s
    (response :: responses, s)

/-- A line is taken and answered before the next is taken, until there is none. -/
inductive Answers : (answered : Nat) → LineDecoder → σ × Ambient →
    List Response → LineDecoder → σ × Ambient → Prop
  | done {n : Nat} {d d' : LineDecoder} {s : σ × Ambient}
      (nothing : d.next Request.schema.ofText = (none, d')) : Answers n d s [] d' s
  | more {n : Nat} {d d' d'' : LineDecoder} {s s' s'' : σ × Ambient} {response : Response}
      {responses : List Response} {line : Except LineError Request}
      (taken : d.next Request.schema.ofText = (some line, d'))
      (answered : answer info (clock n) line s = (response, s'))
      (rest : Answers (n + 1) d' s' responses d'' s'') :
      Answers n d s (response :: responses) d'' s''

/-- The pieces of an input are read and answered one by one. Once it has ended, a line that is left
open is ended and answered. -/
inductive Serves : (answered : Nat) → List Bytes → LineDecoder → σ × Ambient →
    List Response → σ × Ambient → Prop
  | piece {n : Nat} {piece : Bytes} {pieces : List Bytes} {d d' : LineDecoder}
      {s s' s'' : σ × Ambient} {responses more : List Response}
      (answers : Answers info clock n (d.extend piece) s responses d' s')
      (rest : Serves (n + responses.length) pieces d' s' more s'') :
      Serves n (piece :: pieces) d s (responses ++ more) s''
  | last {n : Nat} {d d' : LineDecoder} {s s' : σ × Ambient} {responses : List Response}
      (left : d.buffered ≠ 0)
      (answers : Answers info clock n (d.extend [lineFeed]) s responses d' s') :
      Serves n [] d s responses s'
  | end_ {n : Nat} {d : LineDecoder} {s : σ × Ambient} (nothing : d.buffered = 0) :
      Serves n [] d s [] s

/-! ## The loops -/

variable {info clock}

theorem answers_iff {n : Nat} {d d' : LineDecoder} {s s' : σ × Ambient}
    {responses : List Response} :
    Answers info clock n d s responses d' s' ↔
      ∃ lines, Drains Request.schema.ofText d lines d' ∧
        answerAll info clock n lines s = (responses, s') := by
  constructor
  · intro h
    induction h with
    | done nothing => exact ⟨[], .done nothing, rfl⟩
    | more taken answered _ ih =>
      obtain ⟨lines, drains, all⟩ := ih
      refine ⟨_ :: lines, .more taken drains, ?_⟩
      rw [answerAll, answered]
      dsimp only
      rw [all]
  · rintro ⟨lines, drains, all⟩
    induction drains generalizing n s responses with
    | done nothing =>
      cases all
      exact .done nothing
    | more taken _ ih =>
      cases all
      exact .more taken rfl (ih rfl)

/-- Taking a piece is answering all that there is once it is added. -/
theorem answers_take {n : Nat} {piece : Bytes} {d d' : LineDecoder} {s s' : σ × Ambient}
    {responses : List Response} :
    Answers info clock n (d.extend piece) s responses d' s' ↔
      take info clock n piece d s = (responses, d', s') := by
  rw [answers_iff]
  constructor
  · rintro ⟨lines, drains, all⟩
    rw [take, drains_iff.1 drains]
    dsimp only
    rw [all]
  · intro h
    cases h
    exact ⟨_, drains_iff.2 rfl, rfl⟩

/-- Serving the pieces is reading and answering them until the input has ended, which comes to an
end for every input. -/
theorem serves_iff {n : Nat} {pieces : List Bytes} {d : LineDecoder} {s s' : σ × Ambient}
    {responses : List Response} :
    Serves info clock n pieces d s responses s' ↔
      servePieces info clock n pieces d s = (responses, s') := by
  constructor
  · intro h
    induction h with
    | piece answers _ ih =>
      rw [servePieces, answers_take.1 answers]
      dsimp only
      rw [ih]
    | last left answers =>
      rw [servePieces, finish, if_neg left, answers_take.1 answers]
    | end_ nothing => rw [servePieces, finish, if_pos nothing]
  · intro h
    induction pieces generalizing n d s responses with
    | nil =>
      rw [servePieces, finish] at h
      split at h
      · rename_i nothing
        cases h
        exact .end_ nothing
      · rename_i left
        cases h
        exact .last left (answers_take.2 rfl)
    | cons piece pieces ih =>
      cases h
      exact .piece (answers_take.2 rfl) (ih rfl)

/-! ## Answering what the decoder gives -/

theorem answerAll_length (n : Nat) (lines : List (Except LineError Request)) (s : σ × Ambient) :
    (answerAll info clock n lines s).1.length = lines.length := by
  induction lines generalizing n s with
  | nil => rfl
  | cons line lines ih => exact congrArg (· + 1) (ih _ _)

theorem answerAll_append (n : Nat) (lines more : List (Except LineError Request))
    (s : σ × Ambient) :
    answerAll info clock n (lines ++ more) s =
      let (responses, s) := answerAll info clock n lines s
      let (further, s) := answerAll info clock (n + responses.length) more s
      (responses ++ further, s) := by
  induction lines generalizing n s with
  | nil => rfl
  | cons line lines ih =>
    rw [List.cons_append, answerAll, answerAll]
    dsimp only
    rw [ih]
    dsimp only
    rw [List.length_cons, Nat.add_assoc, Nat.add_comm 1]
    rfl

/-- When no line is open, ending it asks for nothing. -/
theorem nextAll_lineFeed (limit : Nat) :
    nextAll Request.schema.ofText ⟨limit, [lineFeed]⟩ = ([], .start limit) := by
  have short : ∀ line ∈ endedLines [lineFeed], line.length ≤ limit := fun line mem => by
    obtain rfl : line = [] := List.mem_singleton.1 mem
    exact Nat.zero_le limit
  rw [nextAll_of_le (Nat.zero_le limit), verdicts_eq_readings _ short]
  rfl

/-- What is answered is what the decoder gives for the input and a last line feed. -/
theorem servePieces_eq (n : Nat) (pieces : List Bytes) (d : LineDecoder) (s : σ × Ambient) :
    servePieces info clock n pieces d s =
      answerAll info clock n (feed Request.schema.ofText (pieces ++ [[lineFeed]]) d).1 s := by
  induction pieces generalizing n d s with
  | nil =>
    have last : (feed Request.schema.ofText ([] ++ [[lineFeed]]) d).1 =
        ((d.extend [lineFeed]).nextAll Request.schema.ofText).1 := List.append_nil _
    rw [servePieces, finish, last]
    split
    · rename_i nothing
      obtain ⟨limit, buffer⟩ := d
      obtain rfl : buffer = [] := List.eq_nil_of_length_eq_zero nothing
      rw [extend, List.nil_append, nextAll_lineFeed]
      rfl
    · rfl
  | cons piece pieces ih =>
    rw [servePieces, List.cons_append, feed, take]
    dsimp only
    rw [ih, answerAll_append]

/-! ## Answering lines -/

/-- Every line that is not too long and no request is a bad request. -/
theorem lineErrorCode_of_readLine {line : Bytes} {e : LineError}
    (h : readLine Request.schema.ofText line = .error e) : lineErrorCode e = .badRequest := by
  unfold readLine at h
  split at h
  · generalize Request.schema.ofText _ = read at h
    cases read with
    | ok r => cases h
    | error e => cases h; rfl
  · cases h
    rfl

/-- Answering what lines read as gives their transcript. -/
theorem answerAll_readings (n : Nat) (lines : List Bytes) (s : σ × Ambient) :
    answerAll info clock n (lines.map (readLine Request.schema.ofText)) s =
      transcript info clock n lines s := by
  induction lines generalizing n s with
  | nil => rfl
  | cons line lines ih =>
    have same : answer info (clock n) (readLine Request.schema.ofText line) s =
        match readLine Request.schema.ofText line with
        | .ok r => handle info (clock n) r s
        | .error e => (.refuse "" (.ofCode .badRequest e.message), s) := by
      cases hr : readLine Request.schema.ofText line with
      | ok r => rfl
      | error e =>
        show (Response.refuse "" (.ofCode (lineErrorCode e) e.message), s) = _
        rw [lineErrorCode_of_readLine hr]
    rw [List.map_cons, answerAll, transcript, same]
    dsimp only
    rw [ih]

theorem serve_eq_transcript {pieces : List Bytes} (s : σ × Ambient)
    (short : ∀ line ∈ pieces.flatten.splitOn lineFeed, line.length ≤ maxLineBytes) :
    serve info clock pieces s = transcript info clock 0 (askedLines pieces.flatten) s := by
  have all : (pieces ++ [[lineFeed]]).flatten = pieces.flatten ++ [lineFeed] := by
    rw [List.flatten_append, List.flatten_singleton]
  have short' : ∀ line ∈ (pieces ++ [[lineFeed]]).flatten.splitOn lineFeed,
      line.length ≤ maxLineBytes := by
    rw [all, splitOn_append]
    refine List.forall_mem_append.2 ⟨short, fun line mem => ?_⟩
    obtain rfl : line = [] := List.mem_singleton.1 mem
    exact Nat.zero_le _
  rw [serve, servePieces_eq, feed_of_short short', all, endedLines_concat, ← answerAll_readings]
  rfl

theorem transcript_length (n : Nat) (lines : List Bytes) (s : σ × Ambient) :
    (transcript info clock n lines s).1.length = lines.length := by
  rw [← answerAll_readings, answerAll_length, List.length_map]

/-! ## The bytes of the answers -/

/-- The answers are written one after the other, each as a line. -/
theorem encode_encodeResponses (responses : List Response) :
    encode (Command.encodeResponses responses) =
      (responses.map fun r => encode r.toJson.compact).flatMap (· ++ [lineFeed]) := by
  rw [Command.encodeResponses, encode, encodeChars, String.toList_join, List.flatMap_map,
    List.flatMap_map, List.flatMap_assoc]
  exact List.flatMap_congr fun r _ => encode_encodeLine r.toJson

/-- However the input is cut into pieces, reading and answering it comes to an end, and if no line
is too long the answers are the transcript of its lines that are not blank: one for each, written
as one line each. -/
theorem answers_follow_lines (info : ServiceInfo) (clock : Nat → Instant) (pieces : List Bytes)
    (s : σ × Ambient)
    (short : ∀ line ∈ pieces.flatten.splitOn lineFeed, line.length ≤ maxLineBytes) :
    let asked := askedLines pieces.flatten
    let out := serve info clock pieces s
    (∀ responses s', Serves info clock 0 pieces (.start maxLineBytes) s responses s' ↔
      (responses, s') = out) ∧
    out = transcript info clock 0 asked s ∧
    out.1.length = asked.length ∧
    endedLines (encode (Command.encodeResponses out.1)) =
      out.1.map (fun r => encode r.toJson.compact) ∧
    openLine (encode (Command.encodeResponses out.1)) = [] := by
  intro asked out
  have same : out = transcript info clock 0 asked s := serve_eq_transcript s short
  have free : ∀ line ∈ out.1.map fun r => encode r.toJson.compact, lineFeed ∉ line := by
    intro line mem
    obtain ⟨r, -, rfl⟩ := List.mem_map.1 mem
    exact fun feed => absurd (r.toJson.byte_encode_compact _ feed) (by decide)
  obtain ⟨ended, opened⟩ := endedLines_flatMap free
  refine ⟨fun responses s' => serves_iff.trans eq_comm, same, ?_, ?_, ?_⟩
  · rw [same, transcript_length]
  · rw [encode_encodeResponses, ended]
  · rw [encode_encodeResponses, opened]

/-- A request cut inside and before its line feed, a blank line, and the request once more on a line
that does not end. -/
def cutInput : List Bytes :=
  let sent := encode (Session.ask .applyEvent
    [("document_id", .string "d"), ("event", .string "skip")]).toJson.compact
  [sent.take 40, sent.drop 40 ++ [0x0d], [0x0a, 0x20, 0x0a] ++ sent, [0xff]]

/-- The event is fired, and the line that does not end is refused for the byte at its end. -/
theorem cut_request_is_answered :
    ∃ responses s', Serves Session.reviewer (fun _ => .epoch) 0 cutInput (.start maxLineBytes)
        (Engine.uncheckedRecords, .start true) responses s' ∧
      responses.map (fun r => (r.id, r.status)) = [("1", .ok), ("", .error)] ∧
      (s'.1.documents.get? "d").map (·.current) = some "Lost" := by
  obtain ⟨serves, same, -⟩ := answers_follow_lines Session.reviewer (fun _ => .epoch) cutInput
    (Engine.uncheckedRecords, .start true) (by decide +kernel)
  rw [same] at serves
  exact ⟨_, _, (serves _ _).2 (Prod.eta _), by decide +kernel⟩

end Service

end Signoff
