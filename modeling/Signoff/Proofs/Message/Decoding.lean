import Signoff.Message.Request
import Signoff.Proofs.Message.Stream

/-!
# Decoding the lines of a stream

A decoder is fed the pieces of a stream, and after each piece the messages that are there are taken
until there is none (`LineDecoder.Feeds`). If no line is too long, what is taken follows from the
lines of the stream alone (`decoding_ignores_cuts`).

A line that is too long is refused as a whole if its end comes before a piece ends inside it. If a
piece ends inside it, what has come of it is dropped and the decoder starts afresh: the line is
taken to end there (`overlong_lines`), and the rest of it is taken for a line of its own
(`rest_of_overlong_line_is_read`).

* `readings`, `verdicts`: what lines read as, and what they give under a limit.
* `LineDecoder.drains_iff`, `feeds_iff`: taking until there is none, as the functions that do it.
* `LineDecoder.drains_buffer`: everything that one buffer holds.
* `LineDecoder.streamTaken`, `feed_eq`: the stream that a decoder takes its pieces for.
-/

namespace Signoff

variable {α : Type} (parse : Text → Except Json.Error α)

/-! ## What a line reads as -/

/-- The line holds nothing but white space. -/
def isBlankLine (line : Bytes) : Bool :=
  match decode? line with
  | some text => text.toList.all isBlank
  | none => false

/-- What a line reads as that is not blank: the message that it holds without the carriage returns
at its end. -/
def readLine (line : Bytes) : Except LineError α :=
  match decode? line with
  | some text => (parse (.ofChars (text.toList.rdropWhile (· == '\r')))).mapError .json
  | none => .error .notUtf8

/-- What lines read as, in their order; blank lines hold nothing. -/
def readings (lines : List Bytes) : List (Except LineError α) :=
  (lines.filter fun line => !isBlankLine line).map (readLine parse)

/-- What lines give under a limit: a longer one is refused. -/
def verdicts (limit : Nat) (lines : List Bytes) : List (Except LineError α) :=
  lines.flatMap fun line =>
    if limit < line.length then [.error (.tooLong line.length limit)] else readings parse [line]

theorem all_dropWhile {p q : Char → Bool} (h : ∀ c, p c = true → q c = true) (cs : List Char) :
    (cs.dropWhile p).all q = cs.all q := by
  induction cs with
  | nil => rfl
  | cons c cs ih =>
    cases hc : p c with
    | true => rw [List.dropWhile_cons_of_pos hc, ih, List.all_cons, h c hc, Bool.true_and]
    | false => rw [List.dropWhile_cons_of_neg (by simp [hc])]

/-- Carriage returns are white space, so dropping them does not make a line blank. -/
theorem all_dropReturns (cs : List Char) : (dropReturns cs).all isBlank = cs.all isBlank := by
  rw [dropReturns, List.all_reverse, all_dropWhile fun c hc => ?_, List.all_reverse]
  rw [eq_of_beq hc]
  decide

theorem readings_singleton (line : Bytes) :
    readings parse [line] = if isBlankLine line then [] else [readLine parse line] := by
  rw [readings]
  cases h : isBlankLine line <;> simp [h]

theorem readings_cons (line : Bytes) (lines : List Bytes) :
    readings parse (line :: lines) = readings parse [line] ++ readings parse lines := by
  unfold readings
  rw [← List.map_append, ← List.filter_append, List.singleton_append]

theorem decodeLine_toList (limit : Nat) (line : Bytes) :
    (decodeLine parse limit line).toList =
      if limit < line.length then [.error (.tooLong line.length limit)]
      else readings parse [line] := by
  unfold decodeLine
  by_cases long : limit < line.length
  · rw [if_pos long, if_pos long]
    rfl
  · rw [if_neg long, if_neg long, readings_singleton, isBlankLine, readLine]
    cases decode? line with
    | none => rfl
    | some text =>
      dsimp only
      rw [all_dropReturns]
      split <;> rfl

theorem verdicts_cons (limit : Nat) (line : Bytes) (lines : List Bytes) :
    verdicts parse limit (line :: lines) =
      (decodeLine parse limit line).toList ++ verdicts parse limit lines := by
  rw [decodeLine_toList]
  rfl

theorem verdicts_append (limit : Nat) (lines more : List Bytes) :
    verdicts parse limit (lines ++ more) =
      verdicts parse limit lines ++ verdicts parse limit more :=
  List.flatMap_append

/-- Lines that are not too long give what they read as. -/
theorem verdicts_eq_readings {limit : Nat} {lines : List Bytes}
    (short : ∀ line ∈ lines, line.length ≤ limit) :
    verdicts parse limit lines = readings parse lines := by
  induction lines with
  | nil => rfl
  | cons line lines ih =>
    obtain ⟨h, others⟩ := List.forall_mem_cons.1 short
    rw [verdicts, List.flatMap_cons, if_neg (Nat.not_lt.2 h)]
    show _ ++ verdicts parse limit lines = _
    rw [ih others, ← readings_cons]

/-! ## Taking what is there -/

namespace LineDecoder

/-- Messages are taken until there is none. -/
inductive Drains : LineDecoder → List (Except LineError α) → LineDecoder → Prop
  | done {d d' : LineDecoder} (nothing : d.next parse = (none, d')) : Drains d [] d'
  | more {d d' d'' : LineDecoder} {r : Except LineError α} {rs : List (Except LineError α)}
      (taken : d.next parse = (some r, d')) (rest : Drains d' rs d'') : Drains d (r :: rs) d''

/-- The pieces of a stream are added one by one, and what is there is taken after each. -/
inductive Feeds : LineDecoder → List Bytes → List (Except LineError α) → LineDecoder → Prop
  | nil {d : LineDecoder} : Feeds d [] [] d
  | cons {d d' d'' : LineDecoder} {piece : Bytes} {pieces : List Bytes}
      {rs more : List (Except LineError α)} (drained : Drains parse (d.extend piece) rs d')
      (rest : Feeds d' pieces more d'') : Feeds d (piece :: pieces) (rs ++ more) d''

/-- What is taken from the pieces of a stream, and the decoder that is left. -/
def feed : List Bytes → LineDecoder → List (Except LineError α) × LineDecoder
  | [], d => ([], d)
  | piece :: pieces, d =>
    let (rs, d) := (d.extend piece).nextAll parse
    let (more, d) := feed pieces d
    (rs ++ more, d)

variable {parse} {d d' d'' : LineDecoder} {rs rs' : List (Except LineError α)} {limit : Nat}

theorem Drains.unique (h : Drains parse d rs d') (h' : Drains parse d rs' d'') :
    rs = rs' ∧ d' = d'' := by
  induction h generalizing rs' with
  | done nothing =>
    cases h' with
    | done nothing' => exact ⟨rfl, (Prod.mk.inj (nothing.symm.trans nothing')).2⟩
    | more taken => cases nothing.symm.trans taken
  | more taken _ ih =>
    cases h' with
    | done nothing => cases nothing.symm.trans taken
    | more taken' rest' =>
      cases taken.symm.trans taken'
      obtain ⟨rfl, rfl⟩ := ih rest'
      exact ⟨rfl, rfl⟩

/-- What is taken from a decoder depends on what is taken next only. -/
theorem Drains.of_next (same : d.next parse = d'.next parse) (h : Drains parse d' rs d'') :
    Drains parse d rs d'' := by
  cases h with
  | done nothing => exact .done (same.trans nothing)
  | more taken rest => exact .more (same.trans taken) rest

theorem nextFrom_of_free {line : Bytes} (free : lineFeed ∉ line) :
    nextFrom parse limit line =
      if limit < line.length then (some (.error (.tooLong line.length limit)), [])
      else (none, line) := by
  rw [nextFrom]
  split
  · rfl
  · rename_i h
    rw [splitLine_of_free free] at h
    cases h

theorem nextFrom_append_cons {line : Bytes} (free : lineFeed ∉ line) (rest : Bytes) :
    nextFrom parse limit (line ++ lineFeed :: rest) = match decodeLine parse limit line with
      | some r => (some r, rest)
      | none => nextFrom parse limit rest := by
  rw [nextFrom]
  split
  · rename_i h
    rw [splitLine_append_cons free] at h
    cases h
  · rename_i h
    rw [splitLine_append_cons free] at h
    cases h
    rfl

variable (parse limit) in
theorem next_of_free {line : Bytes} (free : lineFeed ∉ line) :
    next parse ⟨limit, line⟩ =
      if limit < line.length then (some (.error (.tooLong line.length limit)), .start limit)
      else (none, ⟨limit, line⟩) := by
  unfold next
  dsimp only
  rw [nextFrom_of_free free]
  split <;> rfl

variable (parse limit) in
theorem next_append_cons {line : Bytes} (free : lineFeed ∉ line) (rest : Bytes) :
    next parse ⟨limit, line ++ lineFeed :: rest⟩ = match decodeLine parse limit line with
      | some r => (some r, ⟨limit, rest⟩)
      | none => next parse ⟨limit, rest⟩ := by
  unfold next
  dsimp only
  rw [nextFrom_append_cons free]
  cases decodeLine parse limit line <;> rfl

/-- An empty buffer holds nothing. -/
theorem next_start : next parse (.start limit) = (none, .start limit) := by
  rw [start, next_of_free parse limit List.not_mem_nil]
  exact if_neg (Nat.not_lt_zero _)

/-- A line that is open gives nothing, unless it is too long already: then what there is of it is
dropped. -/
theorem drains_open {line : Bytes} (free : lineFeed ∉ line) :
    Drains parse ⟨limit, line⟩
      (if limit < line.length then [.error (.tooLong line.length limit)] else [])
      ⟨limit, if limit < line.length then [] else line⟩ := by
  have nothing := next_of_free parse limit free
  by_cases long : limit < line.length
  · rw [if_pos long] at nothing
    rw [if_pos long, if_pos long]
    exact .more nothing (.done next_start)
  · rw [if_neg long] at nothing
    rw [if_neg long, if_neg long]
    exact .done nothing

variable (parse limit) in
/-- Everything that one buffer holds. -/
theorem drains_buffer (buffer : Bytes) :
    Drains parse ⟨limit, buffer⟩
      (verdicts parse limit (endedLines buffer) ++
        if limit < (openLine buffer).length then
          [.error (.tooLong (openLine buffer).length limit)] else [])
      ⟨limit, if limit < (openLine buffer).length then [] else openLine buffer⟩ := by
  induction buffer using stream_induction with
  | open_ line free =>
    rw [endedLines_of_free free, openLine_of_free free]
    exact drains_open free
  | ended line rest free ih =>
    rw [endedLines_append_cons free, openLine_append_cons, verdicts_cons, List.append_assoc]
    have next := next_append_cons parse limit free rest
    cases hl : decodeLine parse limit line with
    | none =>
      rw [hl] at next
      exact ih.of_next next
    | some r =>
      rw [hl] at next
      exact .more next ih

theorem next_shorter {r : Except LineError α} (h : d.next parse = (some r, d')) :
    d'.buffered < d.buffered := by
  obtain ⟨limit, buffer⟩ := d
  induction buffer using stream_induction with
  | open_ line free =>
    rw [next_of_free parse limit free] at h
    split at h
    · rename_i long
      cases h
      exact Nat.lt_of_le_of_lt (Nat.zero_le _) long
    · cases h
  | ended line rest free ih =>
    have shorter : rest.length < (line ++ lineFeed :: rest).length := by
      rw [List.length_append, List.length_cons]
      omega
    rw [next_append_cons parse limit free] at h
    cases hl : decodeLine parse limit line with
    | some r' =>
      rw [hl] at h
      cases h
      exact shorter
    | none =>
      rw [hl] at h
      exact Nat.lt_trans (ih h) shorter

theorem drain_drains (fuel : Nat) (enough : d.buffered ≤ fuel) :
    Drains parse d (d.drain parse fuel).1 (d.drain parse fuel).2 := by
  induction fuel generalizing d with
  | zero =>
    obtain ⟨limit, buffer⟩ := d
    obtain rfl : buffer = [] := List.eq_nil_of_length_eq_zero (Nat.le_zero.1 enough)
    exact .done next_start
  | succ fuel ih =>
    rw [drain]
    generalize hn : d.next parse = out
    obtain ⟨_ | r, d'⟩ := out
    · exact .done hn
    · have := next_shorter hn
      exact .more hn (ih (by omega))

/-- Taking everything is taking until there is none, which comes to an end for every decoder. -/
theorem drains_iff : Drains parse d rs d' ↔ d.nextAll parse = (rs, d') := by
  have drains : Drains parse d (d.nextAll parse).1 (d.nextAll parse).2 :=
    drain_drains _ (Nat.le_refl _)
  constructor
  · intro h
    obtain ⟨same, same'⟩ := drains.unique h
    exact Prod.ext same same'
  · intro h
    rw [h] at drains
    exact drains

theorem feeds_iff {pieces : List Bytes} :
    Feeds parse d pieces rs d' ↔ feed parse pieces d = (rs, d') := by
  constructor
  · intro h
    induction h with
    | nil => rfl
    | cons drained _ ih =>
      rw [feed, drains_iff.1 drained]
      dsimp only
      rw [ih]
  · intro h
    induction pieces generalizing d rs with
    | nil =>
      cases h
      exact .nil
    | cons piece pieces ih =>
      cases h
      exact .cons (drains_iff.2 rfl) (ih rfl)

theorem feeds_feed (pieces : List Bytes) (d : LineDecoder) :
    Feeds parse d pieces (feed parse pieces d).1 (feed parse pieces d).2 :=
  feeds_iff.2 rfl

/-! ## The pieces of a stream -/

/-- A buffer gives what its lines give, and keeps its open line, unless that is too long already. -/
theorem nextAll_of_le {buffer : Bytes} (fits : (openLine buffer).length ≤ limit) :
    nextAll parse ⟨limit, buffer⟩ =
      (verdicts parse limit (endedLines buffer), ⟨limit, openLine buffer⟩) := by
  have drains := drains_buffer parse limit buffer
  rw [if_neg (Nat.not_lt.2 fits), if_neg (Nat.not_lt.2 fits), List.append_nil] at drains
  exact drains_iff.1 drains

/-- An open line that is too long already is refused, and the decoder starts afresh. -/
theorem nextAll_of_lt {buffer : Bytes} (long : limit < (openLine buffer).length) :
    nextAll parse ⟨limit, buffer⟩ =
      (verdicts parse limit (endedLines buffer) ++
        [.error (.tooLong (openLine buffer).length limit)], .start limit) := by
  have drains := drains_buffer parse limit buffer
  rw [if_pos long, if_pos long] at drains
  exact drains_iff.1 drains

/-- The stream as a decoder takes it that holds the start of a line: where a piece ends inside a
line of which more has come than the limit, the line is taken to end. -/
def streamTaken (limit : Nat) : (buffer : Bytes) → List Bytes → Bytes
  | _, [] => []
  | buffer, piece :: pieces =>
    if limit < (openLine (buffer ++ piece)).length then
      piece ++ lineFeed :: streamTaken limit [] pieces
    else piece ++ streamTaken limit (openLine (buffer ++ piece)) pieces

/-- A stream gives what the lines give that it is taken for. -/
theorem feed_eq {buffer : Bytes} {pieces : List Bytes} (free : lineFeed ∉ buffer) :
    feed parse pieces ⟨limit, buffer⟩ =
      (verdicts parse limit (endedLines (buffer ++ streamTaken limit buffer pieces)),
        ⟨limit, openLine (buffer ++ streamTaken limit buffer pieces)⟩) := by
  induction pieces generalizing buffer with
  | nil =>
    rw [streamTaken, List.append_nil, endedLines_of_free free, openLine_of_free free]
    rfl
  | cons piece pieces ih =>
    rw [feed, extend, streamTaken]
    have opened := openLine_free (buffer ++ piece)
    by_cases long : limit < (openLine (buffer ++ piece)).length
    · rw [nextAll_of_lt long, if_pos long, ← List.append_assoc, openLine_append_cons,
        endedLines_append (buffer ++ piece), endedLines_append_cons opened, verdicts_append,
        verdicts_cons,
        decodeLine_toList, if_pos long, start]
      dsimp only
      rw [ih List.not_mem_nil, List.nil_append, List.append_assoc]
    · rw [nextAll_of_le (Nat.not_lt.1 long), if_neg long, ← List.append_assoc,
        endedLines_append (buffer ++ piece), openLine_append (buffer ++ piece), verdicts_append]
      dsimp only
      rw [ih opened]

/-- No piece ends inside a line of which more has come than the limit. -/
def InTime (limit : Nat) (buffer : Bytes) (pieces : List Bytes) : Prop :=
  ∀ seen, seen <+: pieces → (openLine (buffer ++ seen.flatten)).length ≤ limit

/-- If lines that are too long end in time, a stream is taken for what it is. -/
theorem streamTaken_eq {buffer : Bytes} {pieces : List Bytes}
    (inTime : InTime limit buffer pieces) : streamTaken limit buffer pieces = pieces.flatten := by
  induction pieces generalizing buffer with
  | nil => rfl
  | cons piece pieces ih =>
    have fits : (openLine (buffer ++ piece)).length ≤ limit := by
      have := inTime [piece] ⟨pieces, rfl⟩
      rwa [List.flatten_singleton] at this
    have tail : InTime limit (openLine (buffer ++ piece)) pieces := by
      intro seen first
      rw [← openLine_append, List.append_assoc, ← List.flatten_cons]
      exact inTime (piece :: seen) (List.cons_prefix_cons.2 ⟨rfl, first⟩)
    rw [streamTaken, if_neg (Nat.not_lt.2 fits), ih tail, List.flatten_cons]

/-- If no line is too long, every line ends in time. -/
theorem inTime_of_short {pieces : List Bytes}
    (short : ∀ line ∈ pieces.flatten.splitOn lineFeed, line.length ≤ limit) :
    InTime limit [] pieces := by
  rintro seen ⟨more, rfl⟩
  obtain ⟨line, mem, first⟩ := openLine_within seen.flatten more.flatten
  rw [← List.flatten_append] at mem
  exact Nat.le_trans first.length_le (short line mem)

/-- If no line of a stream is too long, it gives what its lines read as. -/
theorem feed_of_short {pieces : List Bytes}
    (short : ∀ line ∈ pieces.flatten.splitOn lineFeed, line.length ≤ limit) :
    feed parse pieces (.start limit) =
      (readings parse (endedLines pieces.flatten), ⟨limit, openLine pieces.flatten⟩) := by
  have ended : ∀ line ∈ endedLines pieces.flatten, line.length ≤ limit := fun line mem =>
    short line (by rw [splitOn_eq]; exact List.mem_append_left _ mem)
  rw [start, feed_eq List.not_mem_nil, List.nil_append, streamTaken_eq (inTime_of_short short),
    verdicts_eq_readings parse ended]

end LineDecoder

open LineDecoder

/-- If no line of a stream is too long, then however the stream is cut into pieces, what is taken
are the readings of its lines that have ended, and its open line is left. -/
theorem decoding_ignores_cuts (parse : Text → Except Json.Error α) (limit : Nat)
    (pieces : List Bytes)
    (short : ∀ line ∈ pieces.flatten.splitOn lineFeed, line.length ≤ limit)
    (rs : List (Except LineError α)) (d : LineDecoder) :
    Feeds parse (.start limit) pieces rs d ↔
      rs = readings parse (endedLines pieces.flatten) ∧ d = ⟨limit, openLine pieces.flatten⟩ := by
  rw [feeds_iff, feed_of_short short, Prod.mk.injEq]
  exact and_congr eq_comm eq_comm

/-- A line cut inside a character and before its line feed, a blank line, a line that is no text and
the start of a line. -/
theorem cut_character_is_read :
    Feeds Json.Schema.text.ofText (.start 8)
      [[0x22, 0xc3], [0xa9, 0x22, 0x0d], [0x0a, 0x20, 0x0a, 0xff, 0x0a, 0x37]]
      [.ok "é", .error .notUtf8] ⟨8, [0x37]⟩ :=
  (decoding_ignores_cuts _ 8 _ (by decide) _ _).2 ⟨rfl, rfl⟩

/-! ## Lines that are too long -/

/-- Every stream gives what the lines give that it is taken for, each line that is too long one
error, and it is taken for what it is if no piece ends inside a line that is too long already. -/
theorem overlong_lines (parse : Text → Except Json.Error α) (limit : Nat) (pieces : List Bytes)
    (rs : List (Except LineError α)) (d : LineDecoder) :
    (Feeds parse (.start limit) pieces rs d ↔
      rs = verdicts parse limit (endedLines (streamTaken limit [] pieces)) ∧
        d = ⟨limit, openLine (streamTaken limit [] pieces)⟩) ∧
      (InTime limit [] pieces → streamTaken limit [] pieces = pieces.flatten) := by
  refine ⟨?_, streamTaken_eq⟩
  rw [feeds_iff, start, feed_eq List.not_mem_nil, List.nil_append, Prod.mk.injEq]
  exact and_congr eq_comm eq_comm

/-- A line of fifty-one bytes and a request, under a limit of fifty bytes. After the first of its
two pieces what has come of the line is dropped, and the rest of the line is taken for a request. -/
theorem rest_of_overlong_line_is_read :
    ∃ line : Bytes, 50 < line.length ∧
      endedLines [line.take 51, line.drop 51 ++ [lineFeed]].flatten = [line] ∧
      ∃ rs d, Feeds Request.schema.ofText (.start 50)
          [line.take 51, line.drop 51 ++ [lineFeed]] rs d ∧
        rs.map (fun r => r.toOption.map Request.operation) = [none, some .ping] :=
  ⟨List.replicate 51 120 ++
      encode "\x7b\"type\":\"request\",\"id\":\"1\",\"op\":\"PING\"\x7d",
    by decide +kernel, by decide +kernel, _, _, feeds_feed _ _, by decide +kernel⟩

end Signoff
