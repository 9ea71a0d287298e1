import Mathlib.Data.List.DropRight
import Mathlib.Data.List.TakeWhile
import Signoff.Message.Line

/-!
# Streams as lines

Splitting a stream of bytes at its line feeds gives the lines that have ended (`endedLines`) and
after them the line that is still open (`openLine`).

* `stream_induction`: every stream is an open line, or a line and its line feed before a stream.
* `endedLines_append`, `openLine_append`: what comes after a stream goes on from its open line.
* `openLine_within`: wherever a stream is cut, what is open there is the start of one of its lines.
* `endedLines_flatMap`: lines that are written one after the other are the lines that are read.
-/

namespace Signoff

/-- The lines of a stream that have ended. -/
def endedLines (stream : Bytes) : List Bytes := (stream.splitOn lineFeed).dropLast

/-- The line of a stream that has not ended. -/
def openLine (stream : Bytes) : Bytes := (stream.splitOn lineFeed).getLastD []

variable {line stream : Bytes}

/-- Every stream is an open line, or a line and its line feed before a stream. -/
theorem stream_induction {P : Bytes → Prop} (open_ : ∀ line, lineFeed ∉ line → P line)
    (ended : ∀ line rest, lineFeed ∉ line → P rest → P (line ++ lineFeed :: rest))
    (stream : Bytes) : P stream := by
  induction h : stream.length using Nat.strongRecOn generalizing stream with
  | ind n ih =>
    by_cases mem : lineFeed ∈ stream
    · obtain ⟨line, rest, rfl, free⟩ := List.eq_append_cons_of_mem mem
      refine ended line rest free (ih _ ?_ rest rfl)
      rw [← h, List.length_append, List.length_cons]
      omega
    · exact open_ stream mem

/-! ## Splitting -/

theorem splitOn_of_free (h : lineFeed ∉ line) : line.splitOn lineFeed = [line] := by
  rw [List.splitOn_eq_splitOnP]
  refine List.splitOnP_eq_singleton fun b hb => beq_eq_false_iff_ne.2 ?_
  rintro rfl
  exact h hb

theorem splitOn_append (before rest : Bytes) :
    (before ++ lineFeed :: rest).splitOn lineFeed =
      before.splitOn lineFeed ++ rest.splitOn lineFeed := by
  simp only [List.splitOn_eq_splitOnP]
  exact List.splitOnP_append_cons _ _ (beq_self_eq_true _)

theorem splitOn_ne_nil (stream : Bytes) : stream.splitOn lineFeed ≠ [] := by
  rw [List.splitOn_eq_splitOnP]
  exact List.splitOnP_ne_nil _ _

/-- The lines that have ended and the open line are all lines. -/
theorem splitOn_eq (stream : Bytes) :
    stream.splitOn lineFeed = endedLines stream ++ [openLine stream] := by
  rw [endedLines, openLine, List.getLastD_eq_getLast?,
    List.getLast?_eq_some_getLast (splitOn_ne_nil stream), Option.getD_some,
    List.dropLast_append_getLast]

theorem endedLines_of_free (h : lineFeed ∉ line) : endedLines line = [] := by
  rw [endedLines, splitOn_of_free h]
  rfl

theorem openLine_of_free (h : lineFeed ∉ line) : openLine line = line := by
  rw [openLine, splitOn_of_free h]
  rfl

theorem endedLines_append_cons (h : lineFeed ∉ line) (rest : Bytes) :
    endedLines (line ++ lineFeed :: rest) = line :: endedLines rest := by
  rw [endedLines, splitOn_append, splitOn_of_free h,
    List.dropLast_append_of_ne_nil (splitOn_ne_nil rest)]
  rfl

/-- A last line feed ends every line. -/
theorem endedLines_concat (stream : Bytes) :
    endedLines (stream ++ [lineFeed]) = stream.splitOn lineFeed := by
  rw [endedLines, splitOn_append]
  exact List.dropLast_concat

theorem openLine_append_cons (before rest : Bytes) :
    openLine (before ++ lineFeed :: rest) = openLine rest := by
  rw [openLine, splitOn_append, List.getLastD_eq_getLast?,
    List.getLast?_append_of_ne_nil _ (splitOn_ne_nil rest), ← List.getLastD_eq_getLast?]
  rfl

/-- An open line has no line feed. -/
theorem openLine_free (stream : Bytes) : lineFeed ∉ openLine stream := by
  induction stream using stream_induction with
  | open_ line h => rwa [openLine_of_free h]
  | ended line rest h ih => rwa [openLine_append_cons]

/-! ## Cutting -/

theorem endedLines_append (seen more : Bytes) :
    endedLines (seen ++ more) = endedLines seen ++ endedLines (openLine seen ++ more) := by
  induction seen using stream_induction with
  | open_ line h => rw [endedLines_of_free h, openLine_of_free h, List.nil_append]
  | ended line rest h ih =>
    rw [List.append_assoc, List.cons_append, endedLines_append_cons h, ih, endedLines_append_cons h,
      openLine_append_cons, List.cons_append]

theorem openLine_append (seen more : Bytes) :
    openLine (seen ++ more) = openLine (openLine seen ++ more) := by
  induction seen using stream_induction with
  | open_ line h => rw [openLine_of_free h]
  | ended line rest h ih =>
    rw [List.append_assoc, List.cons_append, openLine_append_cons, ih, openLine_append_cons]

/-- Wherever a stream is cut, what is open there is the start of one of its lines. -/
theorem openLine_within (seen more : Bytes) :
    ∃ line ∈ (seen ++ more).splitOn lineFeed, openLine seen <+: line := by
  rw [splitOn_eq, endedLines_append, openLine_append]
  have free := openLine_free seen
  generalize openLine seen = line at free ⊢
  by_cases mem : lineFeed ∈ more
  · obtain ⟨first, rest, rfl, free'⟩ := List.eq_append_cons_of_mem mem
    refine ⟨line ++ first, ?_, List.prefix_append ..⟩
    have h : lineFeed ∉ line ++ first := by simp [free, free']
    rw [← List.append_assoc line, endedLines_append_cons h]
    simp
  · have h : lineFeed ∉ line ++ more := by simp [free, mem]
    refine ⟨line ++ more, ?_, List.prefix_append ..⟩
    rw [openLine_of_free h]
    simp

/-- Lines that are written one after the other are the lines that are read. -/
theorem endedLines_flatMap {lines : List Bytes} (h : ∀ line ∈ lines, lineFeed ∉ line) :
    endedLines (lines.flatMap (· ++ [lineFeed])) = lines ∧
      openLine (lines.flatMap (· ++ [lineFeed])) = [] := by
  induction lines with
  | nil => exact ⟨rfl, rfl⟩
  | cons line lines ih =>
    obtain ⟨free, others⟩ := List.forall_mem_cons.1 h
    obtain ⟨ended, opened⟩ := ih others
    rw [List.flatMap_cons, List.append_assoc, List.singleton_append, endedLines_append_cons free,
      openLine_append_cons, ended, opened]
    exact ⟨rfl, rfl⟩

/-- A message is written as the bytes of its compact text and a line feed. -/
theorem encode_encodeLine (j : Json) : encode (encodeLine j) = encode j.compact ++ [lineFeed] := by
  rw [encodeLine, encode, encodeChars, String.toList_append, List.flatMap_append]
  rfl

/-! ## The first line of a buffer -/

/-- The bytes of a line are passed over in looking for its line feed. -/
theorem passed_over (h : lineFeed ∉ line) : ∀ b ∈ line, (b != lineFeed) = true := fun _ mem =>
  bne_iff_ne.2 fun eq => h (eq ▸ mem)

theorem splitLine_of_free (h : lineFeed ∉ line) : splitLine line = none := by
  rw [splitLine, List.dropWhile_eq_nil_iff.2 (passed_over h)]

theorem splitLine_append_cons (h : lineFeed ∉ line) (rest : Bytes) :
    splitLine (line ++ lineFeed :: rest) = some (line, rest) := by
  rw [splitLine, List.dropWhile_append_of_pos (passed_over h),
    List.takeWhile_append_of_pos (passed_over h), List.dropWhile_cons_of_neg (by simp),
    List.takeWhile_cons_of_neg (by simp), List.append_nil]

end Signoff
