/-!
# Characters in their places

YAML is read as a list of marks: the characters of a text with the line and the column where each
stands. Line ends of all kinds are one kind here, and a text with control characters has no marks.
A byte order mark takes up a column like any other character.

- `marks?` gives the marks of a text.
- `isDocumentMark` recognises the three signs that begin or end a document.
-/

namespace Signoff.Yaml

/-- A character and where it stands: its line, the number of characters before it in the line, and
the number of bytes that these take. -/
structure Mark where
  char : Char
  line : Nat
  column : Nat
  offset : Nat
deriving DecidableEq, Repr

/-- The character ends a line. -/
def isBreak (c : Char) : Bool := c == '\n' || c == '\u2028' || c == '\u2029'

/-- The character parts words within a line. -/
def isSpace (c : Char) : Bool := c == ' ' || c == '\t'

/-- The mark that orders the bytes of a text. -/
def byteOrderMark : Char := '\uFEFF'

/-- The character may stand in a text. -/
def isPermitted (c : Char) : Bool :=
  let n := c.toNat
  n == 0x09 || n == 0x0A || n == 0x0D || (0x20 ≤ n && n ≤ 0x7E) || n == 0x85 ||
    (0xA0 ≤ n && n ≤ 0xD7FF) || (0xE000 ≤ n && n ≤ 0xFFFD) || 0x10000 ≤ n

/-- The characters with one kind of line end for the usual four; the two separators of Unicode stay
what they are. -/
def unifyBreaks : List Char → List Char
  | '\r' :: '\n' :: rest => '\n' :: unifyBreaks rest
  | '\r' :: rest => '\n' :: unifyBreaks rest
  | '\u0085' :: rest => '\n' :: unifyBreaks rest
  | c :: rest => c :: unifyBreaks rest
  | [] => []

/-- Places characters from a line, a column and an offset on. -/
def place (line column offset : Nat) : List Char → List Mark
  | [] => []
  | c :: rest =>
    ⟨c, line, column, offset⟩ ::
      if isBreak c then place (line + 1) 0 0 rest
      else place line (column + 1) (offset + c.utf8Size) rest

/-- The marks of a text. -/
def marks? (text : String) : Option (List Mark) :=
  let cs := text.toList
  if cs.all isPermitted then some (place 0 0 0 (unifyBreaks cs)) else none

/-- The characters of marks. -/
def textOf (marks : List Mark) : String := String.ofList (marks.map (·.char))

/-- The first character of marks. -/
def next? (marks : List Mark) : Option Char := marks.head?.map (·.char)

/-- A word ends before these marks: at a space, a line end or the end of the text. -/
def endsWord (marks : List Mark) : Bool :=
  match next? marks with
  | none => true
  | some c => isSpace c || isBreak c

/-- A character of a name. -/
def isNameChar (c : Char) : Bool := c.isAlphanum || c == '-' || c == '_'

/-- Splits a name off. -/
def splitName (marks : List Mark) : List Mark × List Mark := marks.span fun m => isNameChar m.char

/-- Skips the spaces in front. -/
def dropSpaces (marks : List Mark) : List Mark := marks.dropWhile fun m => isSpace m.char

/-- Skips the rest of a line that may hold a comment only, and its end. -/
def endLine? (marks : List Mark) : Option (List Mark) :=
  let marks := dropSpaces marks
  let marks := if next? marks == some '#' then marks.dropWhile fun m => !isBreak m.char else marks
  match marks with
  | [] => some []
  | m :: rest => if isBreak m.char then some rest else none

/-- Three hyphens or three periods at the start of a line, and then the end of a word. -/
def isDocumentMark (marks : List Mark) : Bool :=
  match marks with
  | a :: b :: c :: rest =>
    a.column == 0 && (a.char == '-' || a.char == '.') && b.char == a.char && c.char == a.char &&
      endsWord rest
  | _ => false

end Signoff.Yaml
