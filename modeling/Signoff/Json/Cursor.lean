import Signoff.Json.Error
import Signoff.Text.Utf8
/-!
# Places in a JSON text

A `Cursor` is what remains of a text and where that begins. A `Reader` takes a value from the front
of the remaining text or fails with a problem at a position.

- `Cursor.here` is the position of the cursor, and `Cursor.next` the position behind one more byte,
  where a byte that is not welcome is reported.
-/

namespace Signoff.Json

/-- What remains of a text, and the position where it begins. -/
structure Cursor where
  rest : Text
  line : Nat
  column : Nat
deriving DecidableEq

namespace Cursor

/-- The start of a text. -/
def start (text : Text) : Cursor := ⟨text, 1, 0⟩

/-- The position of the cursor. -/
def here (c : Cursor) : Position := ⟨c.line, c.column⟩

/-- The position `n` bytes further, or the end of the text. -/
def positionAfter (line column : Nat) : (n : Nat) → Text → Position
  | 0, _ => ⟨line, column⟩
  | _, [] => ⟨line, column⟩
  | n + 1, g :: rest =>
    if g = some '\n' then positionAfter (line + 1) 0 n rest
    else if g.size ≤ n + 1 then positionAfter line (column + g.size) (n + 1 - g.size) rest
    else ⟨line, column + (n + 1)⟩
termination_by _ text => text

/-- The position one byte further, or the end of the text. -/
def next (c : Cursor) : Position := positionAfter c.line c.column 1 c.rest

/-- The cursor behind its first glyph. -/
def advance (c : Cursor) : Cursor :=
  match c.rest with
  | [] => c
  | g :: rest =>
    if g = some '\n' then ⟨rest, c.line + 1, 0⟩ else ⟨rest, c.line, c.column + g.size⟩

/-- The cursor behind `n` glyphs of one byte each, none of them a line feed. -/
def skip (c : Cursor) (n : Nat) : Cursor := ⟨c.rest.drop n, c.line, c.column + n⟩

/-- The character is white space between tokens. -/
def isSpace (c : Char) : Bool := c == ' ' || c == '\n' || c == '\t' || c == '\r'

/-- The cursor behind white space. -/
def skipSpaceFrom (line column : Nat) : Text → Cursor
  | some c :: rest =>
    if c = '\n' then skipSpaceFrom (line + 1) 0 rest
    else if isSpace c then skipSpaceFrom line (column + 1) rest
    else ⟨some c :: rest, line, column⟩
  | rest => ⟨rest, line, column⟩

/-- The cursor behind white space. -/
def skipSpace (c : Cursor) : Cursor := skipSpaceFrom c.line c.column c.rest

end Cursor

/-- Takes a value from the front of the remaining text. -/
abbrev Reader (α : Type) := StateT Cursor (Except Error) α

/-- Fails at a position. -/
def failAt {α : Type} (position : Position) (problem : Problem) : Reader α :=
  throw ⟨problem, some position⟩

/-- Fails at the cursor. -/
def failHere {α : Type} (problem : Problem) : Reader α := do failAt (← get).here problem

/-- Fails behind the next byte. -/
def failNext {α : Type} (problem : Problem) : Reader α := do failAt (← get).next problem

/-- The next glyph, which stays. -/
def peek : Reader (Option Glyph) := do return (← get).rest.head?

/-- The next glyph behind white space, which is dropped. -/
def peekToken : Reader (Option Glyph) := do
  modify Cursor.skipSpace
  peek

/-- Drops the next glyph. -/
def advance : Reader Unit := modify Cursor.advance

/-- Takes the letters of a word. -/
def readWord : List Char → Reader Unit
  | [] => pure ()
  | c :: rest => do
    match ← peek with
    | none => failHere .endOfValue
    | some g =>
      if g = some c then
        advance
        readWord rest
      else failNext .expectedWord

end Signoff.Json
