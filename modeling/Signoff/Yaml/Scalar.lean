import Signoff.Yaml.Mark
import Signoff.Yaml.Token
/-!
# Scalars of YAML

A scalar is plain, quoted or a block of lines. Where the lines of a plain or quoted scalar meet, the
`Gap` between two words is folded: a single line end becomes a space, and of more than one the first
is dropped.

- `plain`, `quotedScalar`, `block` split a scalar off the marks.
-/

namespace Signoff.Yaml

/-- What lies between two words of a scalar: spaces, or line ends of which the first is told apart.
The last of these characters comes first. A gap may count as broken without a first line end, if
that was escaped. -/
structure Gap where
  spaces : List Char
  broken : Bool
  first : List Char
  more : List Char

namespace Gap

/-- No gap. -/
def none : Gap := ⟨[], false, [], []⟩

/-- The gap after an escaped line end. -/
def escaped : Gap := ⟨[], true, [], []⟩

/-- There is no gap. -/
def isEmpty (g : Gap) : Bool := g.spaces.isEmpty && !g.broken

/-- The gap with another space. Spaces around line ends do not count. -/
def addSpace (g : Gap) (c : Char) : Gap :=
  if g.broken then g else { g with spaces := c :: g.spaces }

/-- The gap with another line end. -/
def addBreak (g : Gap) (c : Char) : Gap :=
  if g.broken then { g with more := c :: g.more } else ⟨[], true, [c], []⟩

/-- What a gap becomes in the text of the scalar, in reverse. -/
def text (g : Gap) : List Char :=
  if !g.broken then g.spaces
  else if g.first == ['\n'] then if g.more.isEmpty then [' '] else g.more
  else g.more ++ g.first

end Gap

/-- A sign of a flow collection. -/
def isFlowSign (c : Char) : Bool :=
  c == ',' || c == '[' || c == ']' || c == '\x7b' || c == '\x7d'

/-- A plain scalar ends before these marks. -/
def endsPlain (inFlow : Bool) (marks : List Mark) : Bool :=
  match marks with
  | [] => true
  | m :: rest => (m.char == ':' && endsWord rest) || (inFlow && isFlowSign m.char)

/-- In a flow collection, a colon in a plain scalar may not stand before these signs. -/
def isStrayColon (marks : List Mark) : Bool :=
  match marks with
  | m :: n :: _ => m.char == ':' && (isFlowSign n.char || n.char == '?')
  | _ => false

/-- Splits a plain scalar off, whose lines after the first start at column `indent` at least. The
characters so far are held in reverse. Gives the gap behind it too. -/
def plainFrom (inFlow : Bool) (indent : Nat) :
    List Mark → Gap → List Char → Option (List Char × Gap × List Mark)
  | [], g, acc => some (acc.reverse, g, [])
  | m :: rest, g, acc =>
    if isSpace m.char then
      if g.broken && m.column < indent && m.char == '\t' then none
      else plainFrom inFlow indent rest (g.addSpace m.char) acc
    else if isBreak m.char then plainFrom inFlow indent rest (g.addBreak m.char) acc
    else if !g.isEmpty &&
        ((!inFlow && m.column < indent) || m.char == '#' || isDocumentMark (m :: rest)) then
      some (acc.reverse, g, m :: rest)
    else if inFlow && isStrayColon (m :: rest) then none
    else if endsPlain inFlow (m :: rest) then some (acc.reverse, g, m :: rest)
    else plainFrom inFlow indent rest .none (m.char :: (g.text ++ acc))

/-- Splits a plain scalar off. Tells whether lines end behind it. -/
def plain (inFlow : Bool) (indent : Nat) (marks : List Mark) :
    Option (Token × Bool × List Mark) := do
  let (cs, g, rest) ← plainFrom inFlow indent marks .none []
  return (.scalar .plain (String.ofList cs), g.broken, rest)

/-- What a backslash and a letter stand for. -/
def escapes : List (Char × Char) :=
  [('0', '\x00'), ('a', '\x07'), ('b', '\x08'), ('t', '\t'), ('\t', '\t'), ('n', '\n'),
    ('v', '\x0b'), ('f', '\x0c'), ('r', '\r'), ('e', '\x1b'), (' ', ' '), ('"', '"'), ('/', '/'),
    ('\\', '\\'), ('N', '\u0085'), ('_', '\u00a0'), ('L', '\u2028'), ('P', '\u2029')]

/-- How many digits follow a backslash and a letter that give a code point. -/
def codeLengths : List (Char × Nat) := [('x', 2), ('u', 4), ('U', 8)]

/-- The value of a hexadecimal digit. -/
def hexValue? (c : Char) : Option Nat :=
  if c.isDigit then some (c.toNat - '0'.toNat)
  else if 'a' ≤ c ∧ c ≤ 'f' then some (c.toNat - 'a'.toNat + 10)
  else if 'A' ≤ c ∧ c ≤ 'F' then some (c.toNat - 'A'.toNat + 10)
  else none

/-- Splits a number of hexadecimal digits off, put after the digits of `n`. -/
def takeHex : Nat → Nat → List Mark → Option (Nat × List Mark)
  | 0, n, marks => some (n, marks)
  | _ + 1, _, [] => none
  | k + 1, n, m :: rest => do takeHex k (16 * n + (← hexValue? m.char)) rest

/-- Splits off what follows the backslash of an escape: its character. -/
def takeEscape (marks : List Mark) : Option (Char × List Mark) :=
  match marks with
  | [] => none
  | m :: rest =>
    match escapes.lookup m.char with
    | some c => some (c, rest)
    | none => do
      let (n, rest) ← takeHex (← codeLengths.lookup m.char) 0 rest
      if n.isValidChar then return (Char.ofNat n, rest) else failure

/-- The quote around a scalar. -/
def quoteOf (single : Bool) : Char := if single then '\x27' else '"'

/-- Splits the rest of a quoted scalar off. A quote within single quotes is written twice, and
within double quotes escaped. The characters so far are held in reverse; `fuel` exceeds the number
of marks. -/
def quotedFrom (single : Bool) : Nat → List Mark → Gap → List Char → Option (List Char × List Mark)
  | 0, _, _, _ => none
  | _ + 1, [], _, _ => none
  | fuel + 1, m :: rest, g, acc =>
    if isSpace m.char then quotedFrom single fuel rest (g.addSpace m.char) acc
    else if isBreak m.char then quotedFrom single fuel rest (g.addBreak m.char) acc
    else if isDocumentMark (m :: rest) then none
    else
      let acc := g.text ++ acc
      if m.char == quoteOf single then
        if single && next? rest == some m.char then
          quotedFrom single fuel rest.tail .none (m.char :: acc)
        else some (acc.reverse, rest)
      else if !single && m.char == '\\' then
        if ((next? rest).map isBreak).getD false then
          quotedFrom single fuel rest.tail .escaped acc
        else
          match takeEscape rest with
          | some (c, rest) => quotedFrom single fuel rest .none (c :: acc)
          | none => none
      else quotedFrom single fuel rest .none (m.char :: acc)

/-- Splits a quoted scalar off, whose first quote is gone. `fuel` exceeds the number of marks. -/
def quotedScalar (single : Bool) (fuel : Nat) (marks : List Mark) : Option (Token × List Mark) := do
  let (cs, rest) ← quotedFrom single fuel marks .none []
  return (.scalar (if single then .singleQuoted else .doubleQuoted) (String.ofList cs), rest)

/-- What becomes of the line ends behind a block. -/
inductive Chomping where
  | strip
  | clip
  | keep
deriving DecidableEq, Repr

/-- Splits off the sign that says what becomes of the line ends. -/
def takeChomping (marks : List Mark) : Option Chomping × List Mark :=
  match next? marks with
  | some '+' => (some .keep, marks.tail)
  | some '-' => (some .strip, marks.tail)
  | _ => (none, marks)

/-- Splits off the digit that says how far a block is indented, which is not zero. -/
def takeIndent (marks : List Mark) : Option (Option Nat × List Mark) :=
  match next? marks with
  | some c =>
    if c == '0' then none
    else if c.isDigit then some (some (c.toNat - '0'.toNat), marks.tail)
    else some (none, marks)
  | none => some (none, marks)

/-- Splits off what the first line of a block says, in either order. -/
def blockHeader (marks : List Mark) : Option (Chomping × Option Nat × List Mark) := do
  let (chomping, marks) := takeChomping marks
  let (indent, marks) ← takeIndent marks
  let (chomping, marks) :=
    match chomping, indent with
    | none, some _ => takeChomping marks
    | _, _ => (chomping, marks)
  return (chomping.getD .clip, indent, ← endLine? marks)

/-- Skips empty lines and then the indentation of a block, as far as it is known. Gives the line
ends and the deepest column that was reached. -/
def skipIndent (indent : Option Nat) :
    List Mark → Nat → List Char → Option (List Char × Nat × List Mark)
  | [], deepest, acc => some (acc.reverse, deepest, [])
  | m :: rest, deepest, acc =>
    let within := indent.all (m.column < ·)
    if within && m.char == ' ' then skipIndent indent rest deepest acc
    else
      let deepest := max deepest m.column
      if within && m.char == '\t' then none
      else if isBreak m.char then skipIndent indent rest deepest (m.char :: acc)
      else some (acc.reverse, deepest, m :: rest)

/-- How two lines of a block meet: `ended` are the line ends between them, the first of them apart,
and `flush` says that neither line starts with a space. -/
def joinLines (folded flush : Bool) (ended more : List Char) : List Char :=
  if folded && ended == ['\n'] && flush then if more.isEmpty then [' '] else more
  else ended ++ more

/-- What lies between the lines of a block that were read and the one to come. -/
structure LineEnds where
  first : List Char
  more : List Char
  flush : Bool

/-- Splits the lines of a block off, each indented by `indent` columns. The characters so far are
held in reverse; `fuel` exceeds the number of marks. -/
def blockLines (folded : Bool) (indent : Nat) :
    Nat → List Mark → LineEnds → List Char → Option (List Char × LineEnds × List Mark)
  | 0, _, _, _ => none
  | _ + 1, [], ends, acc => some (acc, ends, [])
  | fuel + 1, m :: rest, ends, acc =>
    if m.column == indent then do
      let flush := !isSpace m.char
      let acc := (joinLines folded (ends.flush && flush) ends.first ends.more).reverse ++ acc
      let (line, rest) := (m :: rest).span fun m => !isBreak m.char
      let (more, _, below) ← skipIndent (some indent) rest.tail 0 []
      blockLines folded indent fuel below ⟨(rest.take 1).map (·.char), more, flush⟩
        ((line.map (·.char)).reverse ++ acc)
    else some (acc, ends, m :: rest)

/-- Splits a block off, whose sign is gone. `inner` is the least column at which it may stand, and
`fuel` exceeds the number of marks. -/
def block (folded : Bool) (inner fuel : Nat) (marks : List Mark) :
    Option (Token × List Mark) := do
  let (chomping, indent, marks) ← blockHeader marks
  let given := indent.map fun n => inner - 1 + n
  let (more, deepest, marks) ← skipIndent given marks 0 []
  let indent := given.getD (max deepest (max inner 1))
  let (cs, ends, rest) ← blockLines folded indent fuel marks ⟨[], more, true⟩ []
  let ending :=
    match chomping with
    | .strip => []
    | .clip => ends.first
    | .keep => ends.first ++ ends.more
  let text := String.ofList (cs.reverse ++ ending)
  return (.scalar (if folded then .folded else .literal) text, rest)

end Signoff.Yaml
