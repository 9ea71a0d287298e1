import Signoff.Yaml.Property
/-!
# The tokens of a text

The lexer reads marks from left to right and keeps what the nesting depends on: the columns of the
block collections that are open, the flow collections that are open, and for each of these the token
that may turn out to be a key, which only the colon behind it tells. A key then gets its token, and
perhaps the start of its mapping, in front of it.

- `Lexer.skipGap` skips what stands between tokens, `Lexer.fetch` reads a token.
- `tokens?` reads a whole text.
-/

namespace Signoff.Yaml

/-- A token that may turn out to be a key. If it is `required` to be one, the text is wrong unless
it is. -/
structure PendingKey where
  required : Bool
  index : Nat
  line : Nat
  column : Nat
  offset : Nat

/-- What has been read, and what the next token depends on. -/
structure Lexer where
  tokens : Array Token
  /-- The columns of the open block collections, the innermost first. -/
  indents : List Nat
  /-- The token that may be a key, in the innermost flow collection or outside of all. -/
  key : Option PendingKey
  /-- The same for the levels around it, as far out as a token is pending. -/
  outer : List (Option PendingKey)
  /-- How many levels lie around these. -/
  clear : Nat
  /-- A key may start here. -/
  keyAllowed : Bool

namespace Lexer

/-- Nothing has been read. -/
def start : Lexer := ⟨#[], [], none, [], 0, true⟩

/-- A flow collection is open. -/
def inFlow (l : Lexer) : Bool := !l.outer.isEmpty || 0 < l.clear

/-- The least column of what is inside the innermost block collection. -/
def inner (l : Lexer) : Nat :=
  match l.indents with
  | [] => 0
  | column :: _ => column + 1

/-- Adds a token. -/
def emit (l : Lexer) (t : Token) : Lexer := { l with tokens := l.tokens.push t }

/-- Puts a token in front of those from an index on. -/
def insertAt (l : Lexer) (index : Nat) (t : Token) : Lexer :=
  { l with tokens := l.tokens.insertIdxIfInBounds index t }

/-- Allows or forbids that a key starts here. -/
def allowKey (l : Lexer) (keyAllowed : Bool) : Lexer := { l with keyAllowed }

/-- The pending token is no key; fails if it has to be one. -/
def dropKey (l : Lexer) : Option Lexer :=
  match l.key with
  | some k => if k.required then none else some { l with key := none }
  | none => some l

/-- The next token may be a key, if one may start here. -/
def saveKey (l : Lexer) (m : Mark) : Option Lexer := do
  if l.keyAllowed then
    let required := !l.inFlow && l.indents.head? == some m.column
    let l ← l.dropKey
    return { l with key := some ⟨required, l.tokens.size, m.line, m.column, m.offset⟩ }
  else return l

/-- The longest key that needs no sign of its own, in bytes. -/
def maxKeyLength : Nat := 1024

/-- The key is too far behind a mark, or on another line. -/
def isStale (m : Mark) (k : PendingKey) : Bool :=
  k.line < m.line || k.offset + maxKeyLength < m.offset

/-- The pending key is too far behind a mark. -/
def isStaleAt (m : Mark) (key : Option PendingKey) : Bool := key.any (isStale m)

/-- Forgets the pending keys that are too far behind a mark; fails if one of them has to be a key.
Those around such a key are even further behind. -/
def dropStale (l : Lexer) (m : Mark) : Option Lexer := do
  let l ← if isStaleAt m l.key then l.dropKey else some l
  let fresh := l.outer.takeWhile (!isStaleAt m ·)
  let stale := l.outer.drop fresh.length
  if stale.any (·.any (·.required)) then failure
  else return { l with outer := fresh, clear := l.clear + stale.length }

/-- Ends the block collections that are open at columns for which `p` holds. -/
def closeWhile (l : Lexer) (p : Nat → Bool) : Lexer :=
  if l.inFlow then l
  else
    let ended := (l.indents.takeWhile p).length
    { l with
      tokens := l.tokens ++ Array.replicate ended .blockEnd
      indents := l.indents.drop ended }

/-- Ends all block collections. -/
def closeAll (l : Lexer) : Lexer := l.closeWhile fun _ => true

/-- Starts a block collection at a column, unless it is open already, with a token at an index. -/
def openAt (l : Lexer) (column index : Nat) (t : Token) : Lexer :=
  if !l.inFlow && l.indents.head?.all (· < column) then
    { l.insertAt index t with indents := column :: l.indents }
  else l

/-- Starts a block collection at a mark, where one may start. -/
def openBlock (l : Lexer) (m : Mark) (t : Token) : Option Lexer :=
  if l.inFlow then some l
  else if l.keyAllowed then some (l.openAt m.column l.tokens.size t)
  else none

/-- Skips spaces, comments and line ends. Tabs are skipped where no key may start, which it may
again after the end of a line. -/
def skipGap (l : Lexer) (comment : Bool) : List Mark → Lexer × List Mark
  | [] => (l, [])
  | m :: rest =>
    if isBreak m.char then (if l.inFlow then l else l.allowKey true).skipGap false rest
    else if comment then l.skipGap true rest
    else if m.char == ' ' || (m.char == '\t' && (l.inFlow || !l.keyAllowed)) ||
        (m.char == byteOrderMark && m.column == 0) then
      l.skipGap false rest
    else if m.char == '#' then l.skipGap true rest
    else (l, m :: rest)

/-- A directive or a document mark ends everything before it. -/
def endDocument (l : Lexer) : Option Lexer := do return (← l.closeAll.dropKey).allowKey false

/-- Enters a level inside the current one. -/
def enter (l : Lexer) : Lexer :=
  if l.key.isNone && l.outer.isEmpty then { l with clear := l.clear + 1 }
  else { l with key := none, outer := l.key :: l.outer }

/-- Leaves a level for the one around it, if there is one. -/
def leave (l : Lexer) : Lexer :=
  match l.outer with
  | key :: outer => { l with key, outer }
  | [] => { l with key := none, clear := l.clear - 1 }

/-- Starts a flow collection. -/
def openFlow (l : Lexer) (m : Mark) (t : Token) : Option Lexer := do
  return ((← l.saveKey m).enter.allowKey true).emit t

/-- Ends a flow collection. -/
def closeFlow (l : Lexer) (t : Token) : Option Lexer := do
  return ((← l.dropKey).leave.allowKey false).emit t

/-- Starts the next item of a flow collection. -/
def flowEntry (l : Lexer) : Option Lexer := do
  return ((← l.dropKey).allowKey true).emit .flowEntry

/-- Starts the next item of a block sequence. -/
def blockEntry (l : Lexer) (m : Mark) : Option Lexer := do
  let l ← l.openBlock m .blockSequenceStart
  return ((← l.dropKey).allowKey true).emit .blockEntry

/-- Starts a key that has a sign of its own. -/
def explicitKey (l : Lexer) (m : Mark) : Option Lexer := do
  let l ← l.openBlock m .blockMappingStart
  return ((← l.dropKey).allowKey !l.inFlow).emit .key

/-- Starts a value. The pending token is its key if there is one. -/
def value (l : Lexer) (m : Mark) : Option Lexer := do
  match l.key with
  | some k =>
    let l := (l.insertAt k.index .key).openAt k.column k.index .blockMappingStart
    return ({ l with key := none }.allowKey false).emit .value
  | none =>
    let l ← l.openBlock m .blockMappingStart
    return (l.allowKey !l.inFlow).emit .value

/-- Adds a token that may be a key or the start of one, read by `read`. -/
def word (l : Lexer) (m : Mark) (read : Option (Token × List Mark)) :
    Option (Lexer × List Mark) := do
  let l ← l.saveKey m
  let (t, rest) ← read
  return ((l.allowKey false).emit t, rest)

/-- Adds a plain scalar. -/
def plainWord (l : Lexer) (m : Mark) (rest : List Mark) : Option (Lexer × List Mark) := do
  let l ← l.saveKey m
  let (t, broken, rest) ← plain l.inFlow l.inner (m :: rest)
  return ((l.allowKey broken).emit t, rest)

/-- Adds a block scalar. `fuel` exceeds the number of marks, here and in what follows. -/
def blockWord (l : Lexer) (folded : Bool) (fuel : Nat) (rest : List Mark) :
    Option (Lexer × List Mark) := do
  let l ← l.dropKey
  let (t, rest) ← block folded l.inner fuel rest
  return ((l.allowKey true).emit t, rest)

/-- The signs that a plain scalar does not start with. -/
def signs : List Char :=
  ['-', '?', ':', ',', '[', ']', '\x7b', '\x7d', '#', '&', '*', '!', '|', '>', '\x27', '"', '%',
    '@', '\x60']

/-- A plain scalar starts at these marks. Some signs may start one before another character. -/
def startsPlain (l : Lexer) (m : Mark) (rest : List Mark) : Bool :=
  (!isSpace m.char && !isBreak m.char && !signs.contains m.char) ||
    (m.char == '-' && !((next? rest).map isSpace).getD false) ||
    (!l.inFlow && (m.char == '?' || m.char == ':') && !endsWord rest)

/-- Reads the token at a mark. -/
def fetch (l : Lexer) (fuel : Nat) (m : Mark) (rest : List Mark) :
    Option (Lexer × List Mark) := do
  if m.column == 0 && m.char == '%' then
    let l ← l.endDocument
    let (t, rest) ← directive rest
    return (l.emit t, rest)
  else if isDocumentMark (m :: rest) then
    let l ← l.endDocument
    return (l.emit (if m.char == '-' then .documentStart else .documentEnd), rest.drop 2)
  else
    match m.char with
    | '[' => return (← l.openFlow m .flowSequenceStart, rest)
    | '\x7b' => return (← l.openFlow m .flowMappingStart, rest)
    | ']' => return (← l.closeFlow .flowSequenceEnd, rest)
    | '\x7d' => return (← l.closeFlow .flowMappingEnd, rest)
    | ',' => return (← l.flowEntry, rest)
    | '*' => l.word m ((anchorName rest).map fun (name, rest) => (.reference name, rest))
    | '&' => l.word m ((anchorName rest).map fun (name, rest) => (.anchor name, rest))
    | '!' => l.word m (tag l.inFlow (m :: rest))
    | '\x27' => l.word m (quotedScalar true fuel rest)
    | '"' => l.word m (quotedScalar false fuel rest)
    | c =>
      if c == '-' && endsWord rest then return (← l.blockEntry m, rest)
      else if c == '?' && (l.inFlow || endsWord rest) then return (← l.explicitKey m, rest)
      else if c == ':' && (l.inFlow || endsWord rest) then return (← l.value m, rest)
      else if c == '|' && !l.inFlow then l.blockWord false fuel rest
      else if c == '>' && !l.inFlow then l.blockWord true fuel rest
      else if l.startsPlain m rest then l.plainWord m rest
      else failure

/-- Reads all tokens. -/
def run : Nat → Lexer → List Mark → Option Lexer
  | 0, _, _ => none
  | fuel + 1, l, marks =>
    let (l, marks) := l.skipGap false marks
    match marks with
    | [] => l.closeAll.dropKey
    | m :: rest => do
      let l ← l.dropStale m
      let (l, rest) ← (l.closeWhile (m.column < ·)).fetch (fuel + 1) m rest
      run fuel l rest

end Lexer

/-- The tokens of a text, if it is YAML as far as they tell. -/
def tokens? (text : String) : Option (List Token) := do
  let marks ← marks? text
  return (← Lexer.run (marks.length + 1) .start marks).tokens.toList

end Signoff.Yaml
