import Signoff.Json.Cursor
/-!
# Reading strings

A string is read behind its opening quote. Characters beyond the basic plane are escaped as two
surrogates. A stray byte is reported when the string has ended.

- `readString` takes a string; `skipString` checks only its escapes.
-/

namespace Signoff.Json

/-- The value of a hexadecimal digit. -/
def hexValue? : Glyph → Option Nat
  | some c =>
    if c.isDigit then some (c.toNat - '0'.toNat)
    else if 'a' ≤ c ∧ c ≤ 'f' then some (c.toNat - 'a'.toNat + 10)
    else if 'A' ≤ c ∧ c ≤ 'F' then some (c.toNat - 'A'.toNat + 10)
    else none
  | none => none

/-- The value of four hexadecimal digits at the front of a text. -/
def hexCode? : Text → Option Nat
  | a :: b :: c :: d :: _ => do
    let a ← hexValue? a
    let b ← hexValue? b
    let c ← hexValue? c
    let d ← hexValue? d
    return 4096 * a + 256 * b + 16 * c + d
  | _ => none

/-- The character that a letter stands for in an escape. -/
def escape? : Char → Option Char
  | '"' => some '"'
  | '\\' => some '\\'
  | '/' => some '/'
  | 'b' => some '\x08'
  | 'f' => some '\x0c'
  | 'n' => some '\n'
  | 'r' => some '\r'
  | 't' => some '\t'
  | _ => none

/-- Takes the four digits of an escape. -/
def readHexCode : Reader Nat := do
  let c ← get
  match hexCode? c.rest with
  | some n =>
    set (c.skip 4)
    return n
  | none =>
    let position := Cursor.positionAfter c.line c.column 4 c.rest
    if Text.size (c.rest.take 4) < 4 then failAt position .endOfString
    else failAt position .invalidEscape

/-- Takes one of the two marks in front of the second surrogate. -/
def readSurrogateMark (expected : Char) : Reader Unit := do
  match ← peek with
  | none => failHere .endOfString
  | some g => if g = some expected then advance else failNext .unfinishedSurrogate

/-- Takes an escaped character behind `\u`. -/
def readUnicodeEscape : Reader Char := do
  let n ← readHexCode
  if 0xDC00 ≤ n ∧ n ≤ 0xDFFF then failHere .loneSurrogate
  else if 0xD800 ≤ n ∧ n ≤ 0xDBFF then
    readSurrogateMark '\\'
    readSurrogateMark 'u'
    let m ← readHexCode
    if 0xDC00 ≤ m ∧ m ≤ 0xDFFF then
      return Char.ofNat (0x10000 + 0x400 * (n - 0xD800) + (m - 0xDC00))
    else failHere .loneSurrogate
  else return Char.ofNat n

/-- Takes an escaped character behind the backslash. -/
def readEscape : Reader Char := do
  match ← peek with
  | none => failHere .endOfString
  | some g =>
    if g = some 'u' then
      advance
      readUnicodeEscape
    else
      match g.bind escape? with
      | some c =>
        advance
        return c
      | none => failNext .invalidEscape

/-- The number of bytes from the first stray byte of a string on, after one more character. -/
def addToStray (stray : Option Nat) (c : Char) : Option Nat := stray.map (· + c.utf8Size)

/-- Takes the rest of a string, whose characters so far are `before` in reverse; `stray` is the
number of bytes from the first stray byte of the string on. A stray byte is reported as many bytes
before the closing quote, so that an escape behind it counts like the character it stands for. The
text that remained at the start bounds the number of characters. -/
def readStringFrom : (bound : Text) → (before : List Char) → (stray : Option Nat) →
    Reader String
  | [], _, _ => failHere .endOfString
  | _ :: bound, before, stray => do
    match ← peek with
    | none => failHere .endOfString
    | some none =>
      advance
      readStringFrom bound before (some (stray.getD 0 + 1))
    | some (some c) =>
      if c = '"' then
        let quote := (← get).here
        advance
        match stray with
        | some n => failAt { quote with column := quote.column + 1 - n } .invalidCharacter
        | none => return String.ofList before.reverse
      else if c = '\\' then
        advance
        let c ← readEscape
        readStringFrom bound (c :: before) (addToStray stray c)
      else if c.toNat < 0x20 then failNext .controlCharacter
      else
        advance
        readStringFrom bound (c :: before) (addToStray stray c)

/-- Takes a string behind its opening quote. -/
def readString : Reader String := do readStringFrom (← get).rest [] none

/-! ## Strings that are not kept -/

/-- Drops an escape behind the backslash. -/
def skipEscape : Reader Unit := do
  match ← peek with
  | none => failHere .endOfString
  | some g =>
    if g = some 'u' then
      advance
      let _ ← readHexCode
    else if (g.bind escape?).isSome then advance
    else failNext .invalidEscape

/-- Drops the rest of a string. The text that remained at the start bounds the number of
characters. -/
def skipStringFrom : (bound : Text) → Reader Unit
  | [] => failHere .endOfString
  | _ :: bound => do
    match ← peek with
    | none => failHere .endOfString
    | some none =>
      advance
      skipStringFrom bound
    | some (some c) =>
      if c = '"' then advance
      else if c = '\\' then
        advance
        skipEscape
        skipStringFrom bound
      else if c.toNat < 0x20 then failHere .controlCharacter
      else
        advance
        skipStringFrom bound

/-- Drops a string behind its opening quote. -/
def skipString : Reader Unit := do skipStringFrom (← get).rest

end Signoff.Json
