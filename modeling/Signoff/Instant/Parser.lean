import Signoff.Instant.Basic
import Signoff.Text.Blank
/-!
# Reading timestamps

A timestamp is a date, a `T` or a space, a time of day and an offset from universal time. White
space may stand before every number and every separator, numbers may have fewer digits than usual,
and a year of more than four digits has a sign. What is wrong with the form of a timestamp is
reported before what is wrong with its date.

- `Instant.parse` reads a timestamp.
-/

namespace Signoff.Instant

/-- What keeps a text from being a timestamp. -/
inductive ParseError where
  | tooShort
  | invalid
  | outOfRange
  | impossible
  | trailing
deriving DecidableEq, Repr

/-- The wording of an error. -/
def ParseError.message : ParseError → String
  | .tooShort => "premature end of input"
  | .invalid => "input contains invalid characters"
  | .outOfRange => "input is out of range"
  | .impossible => "no possible date and time matching input"
  | .trailing => "trailing input"

/-- Reads from the characters that remain. -/
abbrev Reader (α : Type) := StateT (List Char) (Except ParseError) α

/-- The value of a decimal digit. -/
def digit (c : Char) : Nat := c.toNat - '0'.toNat

/-- Takes at most `width` digits, as long as the number fits 64 bits with a sign. -/
def readDigits : (width : Nat) → (n : Nat) → Reader Nat
  | 0, n => pure n
  | width + 1, n => do
    match ← get with
    | c :: rest =>
      if c.isDigit then
        if 10 * n + digit c < 9223372036854775808 then
          set rest
          readDigits width (10 * n + digit c)
        else throw .outOfRange
      else pure n
    | [] => pure n

/-- Takes a number of one to `width` digits. -/
def readNumber (width : Nat) : Reader Nat := do
  match ← get with
  | [] => throw .tooShort
  | c :: _ => if c.isDigit then readDigits width 0 else throw .invalid

/-- Drops leading white space. -/
def skipBlanks : Reader Unit := modify trimStart

/-- Takes one character. -/
def readLiteral (expected : Char) : Reader Unit := do
  match ← get with
  | [] => throw .tooShort
  | c :: rest => if c = expected then set rest else throw .invalid

/-- Takes a number in a range, after white space. -/
def readField (first last : Nat) : Reader Nat := do
  skipBlanks
  let n ← readNumber 2
  if first ≤ n ∧ n ≤ last then pure n else throw .outOfRange

/-- Takes a separator, after white space. -/
def readSeparator (c : Char) : Reader Unit := do
  skipBlanks
  readLiteral c

/-- Takes a year that fits 32 bits: four digits, or any number of digits after a sign. -/
def readYear : Reader Int := do
  skipBlanks
  let cs ← get
  let year : Int ← match cs with
    | '-' :: rest => do set rest; pure (-(← readNumber rest.length : Nat))
    | '+' :: rest => do set rest; pure (← readNumber rest.length)
    | _ => pure (← readNumber 4)
  if -2147483648 ≤ year ∧ year < 2147483648 then pure year else throw .outOfRange

/-- Takes a date without looking at the length of its month. -/
def readDate : Reader Date := do
  let year ← readYear
  readSeparator '-'
  let month ← readField 1 12
  readSeparator '-'
  let day ← readField 1 31
  pure ⟨year, month, day⟩

/-- Takes what stands between the date and the time. -/
def readDateEnd : Reader Unit := do
  match ← get with
  | [] => throw .tooShort
  | c :: rest => if c = 't' ∨ c = 'T' ∨ c = ' ' then set rest else throw .invalid

/-- Takes the fraction of a second, in nanoseconds; digits beyond the ninth do not count. -/
def readFraction : Reader Nat := do
  match ← get with
  | '.' :: rest =>
    set rest
    let n ← readNumber 9
    let used := rest.length - (← get).length
    modify (·.dropWhile Char.isDigit)
    pure (n * Nat.pow 10 (9 - used))
  | _ => pure 0

/-- Takes a time of day: its second, and the nanosecond in it. The second 60 is a leap second. -/
def readTime : Reader (Nat × Nat) := do
  let hour ← readField 0 23
  readSeparator ':'
  let minute ← readField 0 59
  readSeparator ':'
  let second ← readField 0 60
  let nano ← readFraction
  skipBlanks
  if second = 60 then pure (3600 * hour + 60 * minute + 59, 1000000000 + nano)
  else pure (3600 * hour + 60 * minute + second, nano)

/-- Takes two digits. -/
def readPair : Reader (Nat × Nat) := do
  match ← get with
  | c :: d :: rest =>
    if c.isDigit && d.isDigit then
      set rest
      pure (digit c, digit d)
    else throw .invalid
  | [c] => if c.utf8Size = 1 then throw .tooShort else throw .invalid
  | [] => throw .tooShort

/-- Takes hours and minutes, in seconds. -/
def readHoursMinutes : Reader Nat := do
  let (h, h') ← readPair
  modify (·.dropWhile fun c => c = ':' || isBlank c)
  let (m, m') ← readPair
  if m < 6 then pure (3600 * (10 * h + h') + 60 * (10 * m + m')) else throw .outOfRange

/-- Takes the offset from universal time, in seconds. -/
def readOffset : Reader Int := do
  match ← get with
  | 'Z' :: rest | 'z' :: rest => set rest; pure 0
  | '+' :: rest => set rest; pure (← readHoursMinutes)
  | '-' :: rest | '\u2212' :: rest => set rest; pure (-(← readHoursMinutes : Nat))
  | u :: t :: c :: rest =>
    if u.toUpper = 'U' ∧ t.toUpper = 'T' ∧ c.toUpper = 'C' then
      set rest
      pure 0
    else throw .invalid
  | _ :: _ => throw .invalid
  | [] => throw .tooShort

/-- The instant of a date, a second of its day and a nanosecond, at an offset. -/
def ofParts (date : Date) (second nano : Nat) (offset : Int) : Except ParseError Instant :=
  if date.IsValid ∧ -262143 ≤ date.year ∧ date.year ≤ 262142 then
    if -86400 < offset ∧ offset < 86400 then
      match ofSecond? (86400 * date.toDays + second - offset) nano with
      | some t => .ok t
      | none => .error .impossible
    else .error .outOfRange
  else .error .outOfRange

/-- Reads a whole timestamp. -/
def reader : Reader Instant := do
  let date ← readDate
  readDateEnd
  let (second, nano) ← readTime
  let offset ← readOffset
  if (trimStart (← get)).isEmpty then ofParts date second nano offset else throw .trailing

/-- Reads a timestamp. -/
def parse (text : String) : Except ParseError Instant := (reader.run text.toList).map (·.1)

end Signoff.Instant
