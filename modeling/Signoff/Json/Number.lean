import Signoff.Json.Cursor
/-!
# Reading numbers

An integer that 64 bits hold stays an integer. Any other number is a floating-point number: the
significand is cut to as many leading digits as 64 bits hold, rounded once, and then scaled by a
power of ten, with every step rounded.

- `readNumber` takes a number; `skipNumber` checks only its form.
-/

namespace Signoff

/-- The number with some digits. -/
def Number.ofDigits (negative : Bool) (n : Nat) : Number :=
  let signed : Int := if negative then -(n : Int) else n
  if h : Number.Fits signed then
    if negative && n == 0 then .real (.zero true) else .whole signed h
  else .real ((Double.ofRatio? negative n 1).getD default)

/-- The number with some digits and a power of ten, if it is finite. -/
def Number.ofScaled? (negative : Bool) (n : Nat) (exponent : Int) : Option Number :=
  ((Double.ofRatio? negative n 1).bind (·.scale? exponent)).map .real

namespace Json

/-- The value of a digit. -/
def digit? : Glyph → Option Nat
  | some c => if c.isDigit then some (c.toNat - '0'.toNat) else none
  | none => none

/-- Puts the leading digits after `n` as long as the number stays below a limit. Gives the number
and how many digits there are with the `count` before. -/
def takeDigits (limit n count : Nat) : Text → Nat × Nat
  | [] => (n, count)
  | g :: rest =>
    match digit? g with
    | some d =>
      if 10 * n + d < limit then takeDigits limit (10 * n + d) (count + 1) rest else (n, count)
    | none => (n, count)

/-- The number of leading digits. -/
def countDigits (text : Text) : Nat := (text.takeWhile fun g => (digit? g).isSome).length

/-- The next glyph is a digit. -/
def atDigit : Reader Bool := do
  match ← peek with
  | some g => return (digit? g).isSome
  | none => return false

/-- The next glyph starts an exponent. -/
def atExponent : Reader Bool := do
  let g ← peek
  return g == some (some 'e') || g == some (some 'E')

/-- Drops `n` digits. -/
def skip (n : Nat) : Reader Unit := modify (·.skip n)

/-- Drops leading digits and gives their number. -/
def skipDigits : Reader Nat := do
  let count := countDigits (← get).rest
  skip count
  return count

/-- Takes leading digits after `n` while the number stays below a limit. -/
def readDigits (limit n : Nat) : Reader (Nat × Nat) := do
  let (m, count) := takeDigits limit n 0 (← get).rest
  skip count
  return (m, count)

/-- The significand of a number stays below this. -/
def significandLimit : Nat := 18446744073709551616

/-- The exponent of a number stays below this. -/
def exponentLimit : Nat := 2147483648

/-- Ends a number that has a power of ten. -/
def endNumber (negative : Bool) (n : Nat) (exponent : Int) : Reader Number := do
  match Number.ofScaled? negative n exponent with
  | some x => pure x
  | none => failHere .numberOutOfRange

/-- Takes an exponent, which adds to the power of ten so far, and ends the number. -/
def readExponent (negative : Bool) (n : Nat) (exponent : Int) : Reader Number := do
  skip 1
  let sign ← peek
  if sign == some (some '+') || sign == some (some '-') then skip 1
  let down := sign == some (some '-')
  match ← peek with
  | none => failHere .endOfValue
  | some g =>
    if (digit? g).isNone then failNext .invalidNumber
    else
      let (e, _) ← readDigits exponentLimit 0
      if ← atDigit then
        if n != 0 && !down then failNext .numberOutOfRange
        else
          let _ ← skipDigits
          return .real (.zero negative)
      else endNumber negative n (if down then exponent - e else exponent + e)

/-- Ends a number with an exponent or without one. -/
def readScale (negative : Bool) (n : Nat) (exponent : Int) : Reader Number := do
  if ← atExponent then readExponent negative n exponent else endNumber negative n exponent

/-- Takes the fraction of a number, from its point, and ends the number. -/
def readFraction (negative : Bool) (n : Nat) (exponent : Int) : Reader Number := do
  skip 1
  let (n, count) ← readDigits significandLimit n
  if ← atDigit then
    let _ ← skipDigits
    readScale negative n (exponent - count)
  else if count = 0 then
    match ← peek with
    | some _ => failNext .invalidNumber
    | none => failHere .endOfValue
  else readScale negative n (exponent - count)

/-- Ends a number whose digits before the point are all read; `dropped` of them did not fit. -/
def readAfterWhole (negative : Bool) (n dropped : Nat) : Reader Number := do
  if (← peek) == some (some '.') then readFraction negative n dropped
  else if ← atExponent then readExponent negative n dropped
  else if dropped = 0 then return Number.ofDigits negative n
  else endNumber negative n dropped

/-- Takes a number behind its sign. -/
def readUnsigned (negative : Bool) : Reader Number := do
  match ← peek with
  | none => failHere .endOfValue
  | some g =>
    match digit? g with
    | none => failNext .invalidNumber
    | some 0 =>
      skip 1
      if ← atDigit then failNext .invalidNumber else readAfterWhole negative 0 0
    | some _ =>
      let (n, _) ← readDigits significandLimit 0
      let dropped ← skipDigits
      readAfterWhole negative n dropped

/-- Takes a number. -/
def readNumber : Reader Number := do
  if (← peek) == some (some '-') then
    skip 1
    readUnsigned true
  else readUnsigned false

/-! ## Numbers that are not kept -/

/-- Drops an exponent. -/
def skipExponent : Reader Unit := do
  skip 1
  let sign ← peek
  if sign == some (some '+') || sign == some (some '-') then skip 1
  if (← skipDigits) = 0 then failNext .invalidNumber

/-- Drops a fraction and an exponent. -/
def skipFraction : Reader Unit := do
  if (← peek) == some (some '.') then
    skip 1
    if (← skipDigits) = 0 then failNext .invalidNumber
  if ← atExponent then skipExponent

/-- Drops a number of any size. -/
def skipNumber : Reader Unit := do
  if (← peek) == some (some '-') then skip 1
  match (← peek).bind digit? with
  | none => failNext .invalidNumber
  | some 0 =>
    skip 1
    if ← atDigit then failNext .invalidNumber else skipFraction
  | some _ =>
    let _ ← skipDigits
    skipFraction

end Json

end Signoff
