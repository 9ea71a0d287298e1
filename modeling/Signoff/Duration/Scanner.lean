import Signoff.Duration.Parser
/-!
# Reading durations in place

How a machine reads a duration: it keeps the text as it is and a byte position in it, cuts the text
at positions, and counts in numbers of 128 bits. What a machine must not do is an outcome of its own
(`Breach`): it must not cut a text inside of a character or beyond its end, lose bits of a number,
divide by zero, or go round in a loop without end.

Some operations on numbers are looked after, and others are not: where a sum or a product does not
fit, `checked` stops, which is noticed, and `fitting` loses bits. Each loop is given a number of
rounds that it may take.

- `scanNumber`, `scanUnit` read a component at a position; `scanComponent` is one round of the loop
  over components.
- `scan` reads a whole text. Its result is in seconds and nanoseconds.
-/

namespace Signoff.Duration

/-- What a machine must not do. -/
inductive Breach where
  | cut
  | bits
  | divisor
  | endless
deriving DecidableEq, Repr

/-- Why a machine stops: the text is no duration, the result of an operation that is looked after
has more than 128 bits, or it does what it must not do. -/
inductive Stop where
  | refused (problem : Problem)
  | tooWide
  | breach (breach : Breach)
deriving DecidableEq, Repr

namespace Scanner

/-! ## Numbers -/

/-- The number, which has to fit some bits. -/
def fitting (bits n : Nat) : Except Stop Nat :=
  if n < Nat.pow 2 bits then .ok n else .error (.breach .bits)

/-- The number, unless it does not fit 128 bits. -/
def checked (n : Nat) : Except Stop Nat := if n < Nat.pow 2 128 then .ok n else .error .tooWide

/-- The number, unless it passes the limit of durations. -/
def limited (n : Nat) : Except Stop Nat :=
  if n ≤ limit then .ok n else .error (.refused .overflow)

/-- The quotient of two numbers, rounded down. -/
def divided (n divisor : Nat) : Except Stop Nat :=
  if divisor = 0 then .error (.breach .divisor) else .ok (n / divisor)

/-! ## Positions -/

/-- The part of a text from a byte position to another one. -/
def cut (text : String) (first last : Nat) : Except Stop String :=
  if h : (⟨first⟩ : String.Pos.Raw).IsValid text ∧ (⟨last⟩ : String.Pos.Raw).IsValid text ∧
      first ≤ last then
    .ok (text.slice (text.pos ⟨first⟩ h.1) (text.pos ⟨last⟩ h.2.1) h.2.2).copy
  else .error (.breach .cut)

/-- The text from a position on. -/
def cutFrom (text : String) (pos : Nat) : Except Stop String := cut text pos text.utf8ByteSize

/-- The character at a position, if the text is not over. -/
def charAt (text : String) (pos : Nat) : Except Stop (Option Char) := do
  return (← cutFrom text pos).toList.head?

/-- The value of the digit at a position, if there is one. -/
def digitAt (text : String) (pos : Nat) : Except Stop (Option Nat) := do
  return (← charAt text pos).bind fun c => if c.isDigit then some (digitValue c) else none

/-! ## Numbers in the text -/

/-- Reads on the digits of a whole number: the number, and the position after it. -/
def scanWhole (text : String) : Nat → Nat → Nat → Except Stop (Nat × Nat)
  | 0, _, _ => .error (.breach .endless)
  | rounds + 1, whole, pos => do
    match ← digitAt text pos with
    | none => return (whole, pos)
    | some digit =>
      let whole ← limited (← checked ((← checked (whole * 10)) + digit))
      scanWhole text rounds whole (pos + 1)

/-- What was read after the point: the number of the digits that count, the power of ten that they
are parts of, how many there are, and whether there was a digit at all. -/
structure Places where
  value : Nat
  scale : Nat
  count : Nat
  any : Bool
deriving DecidableEq, Repr

/-- Nothing was read after the point. -/
def Places.none : Places := ⟨0, 1, 0, false⟩

/-- Takes a digit. Those beyond the ones that count change nothing. -/
def Places.take (p : Places) (digit : Nat) : Except Stop Places := do
  if p.count < fractionDigits then
    let value ← fitting 128 ((← fitting 128 (p.value * 10)) + digit)
    let scale ← fitting 128 (p.scale * 10)
    return ⟨value, scale, p.count + 1, true⟩
  else return { p with any := true }

/-- Reads on the digits after the point. -/
def scanPlaces (text : String) : Nat → Places → Nat → Except Stop (Places × Nat)
  | 0, _, _ => .error (.breach .endless)
  | rounds + 1, places, pos => do
    match ← digitAt text pos with
    | none => return (places, pos)
    | some digit => scanPlaces text rounds (← places.take digit) (pos + 1)

/-- Reads the point and the digits after it, if there is a point. -/
def scanFraction (text : String) (rounds pos : Nat) : Except Stop (Places × Nat) := do
  if (← charAt text pos) == some '.' then scanPlaces text rounds .none (pos + 1)
  else return (.none, pos)

/-- A number with a fraction: `whole + value / scale`. -/
structure Number where
  whole : Nat
  value : Nat
  scale : Nat
deriving DecidableEq, Repr

/-- Reads a number. -/
def scanNumber (text : String) (rounds pos : Nat) : Except Stop (Number × Nat) := do
  let (whole, point) ← scanWhole text rounds 0 pos
  let (places, after) ← scanFraction text rounds point
  if !decide (pos < point) && !places.any then .error (.refused .invalid)
  else return (⟨whole, places.value, places.scale⟩, after)

/-! ## Units in the text -/

/-- The position at which a name of a unit ends. -/
def scanName (text : String) : Nat → Nat → Except Stop Nat
  | 0, _ => .error (.breach .endless)
  | rounds + 1, pos => do
    match ← charAt text pos with
    | none => return pos
    | some c => if isUnitChar c then scanName text rounds (pos + c.utf8Size) else return pos

/-- Reads a unit. -/
def scanUnit (text : String) (rounds pos : Nat) : Except Stop (Nat × Nat) := do
  let after ← scanName text rounds pos
  let name ← cut text pos after
  if name = "" then .error (.refused .missingUnit)
  else
    match unit? name with
    | some unit => return (unit, after)
    | none => .error (.refused (.unknownUnit name))

/-! ## Components and whole texts -/

/-- Reads a component and adds it. -/
def scanComponent (text : String) (rounds total pos : Nat) : Except Stop (Nat × Nat) := do
  let (number, pos) ← scanNumber text rounds pos
  let (unit, pos) ← scanUnit text rounds pos
  let whole ← checked (number.whole * unit)
  let part ← divided (← fitting 128 (number.value * unit)) number.scale
  let total ← limited (← checked (total + (← checked (whole + part))))
  return (total, pos)

/-- Reads components to the end of the text, in so many rounds at most. Each loop inside of a round
may take `inner` rounds. -/
def scanComponents (text : String) (inner : Nat) : Nat → Nat → Nat → Except Stop Nat
  | 0, _, _ => .error (.breach .endless)
  | rounds + 1, total, pos =>
    if text.utf8ByteSize ≤ pos then return total
    else do
      let (total, pos) ← scanComponent text inner total pos
      scanComponents text inner rounds total pos

/-- Reads what follows the sign. -/
def scanUnsigned (text : String) (rounds pos : Nat) : Except Stop Nat := do
  if (← cutFrom text pos) = "0" then return 0
  else if text.utf8ByteSize ≤ pos then .error (.refused .invalid)
  else scanComponents text rounds rounds 0 pos

/-- The number of nanoseconds that a text gives. -/
def scanTotal (text : String) (rounds : Nat) : Except Stop Nat := do
  if text.isEmpty then .error (.refused .empty)
  else
    match ← charAt text 0 with
    | some '-' => .error (.refused .negative)
    | some '+' => scanUnsigned text rounds 1
    | _ => scanUnsigned text rounds 0

/-- Reads a duration: whole seconds in 64 bits, and nanoseconds beyond them in 32. No loop takes
more than so many rounds. -/
def scan (text : String) (rounds : Nat) : Except Stop (Nat × Nat) := do
  let total ← scanTotal text rounds
  return (← fitting 64 (total / second), ← fitting 32 (total % second))

end Scanner

end Signoff.Duration
