import Signoff.Duration.Basic
/-!
# Reading durations

A duration is written as an optional `+` and then either a lone `0` or components, each a number
with a unit: `1h30m`, `1.5h`, `.5s`. The value is the sum of the components.

- `readNumber` and `readUnit` split a component off the characters; `readUnit_length` says that a
  unit takes at least one character, so `readComponents` ends.
- `parse` reads a whole text.
-/

namespace Signoff.Duration

/-- The value of a decimal digit. -/
def digitValue (c : Char) : Nat := c.toNat - '0'.toNat

/-- The value of a list of decimal digits, put after the digits of `n`. -/
def digitsValue (n : Nat) (digits : List Char) : Nat :=
  digits.foldl (fun n c => 10 * n + digitValue c) n

/-- A number with a fraction: `whole + fraction / 10 ^ places`. -/
structure Quantity where
  whole : Nat
  fraction : Nat
  places : Nat
deriving DecidableEq, Repr

/-- The nanoseconds in a quantity of a unit, rounded down. -/
def Quantity.times (q : Quantity) (unit : Nat) : Nat :=
  q.whole * unit + q.fraction * unit / Nat.pow 10 q.places

/-- Splits the whole part off; `none` as soon as it passes the limit. -/
def readWhole : Nat → List Char → Option (Nat × List Char)
  | n, [] => some (n, [])
  | n, c :: rest =>
    if c.isDigit then
      if 10 * n + digitValue c ≤ limit then readWhole (10 * n + digitValue c) rest else none
    else some (n, c :: rest)

/-- Splits the fraction off: its digits, and what follows them. -/
def readFraction : List Char → List Char × List Char
  | '.' :: rest => (rest.takeWhile Char.isDigit, rest.dropWhile Char.isDigit)
  | rest => ([], rest)

/-- The text starts with a digit. -/
def startsWithDigit : List Char → Bool
  | c :: _ => c.isDigit
  | [] => false

/-- Splits a number off: it has a digit before or after its point. -/
def readNumber (cs : List Char) : Except Problem (Quantity × List Char) :=
  match readWhole 0 cs with
  | none => .error .overflow
  | some (whole, rest) =>
    let (digits, rest) := readFraction rest
    if !startsWithDigit cs && digits.isEmpty then .error .invalid
    else
      let kept := digits.take fractionDigits
      .ok (⟨whole, digitsValue 0 kept, kept.length⟩, rest)

/-- A character that can stand in the name of a unit. -/
def isUnitChar (c : Char) : Bool := c != '.' && !c.isDigit

/-- Splits a unit off: the longest run of characters that belong to no number. -/
def readUnit (cs : List Char) : Except Problem (Nat × List Char) :=
  match cs.takeWhile isUnitChar with
  | [] => .error .missingUnit
  | c :: name =>
    match unit? (String.ofList (c :: name)) with
    | some unit => .ok (unit, cs.dropWhile isUnitChar)
    | none => .error (.unknownUnit (String.ofList (c :: name)))

theorem readWhole_length {n : Nat} {cs rest : List Char} {m : Nat}
    (h : readWhole n cs = some (m, rest)) : rest.length ≤ cs.length := by
  induction cs generalizing n with
  | nil => simp only [readWhole, Option.some.injEq, Prod.mk.injEq] at h; simp [← h.2]
  | cons c cs ih =>
    rw [readWhole] at h
    split at h
    · split at h
      · exact Nat.le_succ_of_le (ih h)
      · cases h
    · cases h; exact Nat.le_refl _

theorem readFraction_length (cs : List Char) : (readFraction cs).2.length ≤ cs.length := by
  unfold readFraction
  split
  · exact Nat.le_succ_of_le (List.dropWhile_suffix _).length_le
  · exact Nat.le_refl _

theorem readNumber_length {cs rest : List Char} {q : Quantity}
    (h : readNumber cs = .ok (q, rest)) : rest.length ≤ cs.length := by
  unfold readNumber at h
  split at h
  · cases h
  · rename_i whole rest' hw
    dsimp only at h
    split at h
    · cases h
    · cases h
      exact Nat.le_trans (readFraction_length _) (readWhole_length hw)

/-- A unit takes at least one character. -/
theorem readUnit_length {cs rest : List Char} {unit : Nat}
    (h : readUnit cs = .ok (unit, rest)) : rest.length < cs.length := by
  unfold readUnit at h
  split at h
  · cases h
  · rename_i c name hname
    split at h
    · cases h
      have := congrArg List.length (List.takeWhile_append_dropWhile (p := isUnitChar) (l := cs))
      rw [List.length_append, hname, List.length_cons] at this
      omega
    · cases h

/-- Reads components to the end of the text and adds them to `total`. -/
def readComponents (total : Nat) (cs : List Char) : Except Problem Nat :=
  match cs with
  | [] => .ok total
  | c :: cs =>
    match _ : readNumber (c :: cs) with
    | .error e => .error e
    | .ok (q, rest) =>
      match _ : readUnit rest with
      | .error e => .error e
      | .ok (unit, rest') =>
        if total + q.times unit ≤ limit then readComponents (total + q.times unit) rest'
        else .error .overflow
termination_by cs.length
decreasing_by
  have := readNumber_length ‹_›
  have := readUnit_length ‹_›
  simp only [List.length_cons] at *
  omega

/-- Reads what follows the optional sign. -/
def readUnsigned : List Char → Except Problem Nat
  | [] => .error .invalid
  | ['0'] => .ok 0
  | cs => readComponents 0 cs

/-- Reads the characters of a duration. -/
def readChars : List Char → Except Problem Nat
  | [] => .error .empty
  | '-' :: _ => .error .negative
  | '+' :: rest => readUnsigned rest
  | cs => readUnsigned cs

/-- Reads a duration. -/
def parse (text : String) : Except ParseError Duration :=
  match readChars text.toList with
  | .ok n => .ok ⟨n⟩
  | .error problem => .error ⟨problem, text⟩

end Signoff.Duration
