/-!
# Binary floating point

The finite numbers of 64-bit binary floating point, and the arithmetic on them that reading a
decimal number needs. A product or quotient is computed exactly and rounded once, to the nearest
number, and to the one with the even significand if two are nearest.

- `Double.ofRatio?` rounds a ratio of natural numbers; it has no result past the largest number.
- `Double.scale?` multiplies or divides by powers of ten.
-/

namespace Signoff

/-- The number of fractions that an exponent goes with: `2 ^ 52`. -/
abbrev Double.fractionCount : Nat := 4503599627370496

/-- A finite number of 64-bit binary floating point. -/
structure Double where
  negative : Bool
  exponent : Fin 2047
  fraction : Fin Double.fractionCount
deriving DecidableEq, Repr, Inhabited

namespace Double

/-- Zero with a sign. -/
def zero (negative : Bool) : Double := ⟨negative, 0, 0⟩

/-- The number is `0` or `-0`. -/
def isZero (x : Double) : Bool := x.exponent.val == 0 && x.fraction.val == 0

/-- The significand: an integer below `2 ^ 53`. -/
def significand (x : Double) : Nat :=
  if x.exponent.val = 0 then x.fraction else fractionCount + x.fraction

/-- The number is `significand * 2 ^ power`, up to its sign. -/
def power (x : Double) : Int := max (x.exponent : Int) 1 - 1075

/-- A natural number as numerator of `2 ^ power`. -/
def numerator (power : Int) : Nat := Nat.pow 2 power.toNat

/-- The denominator of `2 ^ power`. -/
def denominator (power : Int) : Nat := Nat.pow 2 (-power).toNat

/-- The quotient rounded to the nearest natural number, a half to the even one. -/
def roundDiv (num den : Nat) : Nat :=
  let q := num / den
  let twice := 2 * (num % den)
  if twice < den then q
  else if den < twice then q + 1
  else q + q % 2

/-- The number whose exponent and fraction, read as one natural number, are `bits`. -/
def ofBits? (negative : Bool) (bits : Nat) : Option Double :=
  if h : bits / fractionCount < 2047 then
    some ⟨negative, ⟨bits / fractionCount, h⟩, ⟨bits % fractionCount, Nat.mod_lt _ (by decide)⟩⟩
  else none

/-- The power of two that leaves a significand of 53 bits for `num / den`, or the least power. -/
def powerFor (num den : Nat) : Int :=
  let guess : Int := (num.log2 : Int) - den.log2 - 52
  let guess :=
    if num * denominator guess < fractionCount * (den * numerator guess) then guess - 1 else guess
  max guess (-1074)

/-- The number nearest to `num / den`, if it is finite. -/
def ofRatio? (negative : Bool) (num den : Nat) : Option Double :=
  if num = 0 then some (zero negative)
  else
    let power := powerFor num den
    ofBits? negative
      ((power + 1074).toNat * fractionCount +
        roundDiv (num * denominator power) (den * numerator power))

/-- The product, if it is finite. -/
def mul? (x y : Double) : Option Double :=
  let power := x.power + y.power
  ofRatio? (x.negative != y.negative) (x.significand * y.significand * numerator power)
    (denominator power)

/-- The quotient by a number other than zero, if it is finite. -/
def div? (x y : Double) : Option Double :=
  let power := x.power - y.power
  ofRatio? (x.negative != y.negative) (x.significand * numerator power)
    (y.significand * denominator power)

/-- The largest power of ten that is used in one step. -/
def maxTens : Nat := 308

/-- The number nearest to a power of ten. -/
def tens (n : Nat) : Double := (ofRatio? false (Nat.pow 10 n) 1).getD default

/-- Divides by `10 ^ n`, in steps of at most `10 ^ 308`. -/
def scaleDown? (x : Double) (n : Nat) : Option Double :=
  if n ≤ maxTens then x.div? (tens n)
  else if x.isZero then some x
  else
    match x.div? (tens maxTens) with
    | some y => scaleDown? y (n - maxTens)
    | none => none
termination_by n
decreasing_by simp only [maxTens] at *; omega

/-- Multiplies by `10 ^ exponent`, if the result is finite. -/
def scale? (x : Double) (exponent : Int) : Option Double :=
  if exponent < 0 then x.scaleDown? exponent.natAbs
  else if exponent ≤ maxTens then x.mul? (tens exponent.toNat)
  else if x.isZero then some x
  else none

end Double

end Signoff
