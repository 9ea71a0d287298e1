import Signoff.Json.Double
/-!
# The shortest decimal text of a floating-point number

The fewest significant digits that read back as the number, and of those the nearest to it. The
digits are searched on decimal grids: with one digit, with two, and so on, the two grid points next
to the number are tried, and the first grid with a point that rounds to the number is taken.

- `Double.shortest` finds the digits and their scale.
- `Double.format` writes them: positionally from `1e-5` to below `1e16`, else with an exponent, and
  always so that the text shows a point or an exponent.
-/

namespace Signoff

/-- A decimal number `digits * 10 ^ scale`. -/
structure Decimal where
  digits : Nat
  scale : Int
deriving DecidableEq, Repr

namespace Double

/-- Four times the significand: the number, in units of a quarter of its last place. -/
def quarters (x : Double) : Nat := 4 * x.significand

/-- The least real that rounds to a positive number, in quarters of the last place. -/
def lower (x : Double) : Nat :=
  if x.fraction.val = 0 ∧ 1 < x.exponent.val then x.quarters - 1 else x.quarters - 2

/-- The greatest real that rounds to a positive number, in quarters of the last place. -/
def upper (x : Double) : Nat := x.quarters + 2

/-- The bounds of the reals that round to the number round to it themselves. -/
def boundsRound (x : Double) : Bool := x.significand % 2 == 0

/-- A positive number is below `10 ^ k`. -/
def isBelowTens (x : Double) (k : Int) : Bool :=
  let quarter := x.power - 2
  x.quarters * numerator quarter * Nat.pow 10 (-k).toNat < Nat.pow 10 k.toNat * denominator quarter

/-- The power of ten above a positive number: the least `k` with `x < 10 ^ k`. As the number has a
power of two below it and the next one above, the search takes two steps at most; the factor is a
little less than the logarithm of two. -/
def magnitude (x : Double) : Int :=
  let least : Int := ((x.quarters.log2 : Int) + x.power - 2) * 1233 / 4096
  if x.isBelowTens least then least
  else if x.isBelowTens (least + 1) then least + 1
  else least + 2

/-- The point `n * 10 ^ scale` rounds to the number. -/
def isNear (x : Double) (n : Nat) (scale : Int) : Bool :=
  let quarter := x.power - 2
  let point := n * Nat.pow 10 scale.toNat * denominator quarter
  let unit := numerator quarter * Nat.pow 10 (-scale).toNat
  if x.boundsRound then x.lower * unit ≤ point && point ≤ x.upper * unit
  else x.lower * unit < point && point < x.upper * unit

/-- Of the grid points `n` and `n + 1` around the number, those that round to it; the nearer one of
two, and the even one if both are equally near. -/
def nearest? (x : Double) (scale : Int) : Option Nat :=
  let quarter := x.power - 2
  let num := x.quarters * numerator quarter * Nat.pow 10 (-scale).toNat
  let den := denominator quarter * Nat.pow 10 scale.toNat
  let n := num / den
  match x.isNear n scale, x.isNear (n + 1) scale with
  | true, true => some (roundDiv num den)
  | true, false => some n
  | false, true => some (n + 1)
  | false, false => none

/-- Tries the grids of `count` digits and of up to `more` digits beyond. -/
def searchGrids (x : Double) (magnitude : Int) : (count more : Nat) → Decimal
  | count, 0 => ⟨(x.nearest? (magnitude - count)).getD 0, magnitude - count⟩
  | count, more + 1 =>
    match x.nearest? (magnitude - count) with
    | some n => ⟨n, magnitude - count⟩
    | none => searchGrids x magnitude (count + 1) more

/-- The shortest decimal number that reads back as the number, up to its sign. -/
def shortest (x : Double) : Decimal :=
  if x.isZero then ⟨0, 0⟩ else x.searchGrids x.magnitude 1 16

/-- Digits with the decimal point after the first `point` of them, where `point` may lie before or
behind all of them. -/
def positional (digits : List Char) (point : Int) : List Char :=
  if point ≤ 0 then ['0', '.'] ++ List.replicate (-point).toNat '0' ++ digits
  else
    let point := point.toNat
    if digits.length ≤ point then
      digits ++ List.replicate (point - digits.length) '0' ++ ['.', '0']
    else digits.take point ++ ['.'] ++ digits.drop point

/-- Digits with a point after the first and an exponent. -/
def scientific (digits : List Char) (exponent : Int) : List Char :=
  let mantissa := match digits with
    | d :: e :: rest => d :: '.' :: e :: rest
    | digits => digits
  mantissa ++ ['e', if exponent < 0 then '-' else '+'] ++ Nat.toDigits 10 exponent.natAbs

/-- Digits of a decimal number without zeros at their end. -/
def significantDigits (n : Nat) : List Char :=
  match ((Nat.toDigits 10 n).reverse.dropWhile (· == '0')).reverse with
  | [] => ['0']
  | digits => digits

/-- The characters of a number. -/
def render (x : Double) : List Char :=
  let d := x.shortest
  let exponent : Int := (Nat.toDigits 10 d.digits).length + d.scale - 1
  let digits := significantDigits d.digits
  (if x.negative then ['-'] else []) ++
    if x.isZero then ['0', '.', '0']
    else if -5 ≤ exponent ∧ exponent < 16 then positional digits (exponent + 1)
    else scientific digits exponent

/-- Writes a number. -/
def format (x : Double) : String := String.ofList x.render

end Double

end Signoff
