import Signoff.Duration.Basic
/-!
# Writing durations

Whole hours, minutes and seconds are components of their own; what is left of a second is one
component in the largest unit that divides it. Zero is `0s`. `describe` is the spelling that
diagnostics use: one decimal number in the largest unit that the duration fills.
-/

namespace Signoff.Duration

/-- A component, left out when it is zero. -/
def component (n : Nat) (unit : String) : List Char :=
  if n = 0 then [] else Nat.toDigits 10 n ++ unit.toList

/-- What is left of a second. -/
def subsecondComponent (n : Nat) : List Char :=
  if n % millisecond = 0 then component (n / millisecond) "ms"
  else if n % microsecond = 0 then component (n / microsecond) "us"
  else component n "ns"

/-- The characters of a duration. -/
def render (d : Duration) : List Char :=
  if d.nanoseconds = 0 then ['0', 's']
  else
    component (d.nanoseconds / hour) "h" ++
    component (d.nanoseconds % hour / minute) "m" ++
    component (d.nanoseconds % minute / second) "s" ++
    subsecondComponent d.subsecond

/-- Writes a duration so that it reads back unchanged. -/
def format (d : Duration) : String := String.ofList d.render

/-- The digits of `n` written with `width` places, without trailing zeros. -/
def trimmedFraction (n width : Nat) : List Char :=
  let digits := Nat.toDigits 10 n
  ((List.replicate (width - digits.length) '0' ++ digits).reverse.dropWhile (· == '0')).reverse

/-- `whole` and the fraction `part / 10 ^ width`, with the point only before a digit. -/
def decimal (whole part width : Nat) : String :=
  match trimmedFraction part width with
  | [] => toString whole
  | digits => toString whole ++ "." ++ String.ofList digits

/-- A duration as one decimal number in the largest of seconds, milliseconds, microseconds and
nanoseconds that it fills. -/
def describe (d : Duration) : String :=
  let n := d.nanoseconds
  if second ≤ n then decimal (n / second) (n % second) 9 ++ "s"
  else if millisecond ≤ n then decimal (n / millisecond) (n % millisecond) 6 ++ "ms"
  else if microsecond ≤ n then decimal (n / microsecond) (n % microsecond) 3 ++ "\u00b5s"
  else toString n ++ "ns"

end Signoff.Duration
