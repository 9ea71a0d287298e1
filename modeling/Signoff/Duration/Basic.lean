/-!
# Durations

A length of time in nanoseconds, the units it is written in, and what can be wrong with a written
duration.
-/

namespace Signoff

/-- A length of time. -/
structure Duration where
  nanoseconds : Nat
deriving DecidableEq, Repr, Inhabited

namespace Duration

/-- No time at all. -/
def zero : Duration := ⟨0⟩

/-- Nanoseconds in a microsecond. -/
def microsecond : Nat := 1000

/-- Nanoseconds in a millisecond. -/
def millisecond : Nat := 1000000

/-- Nanoseconds in a second. -/
def second : Nat := 1000000000

/-- Nanoseconds in a minute. -/
def minute : Nat := 60 * second

/-- Nanoseconds in an hour. -/
def hour : Nat := 60 * minute

/-- The longest duration that can be read: the largest signed 64-bit count of nanoseconds. -/
def limit : Nat := 9223372036854775807

/-- Fraction digits of a number beyond this many do not count. -/
def fractionDigits : Nat := 18

/-- Whole seconds of a duration. -/
def seconds (d : Duration) : Nat := d.nanoseconds / second

/-- Nanoseconds of a duration beyond its whole seconds. -/
def subsecond (d : Duration) : Nat := d.nanoseconds % second

theorem subsecond_lt (d : Duration) : d.subsecond < second :=
  Nat.mod_lt _ (by decide)

theorem seconds_add_subsecond (d : Duration) :
    d.seconds * second + d.subsecond = d.nanoseconds := by
  rw [Nat.mul_comm]; exact Nat.div_add_mod ..

/-- The nanoseconds of the unit with a name; the micro sign and the Greek letter mu both stand for
"micro". -/
def unit? : String → Option Nat
  | "ns" => some 1
  | "us" => some microsecond
  | "\u00b5s" => some microsecond
  | "\u03bcs" => some microsecond
  | "ms" => some millisecond
  | "s" => some second
  | "m" => some minute
  | "h" => some hour
  | _ => none

/-- What keeps a text from being a duration. -/
inductive Problem where
  | empty
  | negative
  | invalid
  | missingUnit
  | unknownUnit (unit : String)
  | overflow
deriving DecidableEq, Repr

/-- A text that is no duration. -/
structure ParseError where
  problem : Problem
  text : String
deriving DecidableEq, Repr

/-- The wording of a problem. -/
def ParseError.message : ParseError → String
  | ⟨.empty, _⟩ => "empty duration"
  | ⟨.negative, text⟩ => s!"negative duration '{text}'"
  | ⟨.invalid, text⟩ => s!"invalid duration '{text}'"
  | ⟨.missingUnit, text⟩ => s!"missing unit in duration '{text}'"
  | ⟨.unknownUnit unit, text⟩ => s!"unknown unit '{unit}' in duration '{text}'"
  | ⟨.overflow, text⟩ => s!"duration '{text}' out of range"

end Duration

end Signoff
