/-!
# The calendar

Dates of the proleptic Gregorian calendar and their number of days since 1970-01-01. Years are
counted from March, so that the leap day is the last day of its year; four hundred years are an
era, a hundred years a century, and four years a quadrennium.

- `Date.toDays` and `Date.ofDays` go from a date to its day number and back.
- `Date.IsValid` says that the month has the day.
-/

namespace Signoff

/-- A date. -/
structure Date where
  year : Int
  month : Nat
  day : Nat
deriving DecidableEq, Repr

namespace Date

/-- The year has a leap day. -/
def isLeapYear (year : Int) : Bool := year % 4 == 0 && (year % 100 != 0 || year % 400 == 0)

/-- The number of days in a month. -/
def daysInMonth (year : Int) (month : Nat) : Nat :=
  if month = 2 then if isLeapYear year then 29 else 28
  else if month = 4 ∨ month = 6 ∨ month = 9 ∨ month = 11 then 30
  else 31

/-- The month exists and has the day. -/
def IsValid (d : Date) : Prop :=
  1 ≤ d.month ∧ d.month ≤ 12 ∧ 1 ≤ d.day ∧ d.day ≤ daysInMonth d.year d.month

instance (d : Date) : Decidable d.IsValid := inferInstanceAs (Decidable (_ ∧ _ ∧ _ ∧ _))

/-- Days from 0000-03-01 to 1970-01-01. -/
def epochDays : Int := 719468

/-- The number of days since 1970-01-01. -/
def toDays (d : Date) : Int :=
  let year := if d.month ≤ 2 then d.year - 1 else d.year
  let month := (d.month + 9) % 12
  365 * year + year / 4 - year / 100 + year / 400 +
    ((153 * month + 2) / 5 : Nat) + d.day - 1 - epochDays

/-- The date with a number of days since 1970-01-01. -/
def ofDays (days : Int) : Date :=
  let days := days + epochDays
  let era := days / 146097
  let inEra := (days % 146097).toNat
  let century := min (inEra / 36524) 3
  let inCentury := inEra - 36524 * century
  let quadrennium := inCentury / 1461
  let inQuadrennium := inCentury % 1461
  let yearOfFour := min (inQuadrennium / 365) 3
  let dayOfYear := inQuadrennium - 365 * yearOfFour
  let month := (5 * dayOfYear + 2) / 153
  let day := dayOfYear - (153 * month + 2) / 5 + 1
  let year := 400 * era + (100 * century + 4 * quadrennium + yearOfFour : Nat)
  if month < 10 then ⟨year, month + 3, day⟩ else ⟨year + 1, month - 9, day⟩

end Date

end Signoff
