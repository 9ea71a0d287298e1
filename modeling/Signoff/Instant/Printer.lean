import Signoff.Instant.Basic
/-!
# Writing timestamps

Years have at least four digits, and a sign outside 0 to 9999; the fraction of a second has no
digits, three, six or nine. A leap second is written as second 60.
-/

namespace Signoff.Instant

/-- A natural number with leading zeros up to a width. -/
def padded (width n : Nat) : List Char :=
  let digits := Nat.toDigits 10 n
  List.replicate (width - digits.length) '0' ++ digits

theorem isDigit_padded (width n : Nat) : ∀ c ∈ padded width n, c.isDigit = true := by
  intro c hc
  rcases List.mem_append.1 hc with zero | digit
  · rw [List.eq_of_mem_replicate zero]
    decide
  · exact Nat.isDigit_of_mem_toDigits (by decide) (Nat.le_refl 10) digit

/-- Leading zeros do not change the number that digits stand for. -/
theorem ofDigitChars_padded (width n : Nat) : Nat.ofDigitChars 10 (padded width n) 0 = n := by
  rw [padded, Nat.ofDigitChars_append, Nat.ofDigitChars_replicate_zero, Nat.mul_zero,
    Nat.ofDigitChars_ten_toDigits]

theorem padded_inj {width m n : Nat} (h : padded width m = padded width n) : m = n := by
  rw [← ofDigitChars_padded width m, h, ofDigitChars_padded]

/-- The characters of a year. -/
def renderYear (year : Int) : List Char :=
  if 0 ≤ year ∧ year ≤ 9999 then padded 4 year.toNat
  else (if year < 0 then '-' else '+') :: padded 4 year.natAbs

/-- The characters of a date. -/
def renderDate (d : Date) : List Char :=
  renderYear d.year ++ '-' :: padded 2 d.month ++ '-' :: padded 2 d.day

/-- The characters of the nanoseconds in a second, with as many groups of three digits as needed. -/
def renderFraction (nano : Nat) : List Char :=
  if nano = 0 then []
  else if nano % 1000000 = 0 then '.' :: padded 3 (nano / 1000000)
  else if nano % 1000 = 0 then '.' :: padded 6 (nano / 1000)
  else '.' :: padded 9 nano

/-- The characters of the time of day. -/
def renderTime (t : Instant) : List Char :=
  let second := t.secondOfDay
  let leap := if t.isLeap then 1 else 0
  padded 2 (second / 3600) ++ ':' :: padded 2 (second % 3600 / 60) ++
    ':' :: padded 2 (second % 60 + leap) ++ renderFraction (t.nano % 1000000000)

/-- The characters of an instant. -/
def render (t : Instant) : List Char := renderDate t.date ++ 'T' :: renderTime t ++ ['Z']

/-- Writes an instant so that it reads back unchanged. -/
def format (t : Instant) : String := String.ofList t.render

/-- The spelling of an instant in diagnostics. -/
def describe (t : Instant) : String :=
  String.ofList (renderDate t.date ++ ' ' :: renderTime t) ++ " UTC"

end Signoff.Instant
