import Signoff.Duration.Basic
import Signoff.Instant.Calendar
/-!
# Instants

A moment of universal time, to the nanosecond. An instant inside a leap second belongs to the
second before it and has a nanosecond of `10 ^ 9` or more, so instants order by second and then by
nanosecond.

- `Instant.add?` moves an instant by a number of nanoseconds. An instant that leaves its leap second
  is first moved to the start or the end of it, so that the leap second itself takes no time.
-/

namespace Signoff

/-- The first second that can be represented: the start of the year -262143. -/
def Instant.firstSecond : Int := -8334601228800

/-- The last second that can be represented: the end of the year 262142. -/
def Instant.lastSecond : Int := 8210266876799

/-- A moment of universal time, counted from the start of 1970. -/
structure Instant where
  second : Int
  nano : Nat
  first_le : Instant.firstSecond ≤ second
  le_last : second ≤ Instant.lastSecond
  nano_lt : nano < 2000000000
  leap : 1000000000 ≤ nano → second % 60 = 59
deriving DecidableEq

namespace Instant

/-- The start of 1970. -/
def epoch : Instant := ⟨0, 0, by decide, by decide, by decide, by decide⟩

instance : Inhabited Instant := ⟨epoch⟩

/-- The instant with a second and a nanosecond, if there is one. -/
def ofSecond? (second : Int) (nano : Nat) : Option Instant :=
  if h : firstSecond ≤ second ∧ second ≤ lastSecond ∧ nano < 2000000000 ∧
      (1000000000 ≤ nano → second % 60 = 59) then
    some ⟨second, nano, h.1, h.2.1, h.2.2.1, h.2.2.2⟩
  else none

/-- The order of time. -/
instance : Ord Instant := ⟨compareLex (compareOn Instant.second) (compareOn Instant.nano)⟩

instance : Std.TransOrd Instant :=
  inferInstanceAs (Std.TransCmp (compareLex (compareOn Instant.second) (compareOn Instant.nano)))

instance : Std.LawfulEqOrd Instant where
  eq_of_compare {a b} h := by
    have h : (compare a.second b.second).then (compare a.nano b.nano) = .eq := h
    rw [Ordering.then_eq_eq] at h
    cases a; cases b
    obtain rfl := Std.LawfulEqOrd.eq_of_compare h.1
    obtain rfl := Std.LawfulEqOrd.eq_of_compare h.2
    rfl

instance : LE Instant := leOfOrd
instance : LT Instant := ltOfOrd

/-- The instant lies in a leap second. -/
def isLeap (t : Instant) : Bool := 1000000000 ≤ t.nano

/-- Moves an instant by nanoseconds, if the result can be represented. -/
def add? (t : Instant) (nanoseconds : Int) : Option Instant :=
  let total := t.nano + nanoseconds
  if t.isLeap && 1000000000 ≤ total && total < 2000000000 then ofSecond? t.second total.toNat
  else
    let total := if t.isLeap && 0 < nanoseconds then total - 1000000000 else total
    ofSecond? (t.second + total / 1000000000) (total % 1000000000).toNat

/-- Moves an instant forward by a duration, if the result can be represented. -/
def after? (t : Instant) (d : Duration) : Option Instant := t.add? d.nanoseconds

/-- The date of an instant. -/
def date (t : Instant) : Date := Date.ofDays (t.second / 86400)

/-- The second of the day of an instant, from 0 to 86399. -/
def secondOfDay (t : Instant) : Nat := (t.second % 86400).toNat

end Instant

end Signoff
