import Signoff.Instant.Calendar

/-!
# Days and dates

The date of a day number exists and has that number (`isValid_ofDays`, `toDays_ofDays`), and the
days that instants reach lie in the years that timestamps may have (`year_ofDays`).

All three look at the place of the day: its era of four hundred years, its century, its quadrennium
and its year, each counted from March, and the day of that year (`Place`).
-/

namespace Signoff

namespace Date

/-- A day by its place: the numbers of the era, of the century in it, and so on. -/
structure Place where
  era : Int
  century : Nat
  quadrennium : Nat
  year : Nat
  day : Nat

namespace Place

/-- The numbers are in their ranges. The last day of a year of 366 days ends a quadrennium, and one
that ends a century only if that ends its era. -/
structure IsValid (p : Place) : Prop where
  century_le : p.century ≤ 3
  quadrennium_le : p.quadrennium ≤ 24
  year_le : p.year ≤ 3
  day_le : p.day ≤ 365
  leap : p.day = 365 → p.year = 3 ∧ (p.quadrennium = 24 → p.century = 3)

/-- The number of the day since 0000-03-01. -/
def days (p : Place) : Int :=
  146097 * p.era + 36524 * p.century + 1461 * p.quadrennium + 365 * p.year + p.day

/-- The year that began in March. -/
def marchYear (p : Place) : Int :=
  400 * p.era + (100 * p.century + 4 * p.quadrennium + p.year : Nat)

/-- The date of the day. -/
def date (p : Place) : Date :=
  let month := (5 * p.day + 2) / 153
  let day := p.day - (153 * month + 2) / 5 + 1
  if month < 10 then ⟨p.marchYear, month + 3, day⟩ else ⟨p.marchYear + 1, month - 9, day⟩

variable {p : Place}

theorem marchYear_div (h : p.IsValid) :
    p.marchYear / 4 = 100 * p.era + 25 * p.century + p.quadrennium ∧
      p.marchYear / 100 = 4 * p.era + p.century ∧ p.marchYear / 400 = p.era := by
  obtain ⟨hc, hq, hy, -, -⟩ := h
  unfold marchYear
  omega

/-- The first day of a month, counted from March, comes before a day of that month. -/
theorem month_le {day : Nat} (h : day ≤ 365) :
    (5 * day + 2) / 153 ≤ 11 ∧ (153 * ((5 * day + 2) / 153) + 2) / 5 ≤ day := by omega

theorem toDays_date (h : p.IsValid) : p.date.toDays = p.days - epochDays := by
  obtain ⟨h4, h100, h400⟩ := marchYear_div h
  obtain ⟨hm, hd⟩ := month_le h.day_le
  have days : 365 * p.marchYear + p.marchYear / 4 - p.marchYear / 100 + p.marchYear / 400 + p.day =
      p.days := by
    rw [h4, h100, h400]
    unfold marchYear days
    omega
  unfold date
  generalize (5 * p.day + 2) / 153 = m at hm hd
  dsimp only
  split
  · have month : (m + 3 + 9) % 12 = m := by omega
    simp only [toDays, month, if_neg (show ¬ m + 3 ≤ 2 by omega)]
    omega
  · have month : (m - 9 + 9) % 12 = m := by omega
    simp only [toDays, month, if_pos (show m - 9 ≤ 2 by omega), Int.add_sub_cancel]
    omega

/-- A year with a leap day ends a quadrennium of years that began in March. -/
theorem isLeapYear_of_last (h : p.IsValid) (last : p.day = 365) :
    isLeapYear (p.marchYear + 1) = true := by
  obtain ⟨third, century⟩ := h.leap last
  have hc := h.century_le
  have hq := h.quadrennium_le
  simp only [isLeapYear, Bool.and_eq_true, Bool.or_eq_true, beq_iff_eq, bne_iff_ne]
  unfold marchYear
  omega

theorem isValid_date (h : p.IsValid) : p.date.IsValid := by
  have leapDay := isLeapYear_of_last h
  have hd := h.day_le
  unfold date
  generalize hm : (5 * p.day + 2) / 153 = m
  dsimp only
  split
  · refine ⟨by dsimp only; omega, by dsimp only; omega, by dsimp only; omega, ?_⟩
    simp only [daysInMonth]
    split
    · omega
    split
    · omega
    · omega
  · refine ⟨by dsimp only; omega, by dsimp only; omega, by dsimp only; omega, ?_⟩
    simp only [daysInMonth]
    split
    · by_cases last : p.day = 365
      · rw [leapDay last, if_pos rfl]
        omega
      · split <;> omega
    split
    · omega
    · omega

end Place

theorem exists_place (n : Int) :
    ∃ p : Place, p.IsValid ∧ p.days = n + epochDays ∧ ofDays n = p.date := by
  generalize hd : n + epochDays = d
  let era := d / 146097
  let inEra := (d % 146097).toNat
  let century := min (inEra / 36524) 3
  let inCentury := inEra - 36524 * century
  let quadrennium := inCentury / 1461
  let inQuadrennium := inCentury % 1461
  let year := min (inQuadrennium / 365) 3
  let day := inQuadrennium - 365 * year
  have h_era : era = d / 146097 := rfl
  have h_inEra : (inEra : Int) = d % 146097 := by omega
  have h_century : century = min (inEra / 36524) 3 := rfl
  have h_inCentury : inCentury = inEra - 36524 * century := rfl
  have h_quadrennium : quadrennium = inCentury / 1461 := rfl
  have h_inQuadrennium : inQuadrennium = inCentury % 1461 := rfl
  have h_year : year = min (inQuadrennium / 365) 3 := rfl
  have h_day : day = inQuadrennium - 365 * year := rfl
  refine ⟨⟨era, century, quadrennium, year, day⟩, ?_, ?_, ?_⟩
  · clear_value era inEra century inCentury quadrennium inQuadrennium year day
    have inEra_lt : inEra < 146097 := by omega
    -- only the last century of an era has a day more
    have inCentury_le : (century < 3 → inCentury < 36524) ∧ inCentury ≤ 36524 := by omega
    have day_le : year ≤ 3 ∧ day ≤ 365 ∧ (day = 365 → year = 3 ∧ inQuadrennium = 1460) := by omega
    constructor <;> dsimp only <;> omega
  · clear_value era inEra century inCentury quadrennium inQuadrennium year day
    simp only [Place.days]
    omega
  · unfold ofDays
    rw [hd]
    rfl

/-- The date of a day has the number of the day. -/
theorem toDays_ofDays (n : Int) : (ofDays n).toDays = n := by
  obtain ⟨p, valid, days, eq⟩ := exists_place n
  rw [eq, Place.toDays_date valid, days]
  omega

theorem isValid_ofDays (n : Int) : (ofDays n).IsValid := by
  obtain ⟨p, valid, -, eq⟩ := exists_place n
  rw [eq]
  exact Place.isValid_date valid

/-- The days of instants lie in the years from -262143 to 262142. -/
theorem year_ofDays {n : Int} (first : -96465292 ≤ n) (last : n ≤ 95026236) :
    -262143 ≤ (ofDays n).year ∧ (ofDays n).year ≤ 262142 := by
  obtain ⟨p, valid, days, eq⟩ := exists_place n
  obtain ⟨hc, hq, hy, hd, -⟩ := valid
  rw [eq]
  unfold Place.days epochDays at days
  unfold Place.date Place.marchYear
  generalize hm : (5 * p.day + 2) / 153 = m
  dsimp only
  split
  · dsimp only
    omega
  · refine ⟨by dsimp only; omega, ?_⟩
    dsimp only
    -- a later year would begin in era 655, and there in century 1
    by_cases he : p.era = 655
    · by_cases hc : p.century = 1
      · omega
      · omega
    · omega

end Date

end Signoff
