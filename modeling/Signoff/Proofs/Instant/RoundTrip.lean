import Signoff.Instant.Parser
import Signoff.Instant.Printer
import Signoff.Proofs.Instant.Calendar
import Signoff.Proofs.Reader

/-!
# Timestamps read back

A timestamp that is written reads as the instant it was written for (`parse_format`), for every
instant that can be represented, inside a leap second too.

Each part has a lemma of its own: numbers with leading zeros (`reads_padded`), the year with and
without a sign (`reads_year`), the fraction of a second in groups of three digits
(`reads_fraction`), the time of day (`reads_time`) and the date (`reads_date`).
-/

namespace Signoff.Instant

/-- The reader takes characters and gives what they say. -/
abbrev Reads {α : Type} (r : Reader α) (before : List Char) (a : α) (after : List Char) : Prop :=
  Takes id r before a after

variable {α : Type} {cs rest : List Char}

theorem reads_get_bind {f : List Char → Reader α} {a : α} (h : Reads (f cs) cs a rest) :
    Reads (get >>= f) cs a rest :=
  Takes.get_bind fun s hs => by
    subst hs
    exact h

theorem reads_set_bind {f : PUnit → Reader α} {cs' : List Char} {a : α}
    (h : Reads (f ⟨⟩) cs a rest) : Reads (set cs >>= f) cs' a rest :=
  (Takes.set rfl).bind h

/-- The text does not begin with a digit. -/
def NoDigit (cs : List Char) : Prop := ∀ c, cs.head? = some c → c.isDigit = false

theorem noDigit_cons {c : Char} (h : c.isDigit = false) (cs : List Char) : NoDigit (c :: cs) := by
  intro c' hc
  obtain rfl := Option.some.inj hc
  exact h

/-! ## Numbers -/

theorem length_padded {width n : Nat} (pos : 0 < width) (h : n < Nat.pow 10 width) :
    (padded width n).length = width := by
  have := (Nat.length_toDigits_le_iff (by decide) pos).2 h
  simp only [padded, List.length_append, List.length_replicate]
  omega

theorem padded_ne_nil (width n : Nat) : padded width n ≠ [] := by
  simp [padded, Nat.toDigits_ne_nil]

/-- Digits are taken up to a width or up to the first character that is none. -/
theorem reads_digits {ds : List Char} (digits : ∀ c ∈ ds, c.isDigit = true) {width n : Nat}
    (fits : ds.length ≤ width) (ends : ds.length = width ∨ NoDigit rest)
    (small : Nat.ofDigitChars 10 ds n < 9223372036854775808) :
    Reads (readDigits width n) (ds ++ rest) (Nat.ofDigitChars 10 ds n) rest := by
  induction ds generalizing width n with
  | nil =>
    cases width with
    | zero => exact Takes.pure _ _
    | succ width =>
      refine reads_get_bind ?_
      cases rest with
      | nil => exact Takes.pure _ _
      | cons c rest =>
        have none_ : c.isDigit = false := by
          rcases ends with h | h
          · cases h
          · exact h c rfl
        simp only [List.nil_append, none_]
        exact Takes.pure _ _
  | cons c ds ih =>
    obtain ⟨here, others⟩ := List.forall_mem_cons.1 digits
    rw [Nat.ofDigitChars_cons] at small ⊢
    cases width with
    | zero => simp at fits
    | succ width =>
      have small_here : 10 * n + digit c < 9223372036854775808 :=
        Nat.lt_of_le_of_lt (le_ofDigitChars ds _) small
      refine reads_get_bind ?_
      simp only [List.cons_append, here, if_true, small_here]
      refine reads_set_bind (ih others (by simpa using fits) ?_ small)
      exact ends.imp_left fun h => by simpa using h

theorem reads_number {ds : List Char} (digits : ∀ c ∈ ds, c.isDigit = true) (some_ : ds ≠ [])
    {width : Nat} (fits : ds.length ≤ width) (ends : ds.length = width ∨ NoDigit rest)
    (small : Nat.ofDigitChars 10 ds 0 < 9223372036854775808) :
    Reads (readNumber width) (ds ++ rest) (Nat.ofDigitChars 10 ds 0) rest := by
  refine reads_get_bind ?_
  have all := reads_digits digits fits ends small
  cases ds with
  | nil => exact absurd rfl some_
  | cons c ds =>
    simp only [List.cons_append, digits c List.mem_cons_self, if_true]
    exact all

/-- A number with leading zeros is taken whole. -/
theorem reads_padded {width n limit : Nat} (fits : (padded width n).length ≤ limit)
    (ends : (padded width n).length = limit ∨ NoDigit rest) (small : n < 9223372036854775808) :
    Reads (readNumber limit) (padded width n ++ rest) n rest := by
  have h := reads_number (isDigit_padded width n) (padded_ne_nil width n) fits ends
    (by rwa [ofDigitChars_padded])
  rwa [ofDigitChars_padded] at h

/-! ## Fields -/

theorem not_blank_of_digit {c : Char} (h : c.isDigit = true) : isBlank c = false := by
  rw [Char.isDigit, Bool.and_eq_true, decide_eq_true_eq, decide_eq_true_eq] at h
  have low : 48 ≤ c.toNat := UInt32.le_iff_toNat_le.1 h.1
  have high : c.toNat ≤ 57 := UInt32.le_iff_toNat_le.1 h.2
  simp only [isBlank, Bool.or_eq_false_iff, Bool.and_eq_false_iff, decide_eq_false_iff_not,
    beq_eq_false_iff_ne]
  omega

theorem reads_skipBlanks {c : Char} (h : isBlank c = false) :
    Reads skipBlanks (c :: cs) ⟨⟩ (c :: cs) :=
  Takes.modify fun s hs => by
    obtain rfl : s = c :: cs := hs
    rw [id, trimStart, List.dropWhile_cons_of_neg (by rw [h]; decide)]

/-- A number begins with a digit. -/
theorem padded_eq_cons (width n : Nat) :
    ∃ c ds, padded width n = c :: ds ∧ c.isDigit = true := by
  have digits := isDigit_padded width n
  obtain ⟨c, ds, eq⟩ := List.exists_cons_of_ne_nil (padded_ne_nil width n)
  exact ⟨c, ds, eq, digits c (by rw [eq]; exact List.mem_cons_self)⟩

theorem reads_skipBlanks_padded (width n : Nat) (rest : List Char) :
    Reads skipBlanks (padded width n ++ rest) ⟨⟩ (padded width n ++ rest) := by
  obtain ⟨c, ds, eq, digit⟩ := padded_eq_cons width n
  rw [eq]
  exact reads_skipBlanks (not_blank_of_digit digit)

theorem reads_literal (c : Char) : Reads (readLiteral c) (c :: rest) ⟨⟩ rest := by
  refine reads_get_bind ?_
  simp only [if_true]
  exact Takes.set rfl

theorem reads_separator {c : Char} (h : isBlank c = false) :
    Reads (readSeparator c) (c :: rest) ⟨⟩ rest :=
  (reads_skipBlanks h).bind (reads_literal c)

/-- A number of two digits is taken if it is in range. -/
theorem reads_field {first last n : Nat} (lt : n < 100) (le : first ≤ n) (ge : n ≤ last) :
    Reads (readField first last) (padded 2 n ++ rest) n rest := by
  have two : (padded 2 n).length = 2 := length_padded (by decide) lt
  refine (reads_skipBlanks_padded 2 n rest).bind ?_
  refine (reads_padded (Nat.le_of_eq two) (.inl two) (by omega)).bind ?_
  rw [if_pos ⟨le, ge⟩]
  exact Takes.pure _ _

/-! ## Dates -/

theorem reads_year {year : Int} (low : -262143 ≤ year) (high : year ≤ 262142) (rest : List Char) :
    Reads readYear (renderYear year ++ '-' :: rest) year ('-' :: rest) := by
  have inRange : Reads (if -2147483648 ≤ year ∧ year < 2147483648 then pure year
      else throw .outOfRange) ('-' :: rest) year ('-' :: rest) := by
    rw [if_pos (by omega)]
    exact Takes.pure _ _
  have signed : Reads (readNumber (padded 4 year.natAbs ++ '-' :: rest).length)
      (padded 4 year.natAbs ++ '-' :: rest) year.natAbs ('-' :: rest) :=
    reads_padded (by simp) (.inr (noDigit_cons (by decide) _)) (by omega)
  unfold readYear renderYear
  split
  · rename_i plain
    have small : year.toNat < 10000 := by omega
    have four : (padded 4 year.toNat).length = 4 := length_padded (by decide) small
    have number : Reads (readNumber 4) (padded 4 year.toNat ++ '-' :: rest) year.toNat
        ('-' :: rest) :=
      reads_padded (Nat.le_of_eq four) (.inl four) (by omega)
    refine (reads_skipBlanks_padded 4 year.toNat _).bind (reads_get_bind ?_)
    obtain ⟨c, ds, eq, digit⟩ := padded_eq_cons 4 year.toNat
    rw [eq] at number ⊢
    split
    · rename_i sign
      cases (List.cons.inj sign).1 ▸ digit
    · rename_i sign
      cases (List.cons.inj sign).1 ▸ digit
    · refine number.bind ((Takes.pure _ _).bind ?_)
      rw [Int.toNat_of_nonneg plain.1]
      exact inRange
  · by_cases negative : year < 0
    · rw [if_pos negative]
      refine (reads_skipBlanks (by decide)).bind (reads_get_bind (reads_set_bind ?_))
      refine signed.bind ((Takes.pure _ _).bind ?_)
      rw [show -(year.natAbs : Int) = year by omega]
      exact inRange
    · rw [if_neg negative]
      refine (reads_skipBlanks (by decide)).bind (reads_get_bind (reads_set_bind ?_))
      refine signed.bind ((Takes.pure _ _).bind ?_)
      rw [show (year.natAbs : Int) = year by omega]
      exact inRange

theorem daysInMonth_le (year : Int) (month : Nat) : Date.daysInMonth year month ≤ 31 := by
  unfold Date.daysInMonth
  split
  · split <;> omega
  · split <;> omega

theorem reads_date {d : Date} (valid : d.IsValid) (low : -262143 ≤ d.year)
    (high : d.year ≤ 262142) (rest : List Char) :
    Reads readDate (renderDate d ++ rest) d rest := by
  obtain ⟨month, month_le, day, day_le⟩ := valid
  have day_le := Nat.le_trans day_le (daysInMonth_le _ _)
  unfold readDate renderDate
  simp only [List.append_assoc, List.cons_append]
  refine (reads_year low high _).bind ((reads_separator (by decide)).bind ?_)
  refine (reads_field (by omega) month month_le).bind ((reads_separator (by decide)).bind ?_)
  refine (reads_field (by omega) day day_le).bind ?_
  exact Takes.pure _ _

/-! ## Times of day -/

/-- A group of digits behind the point stands for so many nanoseconds. -/
theorem reads_point (width n : Nat) (width_le : width ≤ 9) (pos : 0 < width)
    (lt : n < Nat.pow 10 width) (rest : List Char) :
    Reads readFraction ('.' :: padded width n ++ 'Z' :: rest) (n * Nat.pow 10 (9 - width))
      ('Z' :: rest) := by
  have length : (padded width n).length = width := length_padded pos lt
  have zone : NoDigit ('Z' :: rest) := noDigit_cons (by decide) _
  have small : n < 9223372036854775808 :=
    Nat.lt_of_lt_of_le lt (Nat.le_trans (Nat.pow_le_pow_right (by decide) width_le) (by decide))
  have number : Reads (readNumber 9) (padded width n ++ 'Z' :: rest) n ('Z' :: rest) :=
    reads_padded (by omega) (.inr zone) small
  refine reads_get_bind (reads_set_bind (number.bind (reads_get_bind ?_)))
  have used : (padded width n ++ 'Z' :: rest).length - ('Z' :: rest).length = width := by
    simp [length]
  have dropped : Reads (modify (·.dropWhile Char.isDigit)) ('Z' :: rest) ⟨⟩ ('Z' :: rest) :=
    Takes.modify fun s hs => by
      obtain rfl : s = 'Z' :: rest := hs
      rfl
  refine dropped.bind ?_
  show Reads (pure (n * Nat.pow 10 (9 - ((padded width n ++ 'Z' :: rest).length -
    ('Z' :: rest).length)))) _ _ _
  rw [used]
  exact Takes.pure _ _

theorem reads_fraction {nano : Nat} (h : nano < 1000000000) (rest : List Char) :
    Reads readFraction (renderFraction nano ++ 'Z' :: rest) nano ('Z' :: rest) := by
  unfold renderFraction
  split
  · rename_i zero
    subst zero
    exact reads_get_bind (Takes.pure _ _)
  split
  · have small : nano / 1000000 < 1000 := by omega
    have whole : nano / 1000000 * 1000000 = nano := by omega
    have := reads_point 3 (nano / 1000000) (by decide) (by decide) small rest
    rwa [show Nat.pow 10 (9 - 3) = 1000000 by decide, whole] at this
  split
  · have small : nano / 1000 < 1000000 := by omega
    have whole : nano / 1000 * 1000 = nano := by omega
    have := reads_point 6 (nano / 1000) (by decide) (by decide) small rest
    rwa [show Nat.pow 10 (9 - 6) = 1000 by decide, whole] at this
  · have := reads_point 9 nano (by decide) (by decide) h rest
    rwa [show Nat.pow 10 (9 - 9) = 1 by decide, Nat.mul_one] at this

theorem reads_time (t : Instant) (rest : List Char) :
    Reads readTime (renderTime t ++ 'Z' :: rest) (t.secondOfDay, t.nano) ('Z' :: rest) := by
  have day : t.secondOfDay < 86400 := by
    unfold secondOfDay
    omega
  have ends_minute : 1000000000 ≤ t.nano → t.secondOfDay % 60 = 59 := fun leap => by
    have := t.leap leap
    unfold secondOfDay
    omega
  have nano_lt := t.nano_lt
  unfold readTime renderTime
  generalize t.secondOfDay = second at day ends_minute
  simp only [List.append_assoc, List.cons_append]
  refine (reads_field (by omega) (by omega) (by omega)).bind ?_
  refine (reads_separator (by decide)).bind ?_
  refine (reads_field (by omega) (by omega) (by omega)).bind ?_
  refine (reads_separator (by decide)).bind ?_
  -- the second 60 is that of an instant in its leap second
  by_cases leap : 1000000000 ≤ t.nano
  · have isLeap : t.isLeap = true := decide_eq_true leap
    have last : second % 60 + 1 = 60 := by rw [ends_minute leap]
    rw [isLeap, if_pos rfl, last]
    refine (reads_field (by omega) (by omega) (by omega)).bind ?_
    refine (reads_fraction (by omega) rest).bind ((reads_skipBlanks (by decide)).bind ?_)
    have second_eq : 3600 * (second / 3600) + 60 * (second % 3600 / 60) + 59 = second := by
      have := ends_minute leap
      omega
    have nano_eq : 1000000000 + t.nano % 1000000000 = t.nano := by omega
    rw [if_pos rfl, second_eq, nano_eq]
    exact Takes.pure _ _
  · have notLeap : t.isLeap = false := decide_eq_false leap
    rw [notLeap, if_neg (by decide)]
    refine (reads_field (by omega) (by omega) (by omega)).bind ?_
    refine (reads_fraction (by omega) rest).bind ((reads_skipBlanks (by decide)).bind ?_)
    have second_eq : 3600 * (second / 3600) + 60 * (second % 3600 / 60) + (second % 60 + 0) =
        second := by
      omega
    have nano_eq : t.nano % 1000000000 = t.nano := by omega
    rw [if_neg (by omega), second_eq, nano_eq]
    exact Takes.pure _ _

/-! ## Timestamps -/

theorem year_date (t : Instant) : -262143 ≤ t.date.year ∧ t.date.year ≤ 262142 := by
  have first := t.first_le
  have last := t.le_last
  unfold firstSecond at first
  unfold lastSecond at last
  exact Date.year_ofDays (by omega) (by omega)

theorem isValid_date (t : Instant) : t.date.IsValid := Date.isValid_ofDays _

/-- The parts of an instant make the instant. -/
theorem ofParts_eq (t : Instant) : ofParts t.date t.secondOfDay t.nano 0 = .ok t := by
  have second : 86400 * t.date.toDays + t.secondOfDay - 0 = t.second := by
    rw [date, Date.toDays_ofDays, secondOfDay]
    omega
  rw [ofParts, if_pos ⟨t.isValid_date, t.year_date⟩, if_pos (by decide), second, ofSecond?,
    dif_pos ⟨t.first_le, t.le_last, t.nano_lt, t.leap⟩]

/-- A timestamp reads as the instant it was written for. -/
theorem parse_format (t : Instant) : parse t.format = .ok t := by
  have whole : Reads reader t.render t [] := by
    unfold reader render
    simp only [List.append_assoc, List.cons_append]
    refine (reads_date t.isValid_date t.year_date.1 t.year_date.2 _).bind ?_
    have between : Reads readDateEnd ('T' :: (renderTime t ++ ['Z'])) ⟨⟩ (renderTime t ++ ['Z']) :=
      reads_get_bind (Takes.set rfl)
    refine between.bind ((reads_time t []).bind ?_)
    have zone : Reads readOffset ['Z'] 0 [] := reads_get_bind (reads_set_bind (Takes.pure _ _))
    refine zone.bind (reads_get_bind ?_)
    rw [if_pos (by rfl), ofParts_eq]
    exact Takes.pure _ _
  obtain ⟨_, eq, -⟩ := whole t.render rfl
  rw [parse, format, String.toList_ofList, StateT.run, eq]
  rfl

end Signoff.Instant
