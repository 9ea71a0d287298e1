import Signoff.Proofs.Duration.Grammar

/-!
# Reading durations

The reader takes a text for a duration just if the text spells one that does not pass the limit.

* `readUnit_named`, `readNumber_numeral`, `readComponents_append`: what is spelled is read, up to
  where it ends, unless it passes the limit.
* `readUnit_ok`, `readNumber_ok`, `readComponents_ok`: what is read is spelled.
* `parse_follows_grammar`: both, for a whole text, and what becomes of the other texts.
-/

namespace Signoff.Duration

variable {cs rest number whole fraction : List Char} {n m total : Nat}

/-! ## Units -/

/-- A unit that is spelled is read, up to where no unit goes on. -/
theorem readUnit_named {name : String} {length : Nat} (named : (name, length) ∈ units)
    (stops : Stops isUnitChar rest) : readUnit (name.toList ++ rest) = .ok (length, rest) := by
  have all := unitChars_of_mem named
  obtain ⟨c, tail, spelled⟩ := List.exists_cons_of_ne_nil (toList_ne_nil_of_mem named)
  have looked : unit? (String.ofList (c :: tail)) = some length := by
    rw [← spelled, String.ofList_toList]
    exact unit?_eq_some_iff.2 named
  simp only [readUnit, takeWhile_of_stops all stops, dropWhile_of_stops all stops]
  rw [spelled]
  simp only [looked]

/-- A unit that is read is spelled. -/
theorem readUnit_ok {length : Nat} (h : readUnit cs = .ok (length, rest)) :
    ∃ name, (name, length) ∈ units ∧ cs = name.toList ++ rest := by
  unfold readUnit at h
  split at h
  · cases h
  · rename_i c tail taken
    split at h
    · rename_i looked
      cases h
      refine ⟨_, unit?_eq_some_iff.1 looked, ?_⟩
      rw [String.toList_ofList, ← taken, List.takeWhile_append_dropWhile]
    · cases h

/-! ## Numbers -/

/-- More digits stand for no smaller number. -/
theorem le_ofDigitChars (ds : List Char) (n : Nat) : n ≤ Nat.ofDigitChars 10 ds n := by
  induction ds generalizing n with
  | nil => exact Nat.le_refl n
  | cons c ds ih =>
    have := ih (10 * n + (c.toNat - '0'.toNat))
    show n ≤ Nat.ofDigitChars 10 ds (10 * n + (c.toNat - '0'.toNat))
    omega

/-- Digits are read as their number, unless it passes the limit. -/
theorem readWhole_digits (digits : Digits cs) (stops : Stops Char.isDigit rest) (le : n ≤ limit) :
    readWhole n (cs ++ rest) =
      if Nat.ofDigitChars 10 cs n ≤ limit then some (Nat.ofDigitChars 10 cs n, rest) else none := by
  induction cs generalizing n with
  | nil =>
    have same : Nat.ofDigitChars 10 [] n = n := rfl
    rw [List.nil_append, same, if_pos le]
    cases rest with
    | nil => rfl
    | cons c rest => rw [readWhole, stops c rfl, if_neg Bool.false_ne_true]
  | cons c cs ih =>
    obtain ⟨digit, digits⟩ := List.forall_mem_cons.1 digits
    have step : Nat.ofDigitChars 10 (c :: cs) n =
        Nat.ofDigitChars 10 cs (10 * n + digitValue c) := rfl
    rw [List.cons_append, readWhole, if_pos digit, step]
    by_cases small : 10 * n + digitValue c ≤ limit
    · rw [if_pos small, ih digits small]
    · have := le_ofDigitChars cs (10 * n + digitValue c)
      rw [if_neg small, if_neg (by omega)]

/-- What is read before the point is digits, as many as there are. -/
theorem readWhole_ok (h : readWhole n cs = some (m, rest)) :
    ∃ ds, cs = ds ++ rest ∧ Digits ds ∧ Stops Char.isDigit rest ∧
      m = Nat.ofDigitChars 10 ds n := by
  induction cs generalizing n with
  | nil =>
    cases h
    exact ⟨[], rfl, nofun, stops_nil, rfl⟩
  | cons c cs ih =>
    rw [readWhole] at h
    split at h
    · rename_i digit
      split at h
      · obtain ⟨ds, rfl, digits, stops, rfl⟩ := ih h
        exact ⟨c :: ds, rfl, List.forall_mem_cons.2 ⟨digit, digits⟩, stops, rfl⟩
      · cases h
    · rename_i other
      cases h
      exact ⟨[], rfl, nofun, stops_cons (by simpa using other), rfl⟩

/-- What stands after the digits is read, up to where a unit begins. -/
theorem readFraction_point {after : List Char} (point : Point after fraction) {c : Char}
    (unit : isUnitChar c = true) :
    readFraction (after ++ c :: rest) = (fraction, c :: rest) := by
  cases point with
  | none =>
    show readFraction (c :: rest) = _
    unfold readFraction
    split
    · rename_i eq
      cases eq
      cases unit
    · rfl
  | some places =>
    have stops : Stops Char.isDigit (c :: rest) := stops_cons (isDigit_of_isUnitChar unit)
    show readFraction ('.' :: (fraction ++ c :: rest)) = _
    rw [readFraction, takeWhile_of_stops places stops, dropWhile_of_stops places stops]

/-- What is read after the digits is spelled. -/
theorem readFraction_ok (h : readFraction cs = (fraction, rest)) :
    ∃ after, cs = after ++ rest ∧ Point after fraction := by
  unfold readFraction at h
  split at h
  · rename_i tail
    cases h
    exact ⟨'.' :: tail.takeWhile Char.isDigit,
      by rw [List.cons_append, List.takeWhile_append_dropWhile],
      .some (List.all_eq_true.1 List.all_takeWhile)⟩
  · cases h
    exact ⟨[], rfl, .none⟩

/-- Digits at the start are seen. -/
theorem startsWithDigit_append (digits : Digits whole) (stops : Stops Char.isDigit rest) :
    startsWithDigit (whole ++ rest) = !whole.isEmpty := by
  cases whole with
  | nil =>
    cases rest with
    | nil => rfl
    | cons c rest => exact stops c rfl
  | cons c whole => exact digits c List.mem_cons_self

/-- A number that is spelled is read, up to where a unit begins, unless it passes the limit. -/
theorem readNumber_numeral (h : Numeral number whole fraction) {c : Char}
    (unit : isUnitChar c = true) :
    readNumber (number ++ c :: rest) =
      if Nat.ofDigitChars 10 whole 0 ≤ limit then
        .ok (⟨Nat.ofDigitChars 10 whole 0, Nat.ofDigitChars 10 (fraction.take 18) 0,
          (fraction.take 18).length⟩, c :: rest)
      else .error .overflow := by
  obtain ⟨after, rfl, digits, point, some_⟩ := numeral_iff.1 h
  have stops : Stops Char.isDigit (after ++ c :: rest) :=
    point.stops (stops_cons (isDigit_of_isUnitChar unit))
  have accepted :
      (!startsWithDigit (whole ++ (after ++ c :: rest)) && fraction.isEmpty) = false := by
    rw [startsWithDigit_append digits stops]
    cases whole with
    | nil => simpa using some_
    | cons => rfl
  rw [List.append_assoc, readNumber, readWhole_digits digits stops (Nat.zero_le _)]
  by_cases small : Nat.ofDigitChars 10 whole 0 ≤ limit
  · rw [if_pos small, if_pos small]
    dsimp only
    rw [readFraction_point point unit]
    dsimp only
    rw [accepted]
    rfl
  · rw [if_neg small, if_neg small]

/-- A number that is read is spelled. -/
theorem readNumber_ok {q : Quantity} (h : readNumber cs = .ok (q, rest)) :
    ∃ number whole fraction, cs = number ++ rest ∧ Numeral number whole fraction ∧
      q = ⟨Nat.ofDigitChars 10 whole 0, Nat.ofDigitChars 10 (fraction.take 18) 0,
        (fraction.take 18).length⟩ := by
  unfold readNumber at h
  split at h
  · cases h
  · rename_i n tail read
    obtain ⟨whole, rfl, digits, stops, rfl⟩ := readWhole_ok read
    rcases parted : readFraction tail with ⟨fraction, rest'⟩
    rw [parted] at h
    dsimp only at h
    split at h
    · cases h
    · rename_i accepted
      cases h
      obtain ⟨after, rfl, point⟩ := readFraction_ok parted
      rw [startsWithDigit_append digits stops] at accepted
      refine ⟨whole ++ after, whole, fraction, by rw [List.append_assoc],
        numeral_iff.2 ⟨after, rfl, digits, point, ?_⟩, rfl⟩
      by_cases leading : whole = []
      · subst leading
        exact .inr (by simpa using accepted)
      · exact .inl leading

/-! ## Components -/

/-- A component that is spelled is read and added, unless the sum passes the limit. -/
theorem readComponents_append (h : Component cs n) (stops : Stops isUnitChar rest) (total : Nat) :
    readComponents total (cs ++ rest) =
      if total + n ≤ limit then readComponents (total + n) rest else .error .overflow := by
  obtain ⟨numeral, named⟩ := h
  rename_i number whole fraction unit length
  obtain ⟨c, tail, spelled⟩ := List.exists_cons_of_ne_nil (toList_ne_nil_of_mem named)
  have unitChar : isUnitChar c = true :=
    unitChars_of_mem named c (by rw [spelled]; exact List.mem_cons_self)
  have read : readNumber (number ++ c :: (tail ++ rest)) = _ :=
    readNumber_numeral numeral unitChar
  rw [← List.cons_append, ← spelled, ← List.append_assoc] at read
  obtain ⟨c', more, first⟩ : ∃ c' more, number ++ unit.toList ++ rest = c' :: more := by
    obtain ⟨c', number', rfl⟩ := List.exists_cons_of_ne_nil numeral.ne_nil
    exact ⟨c', _, rfl⟩
  rw [first] at read ⊢
  by_cases small : Nat.ofDigitChars 10 whole 0 ≤ limit
  · rw [if_pos small] at read
    rw [readComponents, read]
    dsimp only
    rw [readUnit_named named stops]
    rfl
  · -- the digits before the point alone pass the limit
    rw [if_neg small] at read
    have alone : Nat.ofDigitChars 10 whole 0 ≤ amount whole fraction length :=
      Nat.le_trans (Nat.le_mul_of_pos_right _ (length_pos_of_mem named)) (Nat.le_add_right ..)
    have beyond : ¬ total + amount whole fraction length ≤ limit := by omega
    rw [readComponents, read, if_neg beyond]

/-- Components that are spelled are read to the end, unless their sum passes the limit. -/
theorem readComponents_components (h : Components cs n) (le : total ≤ limit) :
    readComponents total cs =
      if total + n ≤ limit then .ok (total + n) else .error .overflow := by
  induction h generalizing total with
  | nil => rw [readComponents, Nat.add_zero, if_pos le]
  | @cons cs rest n m first more ih =>
    rw [readComponents_append first more.stops, ← Nat.add_assoc]
    by_cases small : total + n ≤ limit
    · rw [if_pos small, ih small]
    · rw [if_neg small, if_neg (by omega)]

/-- Components that are read are spelled. -/
theorem readComponents_ok (h : readComponents total cs = .ok m) :
    ∃ n, Components cs n ∧ m = total + n := by
  fun_induction readComponents total cs with
  | case1 total =>
    cases h
    exact ⟨0, .nil, rfl⟩
  | case2 | case3 | case5 => cases h
  | case4 total c cs q rest read length rest' named fits ih =>
    obtain ⟨n, more, rfl⟩ := ih h
    obtain ⟨number, whole, fraction, spelled, numeral, rfl⟩ := readNumber_ok read
    obtain ⟨name, known, rfl⟩ := readUnit_ok named
    refine ⟨amount whole fraction length + n, ?_, by rw [← Nat.add_assoc]; rfl⟩
    rw [spelled, ← List.append_assoc]
    exact .cons ⟨numeral, known⟩ more

/-! ## Texts -/

/-- What follows the sign is read if it is spelled, unless it passes the limit. -/
theorem readUnsigned_spelled (h : Unsigned cs n) :
    readUnsigned cs = if n ≤ limit then .ok n else .error .overflow := by
  rcases h.zero_or_components with ⟨rfl, rfl⟩ | ⟨⟨c, c', tail, rfl⟩, components⟩
  · rfl
  · have read := readComponents_components components (Nat.zero_le limit)
    rw [Nat.zero_add] at read
    rw [← read]
    unfold readUnsigned
    split
    · rename_i nil
      cases nil
    · rename_i zero
      cases zero
    · rfl

/-- What is read after the sign is spelled. -/
theorem readUnsigned_ok (h : readUnsigned cs = .ok n) : Unsigned cs n := by
  unfold readUnsigned at h
  split at h
  · cases h
  · cases h
    exact .zero
  · rename_i some_ _
    obtain ⟨m, components, rfl⟩ := readComponents_ok h
    rw [Nat.zero_add]
    cases components with
    | nil => exact absurd rfl some_
    | cons first more => exact .components first more

theorem readChars_number {c : Char} (number : isUnitChar c = false) (cs : List Char) :
    readChars (c :: cs) = readUnsigned (c :: cs) := by
  unfold readChars
  split
  · rename_i nil
    cases nil
  · rename_i minus
    cases minus
    cases number
  · rename_i plus
    cases plus
    cases number
  · rfl

/-- A duration that is spelled is read, unless it passes the limit. -/
theorem readChars_spelled (h : Spells cs n) :
    readChars cs = if n ≤ limit then .ok n else .error .overflow := by
  cases h with
  | plain h =>
    obtain ⟨c, tail, rfl, number⟩ := h.begins
    rw [readChars_number number]
    exact readUnsigned_spelled h
  | plus h => exact readUnsigned_spelled h

/-- A duration that is read is spelled. -/
theorem readChars_ok (h : readChars cs = .ok n) : Spells cs n := by
  unfold readChars at h
  split at h
  · cases h
  · cases h
  · exact .plus (readUnsigned_ok h)
  · exact .plain (readUnsigned_ok h)

/-- A duration that is spelled is read as what it spells, unless it passes the limit. -/
theorem parse_spelled {text : String} (h : Spells text.toList n) :
    parse text = if n ≤ limit then .ok ⟨n⟩ else .error ⟨.overflow, text⟩ := by
  rw [parse, readChars_spelled h]
  by_cases small : n ≤ limit
  · rw [if_pos small, if_pos small]
  · rw [if_neg small, if_neg small]

theorem parse_ok {text : String} {d : Duration} (h : parse text = .ok d) :
    Spells text.toList d.nanoseconds := by
  unfold parse at h
  split at h
  · rename_i n read
    cases h
    exact readChars_ok read
  · cases h

/-- No duration that is read is longer than the limit. -/
theorem parse_le {text : String} {d : Duration} (h : parse text = .ok d) :
    d.nanoseconds ≤ limit := by
  refine Nat.le_of_not_lt fun beyond => ?_
  rw [parse_spelled (parse_ok h), if_neg (Nat.not_le.2 beyond)] at h
  cases h

/-- A text is read as a duration just if it spells one that does not pass the limit, and then as
that one. A text that spells a longer one is out of range, one that begins with a minus is negative,
the empty one is empty, and every other text that spells no duration is refused. No text spells two
durations. -/
theorem parse_follows_grammar (text : String) :
    (∀ d, parse text = .ok d ↔ Spells text.toList d.nanoseconds ∧ d.nanoseconds ≤ 2 ^ 63 - 1) ∧
    (∀ n, Spells text.toList n → 2 ^ 63 - 1 < n → parse text = .error ⟨.overflow, text⟩) ∧
    (∀ n m, Spells text.toList n → Spells text.toList m → n = m) ∧
    (text.toList.head? = some '-' → parse text = .error ⟨.negative, text⟩) ∧
    (text = "" → parse text = .error ⟨.empty, text⟩) ∧
    ((∀ n, ¬ Spells text.toList n) → ∃ problem, parse text = .error ⟨problem, text⟩) := by
  have limit_eq : 2 ^ 63 - 1 = limit := by decide
  rw [limit_eq]
  refine ⟨fun d => ⟨fun read => ⟨parse_ok read, parse_le read⟩, fun ⟨spelled, small⟩ => ?_⟩,
    fun n spelled beyond => ?_, fun n m h h' => h.unique h', fun minus => ?_, ?_, fun none_ => ?_⟩
  · rw [parse_spelled spelled, if_pos small]
  · rw [parse_spelled spelled, if_neg (Nat.not_le.2 beyond)]
  · obtain ⟨tail, spelled⟩ := List.head?_eq_some_iff.1 minus
    rw [parse, spelled]
    rfl
  · rintro rfl
    rfl
  · cases read : parse text with
    | ok d => exact absurd (parse_ok read) (none_ d.nanoseconds)
    | error e =>
      unfold parse at read
      split at read
      · cases read
      · cases read
        exact ⟨_, rfl⟩

/-- A point needs no digit after it if there is one before it. So many hours are read, but one hour
more is out of range. -/
theorem pointed_hours_follow_grammar :
    parse "+2562047.h" = .ok ⟨9223369200000000000⟩ ∧
    parse "2562048h" = .error ⟨.overflow, "2562048h"⟩ := by
  have hours : ("h", 3600000000000) ∈ units := by decide
  have point : Numeral ("2562047".toList ++ ['.']) "2562047".toList [] :=
    .decimal (by decide) (List.all_eq_true.1 (by decide)) nofun
  have whole : Numeral "2562048".toList "2562048".toList [] :=
    .whole (by decide) (List.all_eq_true.1 (by decide))
  have pointed : Component "2562047.h".toList 9223369200000000000 := .intro point hours
  have beyond : Component "2562048h".toList 9223372800000000000 := .intro whole hours
  exact ⟨((parse_follows_grammar "+2562047.h").1 _).2 ⟨.plus pointed.unsigned, by decide⟩,
    (parse_follows_grammar "2562048h").2.1 _ (.plain beyond.unsigned) (by decide)⟩

end Signoff.Duration
