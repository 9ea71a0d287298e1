import Signoff.Duration.Scanner
import Signoff.Proofs.Duration.Reading

/-!
# Scanning durations is safe

A machine that reads a duration in place gives what is read from the characters of the text. As
reading from characters neither cuts nor counts in bits, the machine does nothing that it must not
do.

* `place`: the byte position of the rest of a text. The machine stands at the positions of rests, so
  what it cuts out are the characters between two of them (`cut_eq`).
* `Places.Scaled`: what was read after the point is less than one, and in parts that are counted in
  60 bits, however many digits there are.
* `scanNumber_eq`, `scanUnit_eq`, `scanComponent_eq`, `scanComponents_eq`: each part of a text is
  scanned as it is read.
* `scanComponent_advances`: a round of the loop over components leaves less of the text.
* `scan_eq`, `scanning_is_safe`: whole texts.
-/

namespace Signoff.Duration.Scanner

variable {text : String} {cs before middle rest : List Char} {n m rounds total : Nat}

theorem ok_bind {α β : Type} (a : α) (f : α → Except Stop β) : (Except.ok a >>= f) = f a := rfl

/-- A loop with rounds enough has one. -/
theorem exists_round (enough : n < rounds) : ∃ more, rounds = more + 1 :=
  Nat.exists_eq_add_one_of_ne_zero (Nat.ne_zero_of_lt enough)

/-! ## Positions -/

/-- The number of bytes of some characters. -/
def bytes (cs : List Char) : Nat := (String.ofList cs).utf8ByteSize

@[simp] theorem bytes_nil : bytes [] = 0 := rfl

@[simp] theorem bytes_cons (c : Char) (cs : List Char) :
    bytes (c :: cs) = c.utf8Size + bytes cs := by
  rw [bytes, String.ofList_cons, String.utf8ByteSize_append, String.utf8ByteSize_singleton, bytes]

@[simp] theorem bytes_append (cs rest : List Char) :
    bytes (cs ++ rest) = bytes cs + bytes rest := by
  rw [bytes, String.ofList_append, String.utf8ByteSize_append, bytes, bytes]

theorem bytes_toList (text : String) : bytes text.toList = text.utf8ByteSize := by
  rw [bytes, String.ofList_toList]

theorem bytes_eq_zero : bytes cs = 0 ↔ cs = [] := by
  cases cs with
  | nil => simp
  | cons c cs =>
    have := c.utf8Size_pos
    rw [bytes_cons]
    simp only [reduceCtorEq, iff_false]
    omega

/-- The position at which the rest of a text begins. -/
def place (text : String) (rest : List Char) : Nat := text.utf8ByteSize - bytes rest

theorem place_eq (split : text.toList = before ++ rest) : place text rest = bytes before := by
  rw [place, ← bytes_toList, split, bytes_append]
  omega

theorem place_toList (text : String) : place text text.toList = 0 := by
  rw [place, bytes_toList, Nat.sub_self]

theorem place_nil (text : String) : place text [] = text.utf8ByteSize := by
  rw [place, bytes_nil, Nat.sub_zero]

theorem place_add (suffix : middle ++ rest <:+ text.toList) :
    place text (middle ++ rest) + bytes middle = place text rest := by
  obtain ⟨before, split⟩ := suffix
  have split' : text.toList = (before ++ middle) ++ rest := by rw [← split, List.append_assoc]
  rw [place_eq split.symm, place_eq split', bytes_append]

theorem place_cons {c : Char} (suffix : c :: cs <:+ text.toList) :
    place text (c :: cs) + c.utf8Size = place text cs := by
  have add : place text ([c] ++ cs) + bytes [c] = place text cs := place_add suffix
  rwa [bytes_cons, bytes_nil] at add

theorem size_le_place (suffix : cs <:+ text.toList) :
    text.utf8ByteSize ≤ place text cs ↔ cs = [] := by
  have add : place text (cs ++ []) + bytes cs = place text [] :=
    place_add (by rwa [List.append_nil])
  rw [List.append_nil, place_nil] at add
  rw [← bytes_eq_zero]
  omega

theorem valid_place (split : text.toList = before ++ rest) :
    (⟨bytes before⟩ : String.Pos.Raw).IsValid text :=
  String.Pos.Raw.isValid_iff_exists_append.2 ⟨String.ofList before, String.ofList rest,
    by rw [← String.ofList_append, ← split, String.ofList_toList], rfl⟩

theorem cut_eq (suffix : middle ++ rest <:+ text.toList) :
    cut text (place text (middle ++ rest)) (place text rest) = .ok (String.ofList middle) := by
  obtain ⟨before, split⟩ := suffix
  have split' : text.toList = (before ++ middle) ++ rest := by rw [← split, List.append_assoc]
  have first : (⟨bytes before⟩ : String.Pos.Raw).IsValid text := valid_place split.symm
  have last : (⟨bytes (before ++ middle)⟩ : String.Pos.Raw).IsValid text := valid_place split'
  rw [place_eq split.symm, place_eq split']
  have ordered : bytes before ≤ bytes (before ++ middle) := by rw [bytes_append]; omega
  rw [cut, dif_pos ⟨first, last, ordered⟩]
  congr 1
  have whole : text = String.ofList before ++ (String.ofList middle ++ String.ofList rest) := by
    rw [← String.ofList_append, ← String.ofList_append, split, String.ofList_toList]
  obtain ⟨_, same⟩ := String.copy_slice_eq_iff_splits.2
    ⟨String.ofList before, String.ofList rest,
      (⟨whole, rfl⟩ : (text.pos ⟨bytes before⟩ first).Splits _ _),
      (⟨by rw [whole, String.append_assoc], by rw [← String.ofList_append]; rfl⟩ :
        (text.pos ⟨bytes (before ++ middle)⟩ last).Splits _ _)⟩
  exact same

theorem cutFrom_place (suffix : cs <:+ text.toList) :
    cutFrom text (place text cs) = .ok (String.ofList cs) := by
  have whole : cut text (place text (cs ++ [])) (place text []) = .ok (String.ofList cs) :=
    cut_eq (by rwa [List.append_nil])
  rwa [List.append_nil, place_nil] at whole

theorem charAt_place (suffix : cs <:+ text.toList) :
    charAt text (place text cs) = .ok cs.head? := by
  rw [charAt, cutFrom_place suffix, ok_bind, String.toList_ofList]
  rfl

theorem digitAt_digit {c : Char} (suffix : c :: cs <:+ text.toList) (digit : c.isDigit = true) :
    digitAt text (place text (c :: cs)) = .ok (some (digitValue c)) := by
  rw [digitAt, charAt_place suffix, ok_bind]
  simp [digit, pure, Except.pure]

theorem digitAt_stops (suffix : cs <:+ text.toList) (stops : Stops Char.isDigit cs) :
    digitAt text (place text cs) = .ok none := by
  rw [digitAt, charAt_place suffix, ok_bind]
  cases cs with
  | nil => rfl
  | cons c cs => simp [stops c rfl, pure, Except.pure]

/-- A digit has one byte. -/
theorem place_digit {c : Char} (suffix : c :: cs <:+ text.toList) (digit : c.isDigit = true) :
    place text (c :: cs) + 1 = place text cs := by
  have last := (Char.isDigit_iff_toNat.1 digit).2
  have one : c.utf8Size = 1 :=
    Char.utf8Size_eq_one_iff.2 (UInt32.le_iff_toNat_le.2 (Nat.le_trans last (by decide)))
  rw [← place_cons suffix, one]

theorem digitValue_le {c : Char} (digit : c.isDigit = true) : digitValue c ≤ 9 := by
  obtain ⟨first, last⟩ := Char.isDigit_iff_toNat.1 digit
  have span : '9'.toNat = '0'.toNat + 9 := rfl
  rw [digitValue]
  omega

/-! ## Numbers -/

theorem fitting_of_lt {bits : Nat} (lt : n < 2 ^ bits) : fitting bits n = .ok n := if_pos lt

theorem checked_of_lt (lt : n < 2 ^ 128) : checked n = .ok n := if_pos lt

/-- The whole part is scanned as it is read. -/
theorem scanWhole_eq (suffix : cs <:+ text.toList) (enough : cs.length < rounds) (le : n ≤ limit) :
    scanWhole text rounds n (place text cs) =
      match readWhole n cs with
      | none => .error (.refused .overflow)
      | some (m, rest) => .ok (m, place text rest) := by
  induction cs generalizing rounds n with
  | nil =>
    obtain ⟨rounds, rfl⟩ := exists_round enough
    rw [scanWhole, digitAt_stops suffix stops_nil, ok_bind]
    rfl
  | cons c cs ih =>
    obtain ⟨rounds, rfl⟩ := exists_round enough
    rw [scanWhole, readWhole]
    by_cases digit : c.isDigit = true
    · rw [digitAt_digit suffix digit, ok_bind, if_pos digit]
      have := digitValue_le digit
      have limit_eq : limit = 9223372036854775807 := rfl
      dsimp only
      rw [checked_of_lt (by omega), ok_bind, checked_of_lt (by omega), ok_bind, Nat.mul_comm n,
        limited]
      by_cases small : 10 * n + digitValue c ≤ limit
      · rw [if_pos small, if_pos small, ok_bind, place_digit suffix digit]
        exact ih ((List.suffix_cons c cs).trans suffix) (Nat.lt_of_succ_lt_succ enough) small
      · rw [if_neg small, if_neg small]
        rfl
    · rw [digitAt_stops suffix (stops_cons (by simpa using digit)), ok_bind, if_neg digit]
      rfl

/-- What was read after the point is the parts of a power of ten. -/
structure Places.Scaled (p : Places) : Prop where
  lt : p.value < p.scale
  scale : p.scale = 10 ^ p.count
  le : p.count ≤ fractionDigits

/-- What was read after the point with more digits. -/
def Places.after (p : Places) (digits : List Char) : Places :=
  let kept := digits.take (fractionDigits - p.count)
  ⟨digitsValue p.value kept, 10 ^ (p.count + kept.length), p.count + kept.length,
    p.any || !digits.isEmpty⟩

namespace Places

variable {p : Places} {c : Char}

theorem scaled_none : Places.none.Scaled := ⟨by decide, rfl, by decide⟩

theorem Scaled.after_nil (h : p.Scaled) : p.after [] = p := by
  have scale := h.scale
  cases p
  simp_all [after, digitsValue]

theorem after_digit (room : p.count < fractionDigits) (c : Char) :
    p.after [c] = ⟨10 * p.value + digitValue c, 10 ^ (p.count + 1), p.count + 1, true⟩ := by
  have kept : [c].take (fractionDigits - p.count) = [c] :=
    List.take_of_length_le (Nat.sub_pos_of_lt room)
  simp [after, kept, digitsValue]

theorem after_beyond (full : ¬ p.count < fractionDigits) (ds : List Char) :
    p.after ds = ⟨p.value, 10 ^ p.count, p.count, p.any || !ds.isEmpty⟩ := by
  have none_ : fractionDigits - p.count = 0 := Nat.sub_eq_zero_of_le (Nat.not_lt.1 full)
  simp [after, none_, digitsValue]

theorem after_cons (p : Places) (c : Char) (ds : List Char) :
    (p.after [c]).after ds = p.after (c :: ds) := by
  by_cases room : p.count < fractionDigits
  · have kept : (c :: ds).take (fractionDigits - p.count) =
        c :: ds.take (fractionDigits - (p.count + 1)) := by
      rw [List.take_cons (Nat.sub_pos_of_lt room), Nat.sub_sub]
    rw [after_digit room]
    simp only [after, kept, digitsValue, List.foldl_cons, List.length_cons, List.isEmpty_cons,
      Bool.not_false, Bool.or_true, Bool.true_or, Nat.add_assoc, Nat.add_comm 1]
  · rw [after_beyond room, after_beyond room]
    have rest := after_beyond (p := ⟨p.value, 10 ^ p.count, p.count, true⟩) room ds
    simpa using rest

/-- No bit is lost when a digit is taken. -/
theorem Scaled.take (h : p.Scaled) (digit : c.isDigit = true) :
    p.take (digitValue c) = .ok (p.after [c]) := by
  have := digitValue_le digit
  rw [Places.take]
  by_cases room : p.count < fractionDigits
  · have power : 10 ^ p.count ≤ 10 ^ 17 :=
      Nat.pow_le_pow_right (by decide) (Nat.le_of_lt_succ room)
    have lt := h.lt
    rw [after_digit room, Nat.pow_succ, Nat.mul_comm 10, ← h.scale]
    rw [h.scale] at lt ⊢
    rw [if_pos room, fitting_of_lt (by omega), ok_bind, fitting_of_lt (by omega), ok_bind,
      fitting_of_lt (by omega), ok_bind]
    rfl
  · rw [if_neg room, after_beyond room, ← h.scale, List.isEmpty_cons, Bool.not_false, Bool.or_true]
    rfl

theorem Scaled.after (h : p.Scaled) (digit : c.isDigit = true) : (p.after [c]).Scaled := by
  have := digitValue_le digit
  have lt := h.lt
  rw [h.scale] at lt
  by_cases room : p.count < fractionDigits
  · rw [after_digit room]
    refine ⟨?_, rfl, room⟩
    show 10 * p.value + digitValue c < 10 ^ (p.count + 1)
    rw [Nat.pow_succ]
    omega
  · rw [after_beyond room]
    exact ⟨lt, rfl, h.le⟩

end Places

/-- The digits after the point are scanned to the last one. -/
theorem scanPlaces_eq {p : Places} (suffix : cs <:+ text.toList) (enough : cs.length < rounds)
    (scaled : p.Scaled) :
    scanPlaces text rounds p (place text cs) =
      .ok (p.after (cs.takeWhile Char.isDigit), place text (cs.dropWhile Char.isDigit)) := by
  induction cs generalizing rounds p with
  | nil =>
    obtain ⟨rounds, rfl⟩ := exists_round enough
    rw [scanPlaces, digitAt_stops suffix stops_nil, ok_bind, List.takeWhile_nil, scaled.after_nil]
    rfl
  | cons c cs ih =>
    obtain ⟨rounds, rfl⟩ := exists_round enough
    rw [scanPlaces]
    by_cases digit : c.isDigit = true
    · rw [digitAt_digit suffix digit, ok_bind, List.takeWhile_cons_of_pos digit,
        List.dropWhile_cons_of_pos digit]
      dsimp only
      rw [scaled.take digit, ok_bind, place_digit suffix digit,
        ih ((List.suffix_cons c cs).trans suffix) (Nat.lt_of_succ_lt_succ enough)
          (scaled.after digit), Places.after_cons]
    · rw [digitAt_stops suffix (stops_cons (by simpa using digit)), ok_bind,
        List.takeWhile_cons_of_neg digit, List.dropWhile_cons_of_neg digit, scaled.after_nil]
      rfl

/-- A position moves on just if something stands between. -/
theorem place_lt (suffix : middle ++ rest <:+ text.toList) :
    decide (place text (middle ++ rest) < place text rest) = !middle.isEmpty := by
  rw [← place_add suffix]
  cases middle with
  | nil => simp
  | cons c middle =>
    have := c.utf8Size_pos
    simp only [bytes_cons, List.isEmpty_cons, Bool.not_false, decide_eq_true_eq]
    omega

theorem scanFraction_eq (suffix : cs <:+ text.toList) (enough : cs.length < rounds) :
    scanFraction text rounds (place text cs) =
      .ok (Places.none.after (readFraction cs).1, place text (readFraction cs).2) := by
  rw [scanFraction, charAt_place suffix, ok_bind]
  unfold readFraction
  split
  · rename_i point
    obtain ⟨tail, rfl⟩ := List.head?_eq_some_iff.1 (beq_iff_eq.1 point)
    have next : place text ('.' :: tail) + 1 = place text tail := place_cons suffix
    rw [next, scanPlaces_eq ((List.suffix_cons _ tail).trans suffix)
      (Nat.lt_of_succ_lt enough) Places.scaled_none]
    rfl
  · rename_i point
    rw [← Places.scaled_none.after_nil]
    split
    · exact absurd rfl point
    · rfl

/-- A number is scanned as it is read. -/
theorem scanNumber_eq (suffix : cs <:+ text.toList) (enough : cs.length < rounds) :
    scanNumber text rounds (place text cs) =
      match readNumber cs with
      | .error problem => .error (.refused problem)
      | .ok (q, rest) => .ok (⟨q.whole, q.fraction, 10 ^ q.places⟩, place text rest) := by
  rw [scanNumber, scanWhole_eq suffix enough (Nat.zero_le _), readNumber]
  cases read : readWhole 0 cs with
  | none => rfl
  | some x =>
    obtain ⟨whole, point⟩ := x
    obtain ⟨ds, rfl, digits, stops, -⟩ := readWhole_ok read
    have fewer : point.length < rounds :=
      Nat.lt_of_le_of_lt (List.suffix_append ds point).length_le enough
    dsimp only
    rw [ok_bind]
    dsimp only
    rw [scanFraction_eq ((List.suffix_append ds point).trans suffix) fewer, ok_bind]
    dsimp only
    rw [place_lt suffix, startsWithDigit_append digits stops]
    have any (fraction : List Char) : (!(Places.none.after fraction).any) = fraction.isEmpty := by
      simp [Places.after, Places.none]
    rw [any]
    cases !(!ds.isEmpty) && (readFraction point).1.isEmpty with
    | true => rfl
    | false =>
      simp [Places.after, Places.none, pure, Except.pure]

/-! ## Units -/

theorem scanName_eq (suffix : cs <:+ text.toList) (enough : cs.length < rounds) :
    scanName text rounds (place text cs) = .ok (place text (cs.dropWhile isUnitChar)) := by
  induction cs generalizing rounds with
  | nil =>
    obtain ⟨rounds, rfl⟩ := exists_round enough
    rw [scanName, charAt_place suffix, ok_bind]
    rfl
  | cons c cs ih =>
    obtain ⟨rounds, rfl⟩ := exists_round enough
    rw [scanName, charAt_place suffix, ok_bind]
    dsimp only [List.head?_cons]
    by_cases unit : isUnitChar c = true
    · rw [if_pos unit, place_cons suffix, List.dropWhile_cons_of_pos unit,
        ih ((List.suffix_cons c cs).trans suffix) (Nat.lt_of_succ_lt_succ enough)]
    · rw [if_neg unit, List.dropWhile_cons_of_neg unit]
      rfl

/-- A unit is scanned as it is read. -/
theorem scanUnit_eq (suffix : cs <:+ text.toList) (enough : cs.length < rounds) :
    scanUnit text rounds (place text cs) =
      match readUnit cs with
      | .error problem => .error (.refused problem)
      | .ok (unit, rest) => .ok (unit, place text rest) := by
  have name : cut text (place text cs) (place text (cs.dropWhile isUnitChar)) =
      .ok (String.ofList (cs.takeWhile isUnitChar)) := by
    have parts : cs.takeWhile isUnitChar ++ cs.dropWhile isUnitChar <:+ text.toList := by
      rwa [List.takeWhile_append_dropWhile]
    have between := cut_eq parts
    rwa [List.takeWhile_append_dropWhile] at between
  rw [scanUnit, scanName_eq suffix enough, ok_bind, name, ok_bind, readUnit]
  cases cs.takeWhile isUnitChar with
  | nil => rfl
  | cons c tail =>
    have some_ : String.ofList (c :: tail) ≠ "" := by simp
    rw [if_neg some_]
    dsimp only
    cases unit? (String.ofList (c :: tail)) <;> rfl

/-! ## Components -/

theorem readWhole_le (le : n ≤ limit) (h : readWhole n cs = some (m, rest)) : m ≤ limit := by
  induction cs generalizing n with
  | nil =>
    cases h
    exact le
  | cons c cs ih =>
    rw [readWhole] at h
    split at h
    · split at h
      · exact ih ‹_› h
      · cases h
    · cases h
      exact le

theorem digitsValue_lt {ds : List Char} (digits : Digits ds) (n : Nat) :
    digitsValue n ds < (n + 1) * 10 ^ ds.length := by
  induction ds generalizing n with
  | nil => simp [digitsValue]
  | cons c ds ih =>
    obtain ⟨digit, digits⟩ := List.forall_mem_cons.1 digits
    have := digitValue_le digit
    calc digitsValue n (c :: ds)
      _ = digitsValue (10 * n + digitValue c) ds := rfl
      _ < (10 * n + digitValue c + 1) * 10 ^ ds.length := ih digits _
      _ ≤ (n + 1) * 10 * 10 ^ ds.length := Nat.mul_le_mul_right _ (by omega)
      _ = (n + 1) * 10 ^ (c :: ds).length := by
        rw [Nat.mul_assoc, ← Nat.pow_succ', List.length_cons]

/-- The sizes of what a number is made of. -/
theorem readNumber_small {q : Quantity} (h : readNumber cs = .ok (q, rest)) :
    q.whole ≤ limit ∧ q.fraction < 10 ^ q.places ∧ q.places ≤ fractionDigits := by
  unfold readNumber at h
  split at h
  · cases h
  · rename_i whole point read
    rcases parted : readFraction point with ⟨fraction, rest'⟩
    rw [parted] at h
    dsimp only at h
    split at h
    · cases h
    · cases h
      have digits : Digits (fraction.take fractionDigits) := by
        obtain ⟨after, -, places⟩ := readFraction_ok parted
        intro c hc
        cases places with
        | none => cases List.mem_of_mem_take hc
        | some places => exact places c (List.mem_of_mem_take hc)
      have lt := digitsValue_lt digits 0
      rw [Nat.zero_add, Nat.one_mul] at lt
      exact ⟨readWhole_le (Nat.zero_le _) read, lt, List.length_take_le ..⟩

theorem le_hour_of_mem {name : String} {length : Nat} (named : (name, length) ∈ units) :
    length ≤ hour := by
  have all : ∀ x ∈ units, x.2 ≤ hour := by decide
  exact all _ named

/-- A component is scanned as it is read, and no operation needs more than 128 bits. -/
theorem scanComponent_eq (suffix : cs <:+ text.toList) (enough : cs.length < rounds)
    (le : total ≤ limit) :
    scanComponent text rounds total (place text cs) =
      match readNumber cs with
      | .error problem => .error (.refused problem)
      | .ok (q, rest) =>
        match readUnit rest with
        | .error problem => .error (.refused problem)
        | .ok (unit, rest') =>
          if total + q.times unit ≤ limit then .ok (total + q.times unit, place text rest')
          else .error (.refused .overflow) := by
  rw [scanComponent, scanNumber_eq suffix enough]
  cases read : readNumber cs with
  | error problem => rfl
  | ok x =>
    obtain ⟨q, rest⟩ := x
    obtain ⟨number, -, -, rfl, -⟩ := readNumber_ok read
    have fewer : rest.length < rounds :=
      Nat.lt_of_le_of_lt (List.suffix_append number rest).length_le enough
    dsimp only
    rw [ok_bind]
    dsimp only
    rw [scanUnit_eq ((List.suffix_append number rest).trans suffix) fewer]
    cases named : readUnit rest with
    | error problem => rfl
    | ok x =>
      obtain ⟨unit, rest'⟩ := x
      obtain ⟨name, known, -⟩ := readUnit_ok named
      obtain ⟨whole, fraction, places⟩ := readNumber_small read
      have small := le_hour_of_mem known
      have limit_eq : limit = 9223372036854775807 := rfl
      have scale : 10 ^ q.places ≤ 10 ^ 18 := Nat.pow_le_pow_right (by decide) places
      have power : 0 < 10 ^ q.places := Nat.pow_pos (by decide)
      have product : q.whole * unit ≤ 9223372036854775807 * 3600000000000 :=
        Nat.mul_le_mul whole small
      have parts : q.fraction * unit ≤ 10 ^ 18 * 3600000000000 :=
        Nat.mul_le_mul (Nat.le_trans (Nat.le_of_lt fraction) scale) small
      have quotient : q.fraction * unit / 10 ^ q.places ≤ q.fraction * unit := Nat.div_le_self ..
      have amount : q.times unit = q.whole * unit + q.fraction * unit / 10 ^ q.places := rfl
      dsimp only
      rw [ok_bind]
      dsimp only
      rw [checked_of_lt (by omega), ok_bind, fitting_of_lt (by omega), ok_bind, divided,
        if_neg (Nat.ne_of_gt power), ok_bind, ← amount, checked_of_lt (by omega), ok_bind,
        checked_of_lt (by omega), ok_bind, limited]
      split <;> rfl

/-- One round of the loop over components. -/
theorem scanComponents_cons {inner : Nat} {c : Char} (suffix : c :: cs <:+ text.toList) :
    scanComponents text inner (rounds + 1) total (place text (c :: cs)) =
      scanComponent text inner total (place text (c :: cs)) >>= fun x =>
        scanComponents text inner rounds x.1 x.2 := by
  rw [scanComponents, if_neg (mt (size_le_place suffix).1 (List.cons_ne_nil c cs))]

/-- Components are scanned as they are read, to the end of the text. -/
theorem scanComponents_eq {inner : Nat} (suffix : cs <:+ text.toList) (enough : cs.length < rounds)
    (enough' : cs.length < inner) (le : total ≤ limit) :
    scanComponents text inner rounds total (place text cs) =
      (readComponents total cs).mapError .refused := by
  fun_induction readComponents total cs generalizing rounds with
  | case1 total =>
    obtain ⟨rounds, rfl⟩ := exists_round enough
    rw [scanComponents, if_pos ((size_le_place suffix).2 rfl)]
    rfl
  | case2 total c cs problem read =>
    obtain ⟨rounds, rfl⟩ := exists_round enough
    rw [scanComponents_cons suffix, scanComponent_eq suffix enough' le, read]
    rfl
  | case3 total c cs q rest read problem named =>
    obtain ⟨rounds, rfl⟩ := exists_round enough
    simp only [scanComponents_cons suffix, scanComponent_eq suffix enough' le, read, named]
    rfl
  | case4 total c cs q rest read unit rest' named fits ih =>
    obtain ⟨rounds, rfl⟩ := exists_round enough
    obtain ⟨number, -, -, spelled, -⟩ := readNumber_ok read
    obtain ⟨name, -, rest_eq⟩ := readUnit_ok named
    have after : rest' <:+ c :: cs := by
      rw [spelled, rest_eq]
      exact (List.suffix_append ..).trans (List.suffix_append ..)
    -- a component has characters, so the rounds suffice for what is left
    have fewer := Nat.lt_of_lt_of_le (readUnit_length named) (readNumber_length read)
    simp only [scanComponents_cons suffix, scanComponent_eq suffix enough' le, read, named,
      if_pos fits, ok_bind]
    exact ih (after.trans suffix) (by omega) (by omega) fits
  | case5 total c cs q rest read unit rest' named beyond =>
    obtain ⟨rounds, rfl⟩ := exists_round enough
    simp only [scanComponents_cons suffix, scanComponent_eq suffix enough' le, read, named,
      if_neg beyond]
    rfl

/-! ## Texts -/

theorem scanUnsigned_eq (suffix : cs <:+ text.toList) (enough : cs.length < rounds) :
    scanUnsigned text rounds (place text cs) = (readUnsigned cs).mapError .refused := by
  rw [scanUnsigned, cutFrom_place suffix, ok_bind]
  by_cases zero : cs = ['0']
  · subst zero
    rfl
  · have other : String.ofList cs ≠ "0" := fun eq => zero (by
      rw [← String.toList_ofList (l := cs), eq]
      rfl)
    rw [if_neg other]
    cases cs with
    | nil =>
      rw [if_pos ((size_le_place suffix).2 rfl)]
      rfl
    | cons c cs =>
      have components : readUnsigned (c :: cs) = readComponents 0 (c :: cs) := by
        unfold readUnsigned
        split
        · cases ‹c :: cs = []›
        · exact absurd ‹c :: cs = ['0']› zero
        · rfl
      rw [if_neg (mt (size_le_place suffix).1 (List.cons_ne_nil c cs)), components,
        scanComponents_eq suffix enough enough (Nat.zero_le _)]

theorem scanTotal_eq (enough : text.toList.length < rounds) :
    scanTotal text rounds = (readChars text.toList).mapError .refused := by
  cases chars : text.toList with
  | nil =>
    obtain rfl := String.toList_eq_nil_iff.1 chars
    rfl
  | cons c tail =>
    have suffix : c :: tail <:+ text.toList := chars ▸ List.suffix_refl _
    have start : place text (c :: tail) = 0 := by rw [← chars, place_toList]
    have first : charAt text 0 = .ok (some c) := by rw [← start, charAt_place suffix]; rfl
    have some_ : ¬ text.isEmpty = true := fun none_ => by
      rw [String.isEmpty_iff.1 none_] at chars
      cases chars
    rw [chars] at enough
    rw [scanTotal, if_neg some_, first, ok_bind]
    by_cases minus : c = '-'
    · subst minus
      rfl
    · by_cases plus : c = '+'
      · subst plus
        have after : place text tail = 1 := by
          rw [← place_cons suffix, start]
          rfl
        have rest := scanUnsigned_eq ((List.suffix_cons _ tail).trans suffix)
          (Nat.lt_of_succ_lt enough)
        rwa [after] at rest
      · have unsigned : readChars (c :: tail) = readUnsigned (c :: tail) := by
          unfold readChars
          split
          · cases ‹c :: tail = []›
          · exact absurd (List.cons.inj ‹_›).1 minus
          · exact absurd (List.cons.inj ‹_›).1 plus
          · rfl
        rw [unsigned, ← scanUnsigned_eq suffix enough, start]
        split
        · exact absurd (Option.some.inj ‹_›) minus
        · exact absurd (Option.some.inj ‹_›) plus
        · rfl

/-- A text is scanned as it is read, in as many rounds as it has characters and one more. -/
theorem scan_eq (enough : text.length < rounds) :
    scan text rounds =
      match parse text with
      | .ok d => .ok (d.seconds, d.subsecond)
      | .error e => .error (.refused e.problem) := by
  rw [scan, scanTotal_eq (by rwa [String.length_toList])]
  cases read : readChars text.toList with
  | error problem =>
    rw [parse, read]
    rfl
  | ok n =>
    have parsed : parse text = .ok ⟨n⟩ := by rw [parse, read]
    have le : n ≤ limit := parse_le parsed
    have limit_lt : limit < 2 ^ 64 := by decide
    have seconds : n / second < 2 ^ 64 := by
      have := Nat.div_le_self n second
      omega
    have nanoseconds : n % second < 2 ^ 32 :=
      Nat.lt_trans (Nat.mod_lt n (by decide)) (by decide : second < 2 ^ 32)
    rw [parsed]
    show (fitting 64 (n / second) >>= _) = _
    rw [fitting_of_lt seconds, ok_bind, fitting_of_lt nanoseconds, ok_bind]
    rfl

/-- One round of the loop over components, between two characters of the text, refuses the text or
takes characters of a number and of a unit, and ends between two characters again. -/
theorem scanComponent_advances (split : text.toList = before ++ rest)
    (enough : text.length < rounds) (le : total ≤ limit) :
    (∃ problem, scanComponent text rounds total (bytes before) = .error (.refused problem)) ∨
    ∃ number unit after total', rest = number ++ unit ++ after ∧ number ≠ [] ∧ unit ≠ [] ∧
      (∀ c ∈ number, isUnitChar c = false) ∧ (∀ c ∈ unit, isUnitChar c = true) ∧
      total' ≤ limit ∧ scanComponent text rounds total (bytes before) =
        .ok (total', bytes (before ++ number ++ unit)) := by
  have suffix : rest <:+ text.toList := ⟨before, split.symm⟩
  have fewer : rest.length < rounds := by
    refine Nat.lt_of_le_of_lt suffix.length_le ?_
    rwa [String.length_toList]
  rw [← place_eq split, scanComponent_eq suffix fewer le]
  cases read : readNumber rest with
  | error problem => exact .inl ⟨problem, rfl⟩
  | ok x =>
    obtain ⟨q, point⟩ := x
    dsimp only
    cases named : readUnit point with
    | error problem => exact .inl ⟨problem, rfl⟩
    | ok x =>
      obtain ⟨unit, after⟩ := x
      dsimp only
      by_cases fits : total + q.times unit ≤ limit
      · obtain ⟨number, _, _, rfl, numeral, -⟩ := readNumber_ok read
        obtain ⟨name, known, rfl⟩ := readUnit_ok named
        refine .inr ⟨number, name.toList, after, total + q.times unit,
          (List.append_assoc ..).symm, numeral.ne_nil, toList_ne_nil_of_mem known,
          numeral.noUnitChars, unitChars_of_mem known, fits, ?_⟩
        have ends : place text after = bytes (before ++ number ++ name.toList) :=
          place_eq (by rw [split, List.append_assoc, List.append_assoc])
        rw [if_pos fits, ends]
      · rw [if_neg fits]
        exact .inl ⟨.overflow, rfl⟩

/-- Whatever the text, a machine that scans it gives what is read from it, or refuses it for the
same reason. So it cuts the text only between two characters and loses no bits, it divides by no
zero, and no loop takes more rounds than the text has characters and one; no operation that is
looked after fails, so a duration is out of range only because it passes the limit. The seconds and
nanoseconds of the result are the whole duration, with less than a second in the nanoseconds. Each
round of the loop over components takes at least one character of a number and one of a unit, unless
it refuses the text. -/
theorem scanning_is_safe (text : String) {rounds : Nat} (enough : text.length < rounds) :
    (∀ d, parse text = .ok d → scan text rounds = .ok (d.seconds, d.subsecond)) ∧
    (∀ e, parse text = .error e → scan text rounds = .error (.refused e.problem)) ∧
    (∀ seconds nanoseconds, scan text rounds = .ok (seconds, nanoseconds) →
      seconds < 2 ^ 64 ∧ nanoseconds < 10 ^ 9 ∧
      parse text = .ok ⟨seconds * 10 ^ 9 + nanoseconds⟩) ∧
    ∀ before rest, text.toList = before ++ rest → ∀ total ≤ limit,
      (∃ problem, scanComponent text rounds total (bytes before) = .error (.refused problem)) ∨
      ∃ number unit after total', rest = number ++ unit ++ after ∧ number ≠ [] ∧ unit ≠ [] ∧
        (∀ c ∈ number, isUnitChar c = false) ∧ (∀ c ∈ unit, isUnitChar c = true) ∧
        total' ≤ limit ∧ scanComponent text rounds total (bytes before) =
          .ok (total', bytes (before ++ number ++ unit)) := by
  have same := scan_eq enough
  refine ⟨fun d read => by rw [same, read], fun e read => by rw [same, read],
    fun seconds nanoseconds scanned => ?_,
    fun before rest split total le => scanComponent_advances split enough le⟩
  rw [same] at scanned
  cases read : parse text with
  | error e =>
    rw [read] at scanned
    cases scanned
  | ok d =>
    rw [read] at scanned
    cases scanned
    have le := parse_le read
    have limit_lt : limit < 2 ^ 64 := by decide
    have second_eq : second = 10 ^ 9 := by decide
    have less := Nat.div_le_self d.nanoseconds second
    refine ⟨?_, second_eq ▸ d.subsecond_lt, ?_⟩
    · rw [Duration.seconds]
      omega
    · rw [← second_eq, d.seconds_add_subsecond]

/-- A text is cut behind a character of two bytes, and more digits than count follow a point. -/
theorem micro_scanning_is_safe :
    let text := "+1.5000000000000000009\u00b5s"
    text.length < 25 ∧ scan text 25 = .ok (0, 1500) := by
  intro text
  have enough : text.length < 25 := by decide
  have micro : ("\u00b5s", 1000) ∈ units := by decide
  have numeral : Numeral ("1".toList ++ '.' :: "5000000000000000009".toList) "1".toList
      "5000000000000000009".toList :=
    .decimal (by decide) (List.all_eq_true.1 (by decide)) (List.all_eq_true.1 (by decide))
  have component : Component "1.5000000000000000009\u00b5s".toList 1500 := .intro numeral micro
  have signed : text.toList = '+' :: "1.5000000000000000009\u00b5s".toList := by decide
  have spelled : Spells text.toList 1500 := by
    rw [signed]
    exact .plus component.unsigned
  have read : parse text = .ok ⟨1500⟩ := ((parse_follows_grammar text).1 _).2 ⟨spelled, by decide⟩
  exact ⟨enough, (scanning_is_safe text enough).1 _ read⟩

end Signoff.Duration.Scanner
