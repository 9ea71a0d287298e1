import Mathlib.Data.List.DropRight
import Signoff.Json.Number
import Signoff.Json.Printer
import Signoff.Proofs.Json.Shortest

/-!
# How numbers are written

A numeral is what may stand in a text as a number: a sign or none, digits that begin with a zero
only if that is the whole of them, a fraction or none, and an exponent or none. Every number is
printed as a numeral (`numeral_render`), be it an integer or a floating-point number, with a point
inside its digits, in front of them or behind them, or with an exponent.

The digits of a floating-point number begin with a zero only if the number is zero, which takes that
the shortest ones are not all zeros (`Double.shortest_digits_ne_zero`).
-/

namespace Signoff.Json

/-- Digits and nothing else. -/
def Digits (cs : List Char) : Prop := ∀ c ∈ cs, c.isDigit = true

/-- The digits in front of the point. -/
inductive IsWhole : List Char → Prop where
  | zero : IsWhole ['0']
  | digits {c : Char} {d : Nat} {ds : List Char} (first : digit? (some c) = some (d + 1))
      (others : Digits ds) : IsWhole (c :: ds)

/-- The point and the digits behind it, or nothing. -/
inductive IsFraction : List Char → Prop where
  | none : IsFraction []
  | point {ds : List Char} (some_ : ds ≠ []) (digits : Digits ds) : IsFraction ('.' :: ds)

/-- A power of ten, or nothing. -/
inductive IsExponent : List Char → Prop where
  | none : IsExponent []
  | power {sign : Char} {ds : List Char} (signed : sign = '+' ∨ sign = '-') (some_ : ds ≠ [])
      (digits : Digits ds) : IsExponent ('e' :: sign :: ds)

/-- A number without a sign. -/
inductive Unsigned : List Char → Prop where
  | parts {whole fraction exponent : List Char} (isWhole : IsWhole whole)
      (isFraction : IsFraction fraction) (isExponent : IsExponent exponent) :
      Unsigned (whole ++ (fraction ++ exponent))

/-- A number. -/
inductive Numeral : List Char → Prop where
  | positive {cs : List Char} (unsigned : Unsigned cs) : Numeral cs
  | negative {cs : List Char} (unsigned : Unsigned cs) : Numeral ('-' :: cs)

/-! ## Digits -/

theorem Digits.append {cs ds : List Char} (h : Digits cs) (h' : Digits ds) : Digits (cs ++ ds) :=
  fun c mem => (List.mem_append.1 mem).elim (h c) (h' c)

theorem digits_zeros (n : Nat) : Digits (List.replicate n '0') := by
  intro c mem
  rw [List.eq_of_mem_replicate mem]
  rfl

theorem isDigit_of_digit? {c : Char} {d : Nat} (h : digit? (some c) = some d) :
    c.isDigit = true := by
  by_contra no
  rw [digit?, if_neg no] at h
  cases h

theorem isDigit_toDigits (n : Nat) : Digits (Nat.toDigits 10 n) :=
  fun _ hc => Nat.isDigit_of_mem_toDigits (by decide) (Nat.le_refl 10) hc

/-- The digits of a number but zero do not begin with a zero. -/
theorem toDigits_eq_cons {n : Nat} (h : n ≠ 0) :
    ∃ c cs d, Nat.toDigits 10 n = c :: cs ∧ digit? (some c) = some (d + 1) := by
  induction n using Nat.strongRecOn with
  | _ n ih =>
    by_cases small : n < 10
    · have one : ∀ n < 10, n ≠ 0 → digit? (some n.digitChar) = some (n - 1 + 1) := by decide
      exact ⟨_, [], n - 1, Nat.toDigits_of_lt_base small, one n small h⟩
    · obtain ⟨c, cs, d, eq, hd⟩ := ih (n / 10) (by omega) (by omega)
      exact ⟨c, cs ++ [(n % 10).digitChar], d, by
        rw [Nat.toDigits_of_base_le (by decide) (by omega), eq]; rfl, hd⟩

theorem isWhole_toDigits (n : Nat) : IsWhole (Nat.toDigits 10 n) := by
  by_cases zero : n = 0
  · subst zero
    exact .zero
  · obtain ⟨c, ds, d, eq, first⟩ := toDigits_eq_cons zero
    have digits := isDigit_toDigits n
    rw [eq] at digits ⊢
    exact .digits first fun c mem => digits c (List.mem_cons_of_mem _ mem)

theorem IsWhole.unsigned {cs : List Char} (h : IsWhole cs) : Unsigned cs := by
  have := Unsigned.parts h .none .none
  rwa [List.append_nil, List.append_nil] at this

/-- An integer is a numeral. -/
theorem numeral_renderInt (n : Int) : Numeral (renderInt n) := by
  unfold renderInt
  split
  · exact .negative (isWhole_toDigits _).unsigned
  · exact .positive (isWhole_toDigits _).unsigned

/-- Zeros are dropped from the end of the digits only, so what begins them stays. -/
theorem significantDigits_eq_cons {n : Nat} (h : n ≠ 0) : ∃ c ds d,
    Double.significantDigits n = c :: ds ∧ digit? (some c) = some (d + 1) ∧ Digits ds := by
  obtain ⟨c, cs, d, eq, first⟩ := toDigits_eq_cons h
  have digits := isDigit_toDigits n
  have kept : (Nat.toDigits 10 n).rdropWhile (· == '0') <+: c :: cs := by
    rw [← eq]
    exact List.rdropWhile_prefix _ _
  have some_ : (Nat.toDigits 10 n).rdropWhile (· == '0') ≠ [] := by
    intro none_
    have zero := List.rdropWhile_eq_nil_iff.1 none_ c (by rw [eq]; exact List.mem_cons_self)
    rw [beq_iff_eq.1 zero] at first
    revert first
    simp [digit?]
  unfold Double.significantDigits
  rw [List.rdropWhile] at kept some_
  generalize ((Nat.toDigits 10 n).reverse.dropWhile (· == '0')).reverse = ds at kept some_
  cases ds with
  | nil => exact absurd rfl some_
  | cons c' ds =>
    obtain ⟨rfl, rest⟩ := List.cons_prefix_cons.1 kept
    refine ⟨c', ds, d, rfl, first, fun c mem => digits c ?_⟩
    rw [eq]
    exact List.mem_cons_of_mem _ (rest.subset mem)

/-! ## Floating-point numbers -/

section

variable {c : Char} {d : Nat} {ds : List Char}

/-- Digits with a point among them, in front of them or behind them. -/
theorem unsigned_positional (first : digit? (some c) = some (d + 1)) (others : Digits ds)
    (point : Int) : Unsigned (Double.positional (c :: ds) point) := by
  have all : Digits (c :: ds) := List.forall_mem_cons.2 ⟨isDigit_of_digit? first, others⟩
  unfold Double.positional
  split
  · have fraction : IsFraction ('.' :: (List.replicate (-point).toNat '0' ++ c :: ds)) :=
      .point (by simp) ((digits_zeros _).append all)
    simpa using Unsigned.parts .zero fraction .none
  · obtain ⟨n, eq⟩ : ∃ n, point.toNat = n + 1 := ⟨point.toNat - 1, by omega⟩
    dsimp only
    rw [eq]
    split
    · have whole : IsWhole (c :: (ds ++ List.replicate (n + 1 - (c :: ds).length) '0')) :=
        .digits first (others.append (digits_zeros _))
      have fraction : IsFraction ['.', '0'] := .point (by simp) (digits_zeros 1)
      simpa using Unsigned.parts whole fraction .none
    · rename_i short
      have whole : IsWhole (c :: ds.take n) :=
        .digits first fun c mem => others c (List.mem_of_mem_take mem)
      have fraction : IsFraction ('.' :: ds.drop n) := by
        refine .point (fun none_ => short ?_) fun c mem => others c (List.mem_of_mem_drop mem)
        have := List.drop_eq_nil_iff.1 none_
        rw [List.length_cons]
        omega
      simpa using Unsigned.parts whole fraction .none

/-- Digits with a point behind the first, unless it is alone, and an exponent. -/
theorem unsigned_scientific (first : digit? (some c) = some (d + 1)) (others : Digits ds)
    (exponent : Int) : Unsigned (Double.scientific (c :: ds) exponent) := by
  have power : IsExponent ('e' :: (if exponent < 0 then '-' else '+') ::
      Nat.toDigits 10 exponent.natAbs) := by
    refine .power ?_ Nat.toDigits_ne_nil (isDigit_toDigits _)
    split
    · exact .inr rfl
    · exact .inl rfl
  have whole : IsWhole [c] := .digits first nofun
  unfold Double.scientific
  cases ds with
  | nil => simpa using Unsigned.parts whole .none power
  | cons e rest => simpa using Unsigned.parts whole (.point (List.cons_ne_nil e rest) others) power

end

/-- A floating-point number is a numeral. -/
theorem numeral_renderDouble (x : Double) : Numeral x.render := by
  have signed : ∀ {cs}, Unsigned cs → Numeral ((if x.negative then ['-'] else []) ++ cs) := by
    intro cs h
    split
    · exact .negative h
    · exact .positive h
  unfold Double.render
  refine signed ?_
  split
  · have fraction : IsFraction ['.', '0'] := .point (by simp) (digits_zeros 1)
    exact Unsigned.parts .zero fraction .none
  · rename_i some_
    obtain ⟨c, ds, d, eq, first, others⟩ :=
      significantDigits_eq_cons (x.shortest_digits_ne_zero (by simpa using some_))
    rw [eq]
    split
    · exact unsigned_positional first others _
    · exact unsigned_scientific first others _

/-- A number is printed as a numeral. -/
theorem numeral_render (n : Number) : Numeral n.render := by
  cases n with
  | whole n => exact numeral_renderInt n
  | real x => exact numeral_renderDouble x

/-- A number without a sign begins with a digit. -/
theorem Unsigned.eq_cons {cs : List Char} (h : Unsigned cs) :
    ∃ c rest, cs = c :: rest ∧ c.isDigit = true := by
  obtain ⟨isWhole, -, -⟩ := h
  cases isWhole with
  | zero => exact ⟨_, _, rfl, rfl⟩
  | digits first => exact ⟨_, _, rfl, isDigit_of_digit? first⟩

/-- A numeral begins with its sign or a digit. -/
theorem Numeral.eq_cons {cs : List Char} (h : Numeral cs) :
    ∃ c rest, cs = c :: rest ∧ (c = '-' ∨ c.isDigit = true) := by
  cases h with
  | positive unsigned =>
    obtain ⟨c, rest, rfl, digit⟩ := unsigned.eq_cons
    exact ⟨c, rest, rfl, .inr digit⟩
  | negative => exact ⟨_, _, rfl, .inl rfl⟩

end Signoff.Json
