import Mathlib.Tactic.Ring
import Signoff.Json.Shortest

/-!
# Shortest decimal texts round to their number

The digits of a floating-point number are searched on decimal grids, the last of which has seventeen
digits. There a point rounds to the number, so the search finds one (`exists_nearest`), and the
digits that it gives round to the number (`isNear_shortest`). Zero does not, so they are no zero
(`shortest_digits_ne_zero`).

On the last grid the points are so near to each other because the number is not small for its
magnitude: a tenth of the power above it is not greater than the number
(`isBelowTens_magnitude`). There the logarithm of two is cut to twelve bits (`log_two`), which is
enough for all exponents (`tens_le_twos`).
-/

namespace Signoff.Double

variable {x : Double}

/-! ## The number and its bounds -/

theorem significand_pos (h : x.isZero = false) : 0 < x.significand := by
  have nonzero : ¬ (x.exponent.val = 0 ∧ x.fraction.val = 0) := by
    simpa [isZero] using h
  unfold significand fractionCount
  split <;> omega

theorem significand_lt (x : Double) : x.significand < 2 * fractionCount := by
  have := x.fraction.isLt
  unfold significand
  split <;> omega

theorem power_ge (x : Double) : -1074 ≤ x.power := by
  unfold power
  omega

/-- The reals that round to the number reach far enough from it to hold a point of a grid with as
many digits as the last one has. -/
theorem width (h : x.isZero = false) :
    0 < x.lower ∧ x.lower < x.quarters ∧ x.quarters < 10 ^ 16 * (x.upper - x.lower) := by
  have pos := significand_pos h
  have lt := significand_lt x
  unfold lower upper quarters
  split
  · -- at a power of two the lower half is narrower, but the number is small for its exponent
    rename_i boundary
    have least : x.significand = fractionCount := by
      unfold significand
      rw [if_neg (by omega), boundary.1, Nat.add_zero]
    unfold fractionCount at *
    omega
  · unfold fractionCount at *
    omega

/-! ## The magnitude -/

/-- Powers of two bases are compared by a bound on the logarithm. -/
theorem pow_le_pow_of_log {b c p q m n : Nat} (log : b ^ p ≤ c ^ q) (base : 0 < b) (pos : q ≠ 0)
    (h : m * q ≤ n * p) : b ^ m ≤ c ^ n := by
  refine (Nat.pow_le_pow_iff_left pos).1 ?_
  calc (b ^ m) ^ q = b ^ (m * q) := (Nat.pow_mul ..).symm
    _ ≤ b ^ (n * p) := Nat.pow_le_pow_right base h
    _ = (b ^ p) ^ n := by rw [← Nat.pow_mul, Nat.mul_comm]
    _ ≤ (c ^ q) ^ n := Nat.pow_le_pow_left log n
    _ = (c ^ n) ^ q := by rw [← Nat.pow_mul, ← Nat.pow_mul, Nat.mul_comm]

/-- The logarithm of two is at least the factor, and `1234 / 4096` at most. -/
theorem log_two : 10 ^ 1233 ≤ 2 ^ 4096 ∧ 2 ^ 4096 ≤ 10 ^ 1234 := by
  decide +kernel

/-- A tenth of the power of ten that is looked for first is not above the power of two. -/
theorem tens_le_twos {e k : Int} (low : -1074 ≤ e) (factor : k = e * 1233 / 4096 - 1) :
    10 ^ k.toNat * 2 ^ (-e).toNat ≤ 2 ^ e.toNat * 10 ^ (-k).toNat := by
  by_cases neg : e < 0
  · rw [show k.toNat = 0 by omega, show e.toNat = 0 by omega, Nat.pow_zero, Nat.pow_zero,
      Nat.one_mul, Nat.one_mul]
    exact pow_le_pow_of_log log_two.2 (by decide) (by decide) (by omega)
  · rw [show (-e).toNat = 0 by omega, Nat.pow_zero, Nat.mul_one]
    exact (pow_le_pow_of_log log_two.1 (by decide) (by decide) (by omega)).trans
      (Nat.le_mul_of_pos_right _ (Nat.pow_pos (by decide)))

theorem isBelowTens_eq_false {k : Int} : x.isBelowTens k = false ↔
    10 ^ k.toNat * denominator (x.power - 2) ≤
      x.quarters * numerator (x.power - 2) * 10 ^ (-k).toNat := by
  rw [isBelowTens, decide_eq_false_iff_not, Nat.not_lt]
  rfl

/-- A tenth of the power of ten that is looked for first is not above the number. -/
theorem isBelowTens_least (h : x.isZero = false) :
    x.isBelowTens (((x.quarters.log2 : Int) + x.power - 2) * 1233 / 4096 - 1) = false := by
  have pos := significand_pos h
  have ne : x.quarters ≠ 0 := by
    unfold quarters
    omega
  have low : 2 ≤ x.quarters.log2 := (Nat.le_log2 ne).2 (by unfold quarters; omega)
  have least := power_ge x
  rw [isBelowTens_eq_false]
  -- the number is at least `2 ^ e`
  obtain ⟨e, he⟩ : ∃ e : Int, e = (x.quarters.log2 : Int) + x.power - 2 := ⟨_, rfl⟩
  obtain ⟨q, hq⟩ : ∃ q : Int, q = x.power - 2 := ⟨_, rfl⟩
  have bound := tens_le_twos (e := e) (by omega) rfl
  rw [← he, ← hq]
  generalize e * 1233 / 4096 - 1 = k at bound ⊢
  have split : 2 ^ e.toNat * 2 ^ (-q).toNat =
      2 ^ x.quarters.log2 * 2 ^ q.toNat * 2 ^ (-e).toNat := by
    rw [← Nat.pow_add, ← Nat.pow_add, ← Nat.pow_add]
    congr 1
    omega
  refine Nat.le_of_mul_le_mul_right (c := 2 ^ (-e).toNat) ?_ (Nat.pow_pos (by decide))
  calc 10 ^ k.toNat * 2 ^ (-q).toNat * 2 ^ (-e).toNat
      = 10 ^ k.toNat * 2 ^ (-e).toNat * 2 ^ (-q).toNat := by ring
    _ ≤ 2 ^ e.toNat * 10 ^ (-k).toNat * 2 ^ (-q).toNat := Nat.mul_le_mul_right _ bound
    _ = 2 ^ e.toNat * 2 ^ (-q).toNat * 10 ^ (-k).toNat := by ring
    _ = 2 ^ x.quarters.log2 * (2 ^ q.toNat * 2 ^ (-e).toNat * 10 ^ (-k).toNat) := by
      rw [split]
      ring
    _ ≤ x.quarters * (2 ^ q.toNat * 2 ^ (-e).toNat * 10 ^ (-k).toNat) :=
      Nat.mul_le_mul_right _ (Nat.log2_self_le ne)
    _ = x.quarters * 2 ^ q.toNat * 10 ^ (-k).toNat * 2 ^ (-e).toNat := by ring

/-- The number is not below a tenth of the power of ten that is found to be above it. -/
theorem isBelowTens_magnitude (h : x.isZero = false) :
    x.isBelowTens (x.magnitude - 1) = false := by
  unfold magnitude
  dsimp only
  split
  · exact isBelowTens_least h
  · rename_i above
    split
    · rw [Int.add_sub_cancel]
      simpa using above
    · rename_i above'
      rw [Int.add_sub_assoc]
      simpa using above'

/-! ## The grids -/

/-- The grid points next to the number, in quarters of its last place: what is left out is that the
bounds themselves may belong to it. -/
theorem isNear_eq_false {n : Nat} {scale : Int} (h : x.isNear n scale = false) :
    n * (10 ^ scale.toNat * denominator (x.power - 2)) ≤
        x.lower * (numerator (x.power - 2) * 10 ^ (-scale).toNat) ∨
      x.upper * (numerator (x.power - 2) * 10 ^ (-scale).toNat) ≤
        n * (10 ^ scale.toNat * denominator (x.power - 2)) := by
  rw [← Nat.mul_assoc n]
  by_contra between
  rw [not_or, Nat.not_le, Nat.not_le] at between
  obtain ⟨above, below⟩ := between
  have near : x.isNear n scale = true := by
    unfold isNear
    dsimp only
    split
    · exact Bool.and_eq_true_iff.2 ⟨decide_eq_true above.le, decide_eq_true below.le⟩
    · exact Bool.and_eq_true_iff.2 ⟨decide_eq_true above, decide_eq_true below⟩
  rw [near] at h
  cases h

/-- The points of the grid of seventeen digits are nearer to each other than a small part of the
number. -/
theorem spacing_le (h : x.isZero = false) :
    10 ^ (x.magnitude - 17).toNat * denominator (x.power - 2) * 10 ^ 16 ≤
      x.quarters * (numerator (x.power - 2) * 10 ^ (-(x.magnitude - 17)).toNat) := by
  have tenth := isBelowTens_eq_false.1 (isBelowTens_magnitude h)
  obtain ⟨k, hk⟩ : ∃ k : Int, k = x.magnitude - 1 := ⟨_, rfl⟩
  rw [← hk] at tenth
  rw [show x.magnitude - 17 = k - 16 by omega]
  generalize denominator (x.power - 2) = d at tenth ⊢
  generalize numerator (x.power - 2) = m at tenth ⊢
  have split : 10 ^ (k - 16).toNat * 10 ^ 16 * 10 ^ (-k).toNat =
      10 ^ k.toNat * 10 ^ (-(k - 16)).toNat := by
    rw [← Nat.pow_add, ← Nat.pow_add, ← Nat.pow_add]
    congr 1
    omega
  refine Nat.le_of_mul_le_mul_right (c := 10 ^ (-k).toNat) ?_ (Nat.pow_pos (by decide))
  calc 10 ^ (k - 16).toNat * d * 10 ^ 16 * 10 ^ (-k).toNat
      = 10 ^ (k - 16).toNat * 10 ^ 16 * 10 ^ (-k).toNat * d := by ring
    _ = 10 ^ k.toNat * d * 10 ^ (-(k - 16)).toNat := by
      rw [split]
      ring
    _ ≤ x.quarters * m * 10 ^ (-k).toNat * 10 ^ (-(k - 16)).toNat := Nat.mul_le_mul_right _ tenth
    _ = x.quarters * (m * 10 ^ (-(k - 16)).toNat) * 10 ^ (-k).toNat := by ring

/-- On the grid of seventeen digits a point rounds to the number. -/
theorem exists_nearest (h : x.isZero = false) : ∃ n, x.nearest? (x.magnitude - 17) = some n := by
  unfold nearest?
  dsimp only
  split
  · exact ⟨_, rfl⟩
  · exact ⟨_, rfl⟩
  · exact ⟨_, rfl⟩
  rename_i far far'
  obtain ⟨-, lower_lt, wide⟩ := width h
  have near := spacing_le h
  have far := isNear_eq_false far
  have far' := isNear_eq_false far'
  generalize x.magnitude - 17 = scale at *
  have unit_pos : 0 < numerator (x.power - 2) * 10 ^ (-scale).toNat :=
    Nat.mul_pos (Nat.pow_pos (by decide)) (Nat.pow_pos (by decide))
  have spacing_pos : 0 < 10 ^ scale.toNat * denominator (x.power - 2) :=
    Nat.mul_pos (Nat.pow_pos (by decide)) (Nat.pow_pos (by decide))
  have quotient : x.quarters * numerator (x.power - 2) * Nat.pow 10 (-scale).toNat /
      (denominator (x.power - 2) * Nat.pow 10 scale.toNat) =
      x.quarters * (numerator (x.power - 2) * 10 ^ (-scale).toNat) /
        (10 ^ scale.toNat * denominator (x.power - 2)) := by
    rw [Nat.mul_assoc, Nat.mul_comm (denominator _)]
    rfl
  rw [quotient] at far far'
  generalize numerator (x.power - 2) * 10 ^ (-scale).toNat = unit at *
  generalize 10 ^ scale.toNat * denominator (x.power - 2) = spacing at *
  have here := Nat.div_mul_le_self (x.quarters * unit) spacing
  have next := Nat.lt_mul_div_succ (x.quarters * unit) spacing_pos
  generalize x.quarters * unit / spacing = n at *
  -- from here on everything is linear in the number, its bounds and the points next to it
  have upper_eq : x.upper * unit = x.quarters * unit + 2 * unit := by
    rw [upper, Nat.add_mul]
  have lower_lt := Nat.mul_lt_mul_of_pos_right lower_lt unit_pos
  have wide := Nat.mul_lt_mul_of_pos_right wide unit_pos
  rw [Nat.mul_assoc, Nat.sub_mul] at wide
  rw [Nat.mul_comm spacing, Nat.add_mul] at next
  rw [Nat.add_mul] at far'
  omega

/-! ## The digits -/

theorem roundDiv_eq (num den : Nat) :
    roundDiv num den = num / den ∨ roundDiv num den = num / den + 1 := by
  unfold roundDiv
  dsimp only
  split
  · exact .inl rfl
  · split
    · exact .inr rfl
    · omega

/-- A grid point that is found rounds to the number. -/
theorem isNear_of_nearest? {scale : Int} {n : Nat} (h : x.nearest? scale = some n) :
    x.isNear n scale = true := by
  unfold nearest? at h
  dsimp only at h
  split at h
  · rename_i here next
    cases h
    obtain same | same := roundDiv_eq (x.quarters * numerator (x.power - 2) *
      Nat.pow 10 (-scale).toNat) (denominator (x.power - 2) * Nat.pow 10 scale.toNat)
    · rw [same]
      exact here
    · rw [same]
      exact next
  · rename_i here _
    cases h
    exact here
  · rename_i next
    cases h
    exact next
  · cases h

/-- If the last grid has a point that rounds to the number, the search gives one that does. -/
theorem isNear_searchGrids {magnitude : Int} {count more n : Nat}
    (last : x.nearest? (magnitude - (count + more : Nat)) = some n) :
    x.isNear (x.searchGrids magnitude count more).digits
      (x.searchGrids magnitude count more).scale = true := by
  induction more generalizing count with
  | zero =>
    rw [Nat.add_zero] at last
    rw [searchGrids, last]
    exact isNear_of_nearest? last
  | succ more ih =>
    rw [searchGrids]
    split
    · rename_i found
      exact isNear_of_nearest? found
    · exact ih (by rwa [Nat.add_assoc, Nat.add_comm 1 more])

/-- The shortest decimal number rounds to the number that it is written for. -/
theorem isNear_shortest (h : x.isZero = false) :
    x.isNear x.shortest.digits x.shortest.scale = true := by
  obtain ⟨n, last⟩ := exists_nearest h
  rw [shortest, h]
  show x.isNear (x.searchGrids x.magnitude 1 16).digits
    (x.searchGrids x.magnitude 1 16).scale = true
  exact isNear_searchGrids last

/-- Zero does not round to a number other than zero. -/
theorem shortest_digits_ne_zero (h : x.isZero = false) : x.shortest.digits ≠ 0 := by
  intro zero
  have near := isNear_shortest h
  have pos := (width h).1
  have unit_pos : 0 < x.lower *
      (numerator (x.power - 2) * Nat.pow 10 (-x.shortest.scale).toNat) :=
    Nat.mul_pos pos (Nat.mul_pos (Nat.pow_pos (by decide)) (Nat.pow_pos (by decide)))
  rw [zero, isNear, Nat.zero_mul, Nat.zero_mul] at near
  split at near
  · have := of_decide_eq_true (Bool.and_eq_true_iff.1 near).1
    omega
  · have := of_decide_eq_true (Bool.and_eq_true_iff.1 near).1
    omega

end Signoff.Double
