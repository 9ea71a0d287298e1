import Signoff.Duration.Printer
import Signoff.Proofs.Duration.Reading

/-!
# Durations read back

A duration is written as components that spell it (`render_spells`), whatever its length. So it is
read back unless it passes the limit, and two durations are written differently, also beyond the
limit: a text has one length (`format_reads_back`).
-/

namespace Signoff.Duration

/-- Digits and a unit. -/
theorem digits_spell (unit : String) (length : Nat) (named : (unit, length) ∈ units) (n : Nat) :
    Component (Nat.toDigits 10 n ++ unit.toList) (n * length) := by
  have digits : Digits (Nat.toDigits 10 n) := fun _ hc =>
    Nat.isDigit_of_mem_toDigits (by decide) (Nat.le_refl 10) hc
  have length_eq : amount (Nat.toDigits 10 n) [] length = n * length := by
    rw [amount, Nat.ofDigitChars_ten_toDigits, List.take_nil]
    show n * length + 0 * length / 10 ^ 0 = n * length
    rw [Nat.zero_mul, Nat.zero_div, Nat.add_zero]
  rw [← length_eq]
  exact .intro (.whole Nat.toDigits_ne_nil digits) named

/-- A component spells so many of its unit, also if it is left out. -/
theorem component_spells (unit : String) (length : Nat) (named : (unit, length) ∈ units) (n : Nat) :
    Components (component n unit) (n * length) := by
  unfold component
  split
  · rename_i zero
    rw [zero, Nat.zero_mul]
    exact .nil
  · have alone := Components.cons (digits_spell unit length named n) .nil
    rwa [List.append_nil, Nat.add_zero] at alone

/-- The unit that is chosen for what is left of a second loses nothing. -/
theorem subsecondComponent_spells (n : Nat) : Components (subsecondComponent n) n := by
  unfold subsecondComponent
  split
  · rename_i exact_
    have spelled := component_spells "ms" millisecond (by decide) (n / millisecond)
    rwa [Nat.div_mul_cancel (Nat.dvd_of_mod_eq_zero exact_)] at spelled
  · split
    · rename_i exact_
      have spelled := component_spells "us" microsecond (by decide) (n / microsecond)
      rwa [Nat.div_mul_cancel (Nat.dvd_of_mod_eq_zero exact_)] at spelled
    · have spelled := component_spells "ns" 1 (by decide) n
      rwa [Nat.mul_one] at spelled

/-- What is written spells the duration. -/
theorem render_spells (d : Duration) : Spells d.render d.nanoseconds := by
  unfold render
  split
  · rename_i zero
    rw [zero]
    exact .plain (digits_spell "s" second (by decide) 0).unsigned
  · rename_i some_
    have hours := component_spells "h" hour (by decide) (d.nanoseconds / hour)
    have minutes := component_spells "m" minute (by decide) (d.nanoseconds % hour / minute)
    have seconds := component_spells "s" second (by decide) (d.nanoseconds % minute / second)
    have spelled := ((hours.append minutes).append seconds).append
      (subsecondComponent_spells d.subsecond)
    have sum : d.nanoseconds / hour * hour + d.nanoseconds % hour / minute * minute +
        d.nanoseconds % minute / second * second + d.subsecond = d.nanoseconds := by
      simp only [subsecond, hour, minute, second]
      omega
    rw [sum] at spelled
    exact .plain (spelled.unsigned some_)

/-- Every duration reads back from what is written, unless it passes the limit; then it is out of
range. No two durations are written alike. -/
theorem format_reads_back :
    (∀ d : Duration, parse d.format =
      if d.nanoseconds ≤ 2 ^ 63 - 1 then .ok d else .error ⟨.overflow, d.format⟩) ∧
    ∀ d d' : Duration, d.format = d'.format → d = d' := by
  have spelled (d : Duration) : Spells d.format.toList d.nanoseconds := by
    rw [format, String.toList_ofList]
    exact d.render_spells
  refine ⟨fun d => parse_spelled (spelled d), fun d d' same => ?_⟩
  have same : d.nanoseconds = d'.nanoseconds := (spelled d).unique (same ▸ spelled d')
  cases d
  cases d'
  exact congrArg Duration.mk same

end Signoff.Duration
