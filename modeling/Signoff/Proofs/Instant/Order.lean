import Signoff.Instant.Basic

/-!
# The order of instants

Instants are ordered by the comparison that tables of timers use.
-/

namespace Signoff.Instant

theorem le_iff {t u : Instant} : t ≤ u ↔ (compare t u).isLE = true := Iff.rfl

theorem le_refl (t : Instant) : t ≤ t := le_iff.2 (by rw [Std.ReflOrd.compare_self]; rfl)

theorem le_trans {t u v : Instant} (h : t ≤ u) (h' : u ≤ v) : t ≤ v :=
  le_iff.2 (Std.TransCmp.isLE_trans h h')

theorem le_total (t u : Instant) : t ≤ u ∨ u ≤ t := by
  have swap : compare u t = (compare t u).swap := Std.OrientedCmp.eq_swap
  rw [le_iff, le_iff, swap]
  cases compare t u with
  | lt => exact .inl rfl
  | eq => exact .inl rfl
  | gt => exact .inr rfl

theorem le_antisymm {t u : Instant} (h : t ≤ u) (h' : u ≤ t) : t = u := by
  rw [le_iff] at h h'
  have swap : compare u t = (compare t u).swap := Std.OrientedCmp.eq_swap
  rw [swap, Ordering.isLE_swap] at h'
  exact Std.LawfulEqOrd.eq_of_compare (Ordering.eq_eq_of_isLE_of_isGE h h')

end Signoff.Instant
