import Signoff.Text.Utf8

/-!
# The order of texts is the order of their bytes

Texts are ordered character by character, by code points. Written as UTF-8 they are ordered in the
same way byte by byte (`encode_lt_encode`): of two characters the greater one has the greater first
byte, or the same one and a greater byte further on (`encodeChar_lt`).
-/

namespace Signoff

/-- Texts are compared as they are ordered. -/
theorem lt_of_compare_eq_lt {a b : String} (h : compare a b = .lt) : a < b := by
  rw [show compare a b = compareOfLessAndEq a b from rfl, compareOfLessAndEq] at h
  split at h
  · assumption
  · split at h <;> cases h

theorem byte_lt_iff {m n : Nat} (hm : m < 256) (hn : n < 256) :
    UInt8.ofNat m < UInt8.ofNat n ↔ m < n := by
  rw [UInt8.lt_iff_toNat_lt, UInt8.toNat_ofNat', UInt8.toNat_ofNat', Nat.mod_eq_of_lt hm,
    Nat.mod_eq_of_lt hn]

theorem byte_eq_iff {m n : Nat} (hm : m < 256) (hn : n < 256) :
    UInt8.ofNat m = UInt8.ofNat n ↔ m = n := by
  rw [← UInt8.toNat_inj, UInt8.toNat_ofNat', UInt8.toNat_ofNat', Nat.mod_eq_of_lt hm,
    Nat.mod_eq_of_lt hn]

/-- Of two characters the greater one has the greater bytes, whatever stands behind them. -/
theorem encodeChar_lt {c d : Char} (h : c < d) (x y : Bytes) :
    String.utf8EncodeChar c ++ x < String.utf8EncodeChar d ++ y := by
  have lt : c.val.toNat < d.val.toNat := UInt32.lt_iff_toNat_lt.1 h
  have bound : d.val.toNat < 1114112 := by
    rcases d.valid with low | ⟨-, high⟩
    · exact Nat.lt_trans low (by decide)
    · exact high
  unfold String.utf8EncodeChar
  dsimp only
  generalize c.val.toNat = m at lt
  generalize d.val.toNat = n at lt bound
  -- the first byte grows with the number of bytes, and where that is the same, so do the digits
  repeat' split
  all_goals
    simp only [List.cons_append, List.nil_append, List.cons_lt_cons_iff]
    simp (disch := omega) only [byte_lt_iff, byte_eq_iff]
  case' isFalse.isFalse.isFalse.isFalse.isFalse.isFalse =>
    rcases Nat.lt_or_eq_of_le (show m / 262144 ≤ n / 262144 by omega) with lead | lead
    · omega
    rcases Nat.lt_or_eq_of_le (show m / 4096 ≤ n / 4096 by omega) with lead | lead
    · omega
    rcases Nat.lt_or_eq_of_le (show m / 64 ≤ n / 64 by omega) with lead | lead
  all_goals omega

theorem encodeChars_lt {s t : List Char} (h : s < t) : encodeChars s < encodeChars t := by
  induction h with
  | @nil c t =>
    obtain ⟨b, rest, eq⟩ := List.exists_cons_of_ne_nil (l := encodeChars (c :: t)) (by
      rw [encodeChars, List.flatMap_cons]
      exact List.append_ne_nil_of_left_ne_nil String.utf8EncodeChar_ne_nil _)
    rw [eq]
    exact List.nil_lt_cons b rest
  | rel h => exact encodeChar_lt h _ _
  | cons h ih => exact List.append_left_lt ih

/-- Texts are ordered as their bytes are. -/
theorem encode_lt_encode {s t : String} : encode s < encode t ↔ s < t := by
  refine ⟨fun h => Decidable.byContradiction fun no => ?_, fun h => encodeChars_lt h⟩
  by_cases gt : t < s
  · exact List.lt_asymm h (encodeChars_lt gt)
  · obtain rfl := String.le_antisymm (String.not_lt.1 gt) (String.not_lt.1 no)
    exact List.lt_irrefl _ h

end Signoff
