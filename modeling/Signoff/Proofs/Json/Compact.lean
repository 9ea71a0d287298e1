import Signoff.Json.Printer
import Signoff.Text.Utf8

/-!
# The compact text of a value stands on one line

Every control character of a string is escaped, and compact text has no white space besides the
white space of its strings. So it has no control character, whatever the value, and as bytes it has
no byte that is one.

* `Json.visible_render`: the characters of a value.
* `Json.byte_encode_compact`: the bytes of its compact text.
-/

namespace Signoff

/-- No character stands before the space, as the control characters do. -/
def Visible (cs : List Char) : Prop := ∀ c ∈ cs, 0x20 ≤ c.toNat

theorem Visible.nil : Visible [] := fun _ h => absurd h List.not_mem_nil

@[simp] theorem visible_cons {c : Char} {cs : List Char} :
    Visible (c :: cs) ↔ 0x20 ≤ c.toNat ∧ Visible cs :=
  List.forall_mem_cons

@[simp] theorem visible_append {cs cs' : List Char} :
    Visible (cs ++ cs') ↔ Visible cs ∧ Visible cs' :=
  List.forall_mem_append

/-- Text that is written down is tested character by character. -/
instance (cs : List Char) : Decidable (Visible cs) :=
  decidable_of_iff (cs.all fun c => 0x20 ≤ c.toNat) (by simp [Visible])

theorem Visible.of_subset {cs cs' : List Char} (h : Visible cs) (sub : cs' ⊆ cs) : Visible cs' :=
  fun c hc => h c (sub hc)

theorem visible_replicate {n : Nat} {c : Char} (h : 0x20 ≤ c.toNat) :
    Visible (List.replicate n c) := by
  intro c' hc
  rwa [List.eq_of_mem_replicate hc]

/-! ## Numbers -/

theorem visible_toDigits (n : Nat) : Visible (Nat.toDigits 10 n) := by
  intro c hc
  have digit := Nat.isDigit_of_mem_toDigits (by decide) (Nat.le_refl 10) hc
  rw [Char.isDigit, Bool.and_eq_true, decide_eq_true_eq] at digit
  have : '0'.toNat ≤ c.toNat := UInt32.le_iff_toNat_le.1 digit.1
  exact Nat.le_trans (by decide) this

theorem visible_renderInt (n : Int) : Visible (renderInt n) := by
  unfold renderInt
  split
  · exact visible_cons.2 ⟨by decide, visible_toDigits _⟩
  · exact visible_toDigits _

namespace Double

variable {digits : List Char}

theorem visible_positional (h : Visible digits) (point : Int) :
    Visible (positional digits point) := by
  have zeros (n : Nat) : Visible (List.replicate n '0') := visible_replicate (by decide)
  unfold positional
  dsimp only
  split
  · simp only [visible_append]
    exact ⟨⟨by decide, zeros _⟩, h⟩
  · split
    · simp only [visible_append]
      exact ⟨⟨h, zeros _⟩, by decide⟩
    · simp only [visible_append]
      exact ⟨⟨h.of_subset (List.take_subset ..), by decide⟩, h.of_subset (List.drop_subset ..)⟩

theorem visible_scientific (h : Visible digits) (exponent : Int) :
    Visible (scientific digits exponent) := by
  unfold scientific
  dsimp only
  refine visible_append.2 ⟨visible_append.2 ⟨?_, by split <;> decide⟩, visible_toDigits _⟩
  split
  · obtain ⟨first, others⟩ := visible_cons.1 h
    exact visible_cons.2 ⟨first, visible_cons.2 ⟨by decide, others⟩⟩
  · exact h

theorem visible_significantDigits (n : Nat) : Visible (significantDigits n) := by
  unfold significantDigits
  split
  · decide
  · refine (visible_toDigits n).of_subset fun c hc => ?_
    rw [List.mem_reverse] at hc
    exact List.mem_reverse.1 ((List.dropWhile_suffix _).subset hc)

theorem visible_render (x : Double) : Visible x.render := by
  have digits := visible_significantDigits x.shortest.digits
  unfold render
  dsimp only
  refine visible_append.2 ⟨by split <;> decide, ?_⟩
  split
  · decide
  · split
    · exact visible_positional digits _
    · exact visible_scientific digits _

end Double

theorem Number.visible_render (n : Number) : Visible n.render :=
  match n with
  | .whole n _ => visible_renderInt n
  | .real x => x.visible_render

/-! ## Values -/

namespace Json

theorem visible_hexDigit {n : Nat} (h : n < 16) : 0x20 ≤ (hexDigit n).toNat := by
  have : ∀ n < 16, 0x20 ≤ (hexDigit n).toNat := by decide
  exact this n h

theorem visible_renderChar (c : Char) : Visible (renderChar c) := by
  unfold renderChar
  split
  · rename_i h
    rcases h with rfl | rfl <;> decide
  · split
    · rename_i h
      exact visible_cons.2 ⟨h, .nil⟩
    · rename_i h
      have high : c.toNat / 16 < 16 := by omega
      have low : c.toNat % 16 < 16 := Nat.mod_lt _ (by decide)
      -- the five that have an escape of their own
      iterate 5
        split
        · decide
      simp only [visible_cons]
      exact ⟨by decide, by decide, by decide, by decide, visible_hexDigit high,
        visible_hexDigit low, .nil⟩

theorem visible_renderString (s : String) : Visible (renderString s) := by
  refine visible_append.2 ⟨visible_cons.2 ⟨by decide, fun c hc => ?_⟩, by decide⟩
  obtain ⟨c', _, hc⟩ := List.mem_flatMap.1 hc
  exact visible_renderChar c' c hc

theorem visible_renderScalar (j : Json) : Visible j.renderScalar := by
  cases j with
  | null => decide
  | bool b => cases b <;> decide
  | number n => exact n.visible_render
  | string s => exact visible_renderString s
  | array items => exact show Visible ['[', ']'] by decide
  | object members => exact show Visible ['\x7b', '\x7d'] by decide

mutual

theorem visible_render : (j : Json) → Visible j.render
  | .array [] => by rw [render]; decide
  | .array (j :: rest) => by
    rw [render, visible_append, visible_cons]
    exact ⟨⟨by decide, visible_render j⟩, visible_renderItems rest⟩
  | .object [] => by rw [render]; decide
  | .object ((k, j) :: rest) => by
    simp only [render, visible_append, visible_cons]
    exact ⟨⟨⟨by decide, visible_renderString k⟩, by decide, visible_render j⟩,
      visible_renderMembers rest⟩
  | .null => visible_renderScalar .null
  | .bool b => visible_renderScalar (.bool b)
  | .number n => visible_renderScalar (.number n)
  | .string s => visible_renderScalar (.string s)

theorem visible_renderItems : (items : List Json) → Visible (renderItems items)
  | [] => by rw [renderItems]; decide
  | j :: rest => by
    rw [renderItems, visible_append, visible_cons]
    exact ⟨⟨by decide, visible_render j⟩, visible_renderItems rest⟩

theorem visible_renderMembers :
    (members : List (String × Json)) → Visible (renderMembers members)
  | [] => by rw [renderMembers]; decide
  | (k, j) :: rest => by
    simp only [renderMembers, visible_append, visible_cons]
    exact ⟨⟨⟨by decide, visible_renderString k⟩, by decide, visible_render j⟩,
      visible_renderMembers rest⟩

end

end Json

/-! ## Bytes -/

/-- The bytes of a character that is no control character are none either. -/
theorem byte_utf8EncodeChar {c : Char} (h : 0x20 ≤ c.toNat) :
    ∀ b ∈ String.utf8EncodeChar c, 0x20 ≤ b.toNat := by
  have h : 0x20 ≤ c.val.toNat := h
  unfold String.utf8EncodeChar
  dsimp only
  repeat' split
  all_goals
    simp only [List.forall_mem_cons, List.not_mem_nil, false_implies, implies_true, and_true,
      UInt8.toNat_ofNat']
    omega

theorem byte_encodeChars {cs : List Char} (h : Visible cs) :
    ∀ b ∈ encodeChars cs, 0x20 ≤ b.toNat := by
  intro b hb
  obtain ⟨c, mem, hb⟩ := List.mem_flatMap.1 hb
  exact byte_utf8EncodeChar (h c mem) b hb

theorem Json.byte_encode_compact (j : Json) : ∀ b ∈ encode j.compact, 0x20 ≤ b.toNat := by
  rw [encode, compact, String.toList_ofList]
  exact byte_encodeChars j.visible_render

end Signoff
