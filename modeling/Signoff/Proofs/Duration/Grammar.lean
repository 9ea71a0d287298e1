import Mathlib.Algebra.Group.Nat.Defs
import Signoff.Duration.Parser

/-!
# The grammar of durations

Which texts are durations, and how long each of them is, said without reading them: an optional `+`
and then a lone `0` or components, each a number with a unit (`Duration.Spells`). A text is as long
as its components together.

The characters of numbers and those of units differ, so a text falls into numbers and units in one
way only (`cut_unique`), and it has one length (`Spells.unique`).
-/

namespace Signoff.Duration

variable {cs rest rest' number whole fraction : List Char} {n m : Nat}

/-! ## What is a duration -/

/-- The names of the units and their lengths. -/
def units : List (String × Nat) :=
  [("ns", 1), ("us", 1000), ("\u00b5s", 1000), ("\u03bcs", 1000), ("ms", 1000000),
    ("s", 1000000000), ("m", 60000000000), ("h", 3600000000000)]

/-- There are only decimal digits. -/
def Digits (cs : List Char) : Prop := ∀ c ∈ cs, c.isDigit = true

/-- A number, with its digits before the point and those after it: it has a digit before its point,
or it begins with the point and has a digit after it. -/
inductive Numeral : List Char → List Char → List Char → Prop
  | whole {ds : List Char} (some_ : ds ≠ []) (digits : Digits ds) : Numeral ds ds []
  | decimal {ds fs : List Char} (some_ : ds ≠ []) (digits : Digits ds) (places : Digits fs) :
    Numeral (ds ++ '.' :: fs) ds fs
  | fraction {fs : List Char} (some_ : fs ≠ []) (places : Digits fs) : Numeral ('.' :: fs) [] fs

/-- The digits before and after the point as a part of a unit, rounded down. Only the first 18
digits after the point count. -/
def amount (whole fraction : List Char) (length : Nat) : Nat :=
  Nat.ofDigitChars 10 whole 0 * length +
    Nat.ofDigitChars 10 (fraction.take 18) 0 * length / 10 ^ (fraction.take 18).length

/-- A number with a unit. -/
inductive Component : List Char → Nat → Prop
  | intro {number whole fraction : List Char} {unit : String} {length : Nat}
    (numeral : Numeral number whole fraction) (named : (unit, length) ∈ units) :
    Component (number ++ unit.toList) (amount whole fraction length)

/-- Components one after the other. -/
inductive Components : List Char → Nat → Prop
  | nil : Components [] 0
  | cons {cs rest : List Char} {n m : Nat} (first : Component cs n) (more : Components rest m) :
    Components (cs ++ rest) (n + m)

/-- A lone zero, or at least one component. -/
inductive Unsigned : List Char → Nat → Prop
  | zero : Unsigned ['0'] 0
  | components {cs rest : List Char} {n m : Nat} (first : Component cs n)
    (more : Components rest m) : Unsigned (cs ++ rest) (n + m)

/-- The characters are a duration of so many nanoseconds. -/
inductive Spells : List Char → Nat → Prop
  | plain {cs : List Char} {n : Nat} (h : Unsigned cs n) : Spells cs n
  | plus {cs : List Char} {n : Nat} (h : Unsigned cs n) : Spells ('+' :: cs) n

/-! ## Cutting a text -/

/-- The text is over, or a character follows that is not of this kind. -/
def Stops (p : Char → Bool) (rest : List Char) : Prop := ∀ c, rest.head? = some c → p c = false

section

variable {p : Char → Bool} {xs ys : List Char}

theorem stops_nil : Stops p [] := nofun

theorem stops_cons {c : Char} (h : p c = false) : Stops p (c :: rest) := fun _ first =>
  Option.some.inj first ▸ h

theorem takeWhile_of_stops (all : ∀ c ∈ xs, p c = true) (stops : Stops p rest) :
    (xs ++ rest).takeWhile p = xs := by
  rw [List.takeWhile_append_of_pos all]
  cases rest with
  | nil => exact List.append_nil xs
  | cons c rest => rw [List.takeWhile_cons_of_neg (by simp [stops c rfl]), List.append_nil]

theorem dropWhile_of_stops (all : ∀ c ∈ xs, p c = true) (stops : Stops p rest) :
    (xs ++ rest).dropWhile p = rest := by
  rw [List.dropWhile_append_of_pos all]
  cases rest with
  | nil => rfl
  | cons c rest => exact List.dropWhile_cons_of_neg (by simp [stops c rfl])

/-- A text is cut in one way where a kind of characters ends. -/
theorem cut_unique (all : ∀ c ∈ xs, p c = true) (stops : Stops p rest)
    (all' : ∀ c ∈ ys, p c = true) (stops' : Stops p rest') (same : xs ++ rest = ys ++ rest') :
    xs = ys ∧ rest = rest' := by
  constructor
  · rw [← takeWhile_of_stops all stops, same, takeWhile_of_stops all' stops']
  · rw [← dropWhile_of_stops all stops, same, dropWhile_of_stops all' stops']

end

/-! ## Units -/

/-- The units that are looked up are those with a name. -/
theorem unit?_eq_some_iff {name : String} {length : Nat} :
    unit? name = some length ↔ (name, length) ∈ units := by
  unfold unit? units
  split <;> simp_all [microsecond, millisecond, second, minute, hour, eq_comm]

theorem unitChars_of_mem {name : String} {length : Nat} (named : (name, length) ∈ units) :
    ∀ c ∈ name.toList, isUnitChar c = true := by
  have all : (units.all fun x => x.1.toList.all isUnitChar) = true := by decide
  exact List.all_eq_true.1 (List.all_eq_true.1 all _ named)

theorem toList_ne_nil_of_mem {name : String} {length : Nat} (named : (name, length) ∈ units) :
    name.toList ≠ [] := by
  have all : ∀ x ∈ units, x.1.toList ≠ [] := by decide
  exact all _ named

theorem length_pos_of_mem {name : String} {length : Nat} (named : (name, length) ∈ units) :
    0 < length := by
  have all : ∀ x ∈ units, 0 < x.2 := by decide
  exact all _ named

/-! ## Numbers -/

theorem isUnitChar_of_isDigit {c : Char} (h : c.isDigit = true) : isUnitChar c = false := by
  simp [isUnitChar, h]

theorem isDigit_of_isUnitChar {c : Char} (h : isUnitChar c = true) : c.isDigit = false := by
  simp only [isUnitChar, Bool.and_eq_true, Bool.not_eq_true'] at h
  exact h.2

/-- What stands after the digits of a number: nothing, or a point and more digits. -/
inductive Point : List Char → List Char → Prop
  | none : Point [] []
  | some {fs : List Char} (places : Digits fs) : Point ('.' :: fs) fs

/-- A number is digits and what stands after them, with a digit on one side at least. -/
theorem numeral_iff : Numeral number whole fraction ↔
    ∃ after, number = whole ++ after ∧ Digits whole ∧ Point after fraction ∧
      (whole ≠ [] ∨ fraction ≠ []) := by
  constructor
  · intro h
    cases h with
    | whole some_ digits => exact ⟨[], by simp, digits, .none, .inl some_⟩
    | decimal some_ digits places => exact ⟨_, rfl, digits, .some places, .inl some_⟩
    | fraction some_ places => exact ⟨_, rfl, nofun, .some places, .inr some_⟩
  · rintro ⟨after, rfl, digits, point, some_⟩
    cases point with
    | none =>
      rw [List.append_nil]
      exact .whole (some_.resolve_right fun h => h rfl) digits
    | some places =>
      by_cases leading : whole = []
      · subst leading
        exact .fraction (some_.resolve_left fun h => h rfl) places
      · exact .decimal leading digits places

theorem Point.stops {after : List Char} (h : Point after fraction)
    (stops : Stops Char.isDigit rest) : Stops Char.isDigit (after ++ rest) := by
  cases h with
  | none => exact stops
  | some => exact stops_cons rfl

/-- No character of a number belongs to a unit. -/
theorem Numeral.noUnitChars (h : Numeral number whole fraction) :
    ∀ c ∈ number, isUnitChar c = false := by
  obtain ⟨after, rfl, digits, point, -⟩ := numeral_iff.1 h
  intro c hc
  rcases List.mem_append.1 hc with hc | hc
  · exact isUnitChar_of_isDigit (digits c hc)
  · cases point with
    | none => cases hc
    | some places =>
      rcases List.mem_cons.1 hc with rfl | hc
      · rfl
      · exact isUnitChar_of_isDigit (places c hc)

theorem Numeral.ne_nil (h : Numeral number whole fraction) : number ≠ [] := by
  cases h with
  | whole some_ => exact some_
  | decimal some_ => simp
  | fraction some_ => simp

/-- The digits of a number are told by the number. -/
theorem Numeral.unique {whole' fraction' : List Char} (h : Numeral number whole fraction)
    (h' : Numeral number whole' fraction') : whole = whole' ∧ fraction = fraction' := by
  have stops {after fraction : List Char} (point : Point after fraction) :
      Stops Char.isDigit after := by
    simpa using point.stops stops_nil
  obtain ⟨after, rfl, digits, point, -⟩ := numeral_iff.1 h
  obtain ⟨after', same, digits', point', -⟩ := numeral_iff.1 h'
  obtain ⟨rfl, rfl⟩ := cut_unique digits (stops point) digits' (stops point') same
  cases point <;> cases point' <;> exact ⟨rfl, rfl⟩

/-! ## Components -/

theorem Component.begins (h : Component cs n) :
    ∃ c c' tail, cs = c :: c' :: tail ∧ isUnitChar c = false := by
  obtain ⟨numeral, named⟩ := h
  rename_i number whole fraction unit length
  obtain ⟨c, number', rfl⟩ := List.exists_cons_of_ne_nil numeral.ne_nil
  obtain ⟨c', tail, more⟩ : ∃ c' tail, number' ++ unit.toList = c' :: tail :=
    List.exists_cons_of_ne_nil fun nil =>
      toList_ne_nil_of_mem named (List.append_eq_nil_iff.1 nil).2
  exact ⟨c, c', tail, by rw [List.cons_append, more], numeral.noUnitChars c List.mem_cons_self⟩

/-- Where components go on no unit does. -/
theorem Components.stops (h : Components cs n) : Stops isUnitChar cs := by
  cases h with
  | nil => exact stops_nil
  | cons first more =>
    obtain ⟨c, c', tail, rfl, number⟩ := first.begins
    exact stops_cons number

theorem Components.append {cs cs' : List Char} {n n' : Nat} (h : Components cs n)
    (h' : Components cs' n') : Components (cs ++ cs') (n + n') := by
  induction h with
  | nil => rwa [List.nil_append, Nat.zero_add]
  | cons first _ ih =>
    rw [List.append_assoc, Nat.add_assoc]
    exact .cons first ih

/-- What a component is spelled with tells its length, and where it ends. -/
theorem Component.unique {cs' : List Char} (h : Component cs n) (h' : Component cs' m)
    (stops : Stops isUnitChar rest) (stops' : Stops isUnitChar rest')
    (same : cs ++ rest = cs' ++ rest') : n = m ∧ rest = rest' := by
  obtain ⟨numeral, named⟩ := h
  obtain ⟨numeral', named'⟩ := h'
  have inNumber {number whole fraction : List Char} (h : Numeral number whole fraction) :
      ∀ c ∈ number, (!isUnitChar c) = true := fun c hc => by rw [h.noUnitChars c hc]; rfl
  have atUnit {name : String} {length : Nat} (named : (name, length) ∈ units) (rest : List Char) :
      Stops (fun c => !isUnitChar c) (name.toList ++ rest) := by
    obtain ⟨c, tail, spelled⟩ := List.exists_cons_of_ne_nil (toList_ne_nil_of_mem named)
    have unit := unitChars_of_mem named c (by rw [spelled]; exact List.mem_cons_self)
    rw [spelled]
    exact stops_cons (by rw [unit]; rfl)
  rw [List.append_assoc, List.append_assoc] at same
  obtain ⟨rfl, sameUnit⟩ :=
    cut_unique (inNumber numeral) (atUnit named _) (inNumber numeral') (atUnit named' _) same
  obtain ⟨spelled, rfl⟩ :=
    cut_unique (unitChars_of_mem named) stops (unitChars_of_mem named') stops' sameUnit
  obtain rfl := String.toList_inj.1 spelled
  obtain ⟨rfl, rfl⟩ := numeral.unique numeral'
  obtain rfl := Option.some.inj
    ((unit?_eq_some_iff.2 named).symm.trans (unit?_eq_some_iff.2 named'))
  exact ⟨rfl, rfl⟩

/-- Components are as long as their characters say. -/
theorem Components.unique (h : Components cs n) (h' : Components cs m) : n = m := by
  induction h generalizing m with
  | nil =>
    generalize none_ : ([] : List Char) = cs at h'
    cases h' with
    | nil => rfl
    | cons first' =>
      obtain ⟨c, c', tail, rfl, -⟩ := first'.begins
      cases none_
  | @cons cs₁ rest n₁ m₁ first more ih =>
    generalize same : cs₁ ++ rest = cs at h'
    cases h' with
    | nil =>
      obtain ⟨c, c', tail, rfl, -⟩ := first.begins
      cases same
    | cons first' more' =>
      obtain ⟨rfl, rfl⟩ := first.unique first' more.stops more'.stops same
      rw [ih more']

/-! ## Texts -/

/-- Components that take some time are at least one. -/
theorem Components.unsigned (h : Components cs n) (some_ : n ≠ 0) : Unsigned cs n := by
  cases h with
  | nil => exact absurd rfl some_
  | cons first more => exact .components first more

/-- A component alone. -/
theorem Component.unsigned (h : Component cs n) : Unsigned cs n := by
  have alone := Unsigned.components h .nil
  rwa [List.append_nil] at alone

theorem Unsigned.begins (h : Unsigned cs n) : ∃ c tail, cs = c :: tail ∧ isUnitChar c = false := by
  cases h with
  | zero => exact ⟨'0', [], rfl, rfl⟩
  | components first more =>
    obtain ⟨c, c', tail, rfl, number⟩ := first.begins
    exact ⟨c, _, rfl, number⟩

theorem Unsigned.zero_or_components (h : Unsigned cs n) : cs = ['0'] ∧ n = 0 ∨
    (∃ c c' tail, cs = c :: c' :: tail) ∧ Components cs n := by
  cases h with
  | zero => exact .inl ⟨rfl, rfl⟩
  | components first more =>
    refine .inr ⟨?_, .cons first more⟩
    obtain ⟨c, c', tail, rfl, -⟩ := first.begins
    exact ⟨c, c', _, rfl⟩

/-- A text has one length. -/
theorem Spells.unique (h : Spells cs n) (h' : Spells cs m) : n = m := by
  have alone {cs : List Char} {n m : Nat} (h : Unsigned cs n) (h' : Unsigned cs m) : n = m := by
    rcases h.zero_or_components with ⟨rfl, rfl⟩ | ⟨⟨c, c', tail, rfl⟩, more⟩
    · rcases h'.zero_or_components with ⟨-, rfl⟩ | ⟨⟨_, _, _, eq⟩, -⟩
      · rfl
      · cases eq
    · rcases h'.zero_or_components with ⟨eq, -⟩ | ⟨-, more'⟩
      · cases eq
      · exact more.unique more'
  cases h with
  | plain h =>
    cases h' with
    | plain h' => exact alone h h'
    | plus h' =>
      obtain ⟨c, tail, eq, number⟩ := h.begins
      cases eq
      cases number
  | plus h =>
    cases h' with
    | plain h' =>
      obtain ⟨c, tail, eq, number⟩ := h'.begins
      cases eq
      cases number
    | plus h' => exact alone h h'

end Signoff.Duration
