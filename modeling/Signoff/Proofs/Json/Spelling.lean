import Signoff.Json.Cursor
import Signoff.Json.Printer
import Signoff.Proofs.Json.Numerals
import Signoff.Proofs.Json.Shape

/-!
# How values are spelled

`Json.Spells` says that characters are the text of a value, with any white space between the tokens
inside it. Strings are escaped and numbers are printed in the one way that the printer has, so what
is left open is only where lines end.

* `spells_render`, `spells_renderPretty`: the compact and the pretty text of a value spell it.
* `Spells.opens`: what the text of a value begins with.
* `Ends`: what may stand behind the text of a value.
-/

namespace Signoff.Json

/-- White space between tokens, or nothing. -/
def Gap (cs : List Char) : Prop := ∀ c ∈ cs, Cursor.isSpace c = true

/-- What stands before an item or a member: a gap, with a comma in it unless it is the first. -/
def Separates (first : Bool) (cs : List Char) : Prop :=
  if first then Gap cs else ∃ gap gap', Gap gap ∧ Gap gap' ∧ cs = gap ++ ',' :: gap'

mutual

/-- The characters spell the value. -/
def Spells : Json → List Char → Prop
  | .array items, cs => ∃ inner, SpellsItems true items inner ∧ cs = '[' :: inner
  | .object members, cs => ∃ inner, SpellsMembers true members inner ∧ cs = '\x7b' :: inner
  | j, cs => cs = renderScalar j

/-- The characters spell items, of which the first may begin a list, and the end of their list. -/
def SpellsItems : (first : Bool) → List Json → List Char → Prop
  | _, [], cs => ∃ gap, Gap gap ∧ cs = gap ++ [']']
  | first, j :: rest, cs => ∃ before item others, Separates first before ∧ Spells j item ∧
      SpellsItems false rest others ∧ cs = before ++ (item ++ others)

/-- The characters spell members, of which the first may begin an object, and the end of their
object. -/
def SpellsMembers : (first : Bool) → List (String × Json) → List Char → Prop
  | _, [], cs => ∃ gap, Gap gap ∧ cs = gap ++ ['\x7d']
  | first, (key, j) :: rest, cs => ∃ before gap gap' value others, Separates first before ∧
      Gap gap ∧ Gap gap' ∧ Spells j value ∧ SpellsMembers false rest others ∧
      cs = before ++ (renderString key ++ (gap ++ ':' :: (gap' ++ (value ++ others))))

end

/-- A value without inner values is spelled in one way. -/
theorem spells_scalar {j : Json} (h : j.isScalar = true) {cs : List Char} :
    Spells j cs ↔ cs = renderScalar j := by
  cases j with
  | array | object => cases h
  | _ => rfl

/-! ## Gaps -/

theorem Gap.nil : Gap [] := fun _ h => absurd h List.not_mem_nil

/-- A list may end at once. -/
theorem spellsItems_end (first : Bool) : SpellsItems first [] [']'] := by
  rw [SpellsItems]
  exact ⟨[], .nil, rfl⟩

/-- So may an object. -/
theorem spellsMembers_end (first : Bool) : SpellsMembers first [] ['\x7d'] := by
  rw [SpellsMembers]
  exact ⟨[], .nil, rfl⟩

theorem gap_newLine (level : Nat) : Gap (newLine level) := by
  intro c hc
  rcases List.mem_cons.1 hc with rfl | hc
  · rfl
  · rw [List.eq_of_mem_replicate hc]
    rfl

theorem gap_space : Gap [' '] := by
  intro c hc
  rw [List.mem_singleton.1 hc]
  rfl

theorem separates_first {gap : List Char} (h : Gap gap) : Separates true gap := h

theorem separates_comma {gap : List Char} (h : Gap gap) : Separates false (',' :: gap) :=
  ⟨[], gap, .nil, h, rfl⟩

/-! ## Compact text -/

theorem render_scalar {j : Json} (h : j.isScalar = true) : j.render = renderScalar j := by
  cases j with
  | array | object => cases h
  | _ => rfl

mutual

theorem spells_render : (j : Json) → Spells j j.render
  | .array [] => by
    rw [Spells]
    exact ⟨[']'], spellsItems_end true, by rw [render]⟩
  | .array (j :: rest) => by
    rw [Spells]
    refine ⟨[] ++ (j.render ++ renderItems rest), ?_, by rw [render]; simp⟩
    rw [SpellsItems]
    exact ⟨_, _, _, separates_first .nil, spells_render j, spells_renderItems rest, rfl⟩
  | .object [] => by
    rw [Spells]
    exact ⟨['\x7d'], spellsMembers_end true, by rw [render]⟩
  | .object ((key, j) :: rest) => by
    rw [Spells]
    refine ⟨[] ++ (renderString key ++ ([] ++ ':' :: ([] ++ (j.render ++ renderMembers rest)))),
      ?_, by rw [render]; simp⟩
    rw [SpellsMembers]
    exact ⟨_, _, _, _, _, separates_first .nil, .nil, .nil, spells_render j,
      spells_renderMembers rest, rfl⟩
  | .null => (spells_scalar rfl).2 (render_scalar rfl)
  | .bool _ => (spells_scalar rfl).2 (render_scalar rfl)
  | .number _ => (spells_scalar rfl).2 (render_scalar rfl)
  | .string _ => (spells_scalar rfl).2 (render_scalar rfl)

theorem spells_renderItems : (items : List Json) → SpellsItems false items (renderItems items)
  | [] => by
    rw [SpellsItems, renderItems]
    exact ⟨[], .nil, rfl⟩
  | j :: rest => by
    rw [SpellsItems, renderItems]
    exact ⟨_, _, _, separates_comma .nil, spells_render j, spells_renderItems rest, by simp⟩

theorem spells_renderMembers :
    (members : List (String × Json)) → SpellsMembers false members (renderMembers members)
  | [] => by
    rw [SpellsMembers, renderMembers]
    exact ⟨[], .nil, rfl⟩
  | (key, j) :: rest => by
    rw [SpellsMembers, renderMembers]
    exact ⟨_, [], [], _, _, separates_comma .nil, .nil, .nil, spells_render j,
      spells_renderMembers rest, by simp⟩

end

/-! ## Pretty text -/

theorem renderPretty_scalar {j : Json} (h : j.isScalar = true) (level : Nat) :
    renderPretty level j = renderScalar j := by
  cases j with
  | array | object => cases h
  | _ => rfl

mutual

theorem spells_renderPretty (level : Nat) : (j : Json) → Spells j (renderPretty level j)
  | .array [] => by
    rw [Spells]
    exact ⟨[']'], spellsItems_end true, by rw [renderPretty]⟩
  | .array (j :: rest) => by
    rw [Spells]
    refine ⟨newLine (level + 1) ++ (renderPretty (level + 1) j ++ renderPrettyItems level rest),
      ?_, by rw [renderPretty]; simp⟩
    rw [SpellsItems]
    exact ⟨_, _, _, separates_first (gap_newLine _), spells_renderPretty (level + 1) j,
      spells_renderPrettyItems level rest, rfl⟩
  | .object [] => by
    rw [Spells]
    exact ⟨['\x7d'], spellsMembers_end true, by rw [renderPretty]⟩
  | .object ((key, j) :: rest) => by
    rw [Spells]
    refine ⟨newLine (level + 1) ++ (renderString key ++ ([] ++ ':' :: ([' '] ++
      (renderPretty (level + 1) j ++ renderPrettyMembers level rest)))), ?_,
      by rw [renderPretty]; simp⟩
    rw [SpellsMembers]
    exact ⟨_, _, _, _, _, separates_first (gap_newLine _), .nil, gap_space,
      spells_renderPretty (level + 1) j, spells_renderPrettyMembers level rest, rfl⟩
  | .null => (spells_scalar rfl).2 (renderPretty_scalar rfl level)
  | .bool _ => (spells_scalar rfl).2 (renderPretty_scalar rfl level)
  | .number _ => (spells_scalar rfl).2 (renderPretty_scalar rfl level)
  | .string _ => (spells_scalar rfl).2 (renderPretty_scalar rfl level)

theorem spells_renderPrettyItems (level : Nat) :
    (items : List Json) → SpellsItems false items (renderPrettyItems level items)
  | [] => by
    rw [SpellsItems, renderPrettyItems]
    exact ⟨newLine level, gap_newLine _, rfl⟩
  | j :: rest => by
    rw [SpellsItems, renderPrettyItems]
    exact ⟨_, _, _, separates_comma (gap_newLine (level + 1)), spells_renderPretty (level + 1) j,
      spells_renderPrettyItems level rest, by simp⟩

theorem spells_renderPrettyMembers (level : Nat) :
    (members : List (String × Json)) →
      SpellsMembers false members (renderPrettyMembers level members)
  | [] => by
    rw [SpellsMembers, renderPrettyMembers]
    exact ⟨newLine level, gap_newLine _, rfl⟩
  | (key, j) :: rest => by
    rw [SpellsMembers, renderPrettyMembers]
    exact ⟨_, [], [' '], _, _, separates_comma (gap_newLine (level + 1)), .nil, gap_space,
      spells_renderPretty (level + 1) j, spells_renderPrettyMembers level rest, by simp⟩

end

/-! ## Where texts begin and end -/

/-- The character begins no gap and ends or goes on with no list or object. -/
structure Begins (c : Char) : Prop where
  noSpace : Cursor.isSpace c = false
  noComma : c ≠ ','
  noBracket : c ≠ ']'
  noBrace : c ≠ '\x7d'

instance (c : Char) : Decidable (Begins c) :=
  decidable_of_iff (Cursor.isSpace c = false ∧ c ≠ ',' ∧ c ≠ ']' ∧ c ≠ '\x7d')
    ⟨fun ⟨a, b, c, d⟩ => ⟨a, b, c, d⟩, fun ⟨a, b, c, d⟩ => ⟨a, b, c, d⟩⟩

/-- The characters may stand behind the text of a value. -/
def Ends (cs : List Char) : Prop :=
  ∀ c, cs.head? = some c → Cursor.isSpace c = true ∨ c = ',' ∨ c = ']' ∨ c = '\x7d'

theorem Ends.nil : Ends [] := fun _ h => nomatch h

theorem ends_gap {gap cs : List Char} (h : Gap gap) (ends : Ends cs) : Ends (gap ++ cs) := by
  cases gap with
  | nil => exact ends
  | cons c gap =>
    intro c' hc
    obtain rfl := Option.some.inj hc
    exact .inl (h c List.mem_cons_self)

theorem ends_separates {before cs : List Char} (h : Separates false before) :
    Ends (before ++ cs) := by
  obtain ⟨gap, gap', hg, -, rfl⟩ := h
  rw [List.append_assoc]
  refine ends_gap hg fun c hc => ?_
  obtain rfl := Option.some.inj hc
  exact .inr (.inl rfl)

theorem SpellsItems.ends {items : List Json} {cs : List Char} (h : SpellsItems false items cs)
    (rest : List Char) : Ends (cs ++ rest) := by
  cases items with
  | nil =>
    rw [SpellsItems] at h
    obtain ⟨gap, hg, rfl⟩ := h
    rw [List.append_assoc]
    refine ends_gap hg fun c hc => ?_
    obtain rfl := Option.some.inj hc
    exact .inr (.inr (.inl rfl))
  | cons j items =>
    rw [SpellsItems] at h
    obtain ⟨before, item, others, sep, -, -, rfl⟩ := h
    rw [List.append_assoc]
    exact ends_separates sep

theorem SpellsMembers.ends {members : List (String × Json)} {cs : List Char}
    (h : SpellsMembers false members cs) (rest : List Char) : Ends (cs ++ rest) := by
  cases members with
  | nil =>
    rw [SpellsMembers] at h
    obtain ⟨gap, hg, rfl⟩ := h
    rw [List.append_assoc]
    refine ends_gap hg fun c hc => ?_
    obtain rfl := Option.some.inj hc
    exact .inr (.inr (.inr rfl))
  | cons x members =>
    obtain ⟨key, j⟩ := x
    rw [SpellsMembers] at h
    obtain ⟨before, _, _, _, _, sep, -, -, -, -, rfl⟩ := h
    rw [List.append_assoc]
    exact ends_separates sep

/-- A digit is none of the characters that stand for something else in a text. -/
theorem begins_digit {c : Char} (h : c.isDigit = true) : Begins c := by
  refine ⟨?_, ?_, ?_, ?_⟩
  · rw [← Bool.not_eq_true]
    intro space
    simp only [Cursor.isSpace, Bool.or_eq_true, beq_iff_eq] at space
    rcases space with ((rfl | rfl) | rfl) | rfl <;> revert h <;> decide
  all_goals
    rintro rfl
    revert h
    decide

/-- The character that the text of a value begins with. -/
def Opens : Json → Char → Prop
  | .null, c => c = 'n'
  | .bool true, c => c = 't'
  | .bool false, c => c = 'f'
  | .number _, c => c = '-' ∨ c.isDigit = true
  | .string _, c => c = '"'
  | .array _, c => c = '['
  | .object _, c => c = '\x7b'

theorem begins_number {c : Char} (h : c = '-' ∨ c.isDigit = true) : Begins c := by
  rcases h with rfl | digit
  · decide
  · exact begins_digit digit

theorem Opens.begins {j : Json} {c : Char} (h : j.Opens c) : Begins c := by
  rcases j with _ | (_ | _) | _ | _ | _ | _
  case number => exact begins_number h
  all_goals
    obtain rfl : c = _ := h
    decide

/-- Only null begins as its word does. -/
theorem Opens.ne_n {j : Json} {c : Char} (h : j.Opens c) (some_ : j ≠ .null) : c ≠ 'n' := by
  rcases j with _ | (_ | _) | _ | _ | _ | _
  case null => exact absurd rfl some_
  case number =>
    rcases h with rfl | digit
    · decide
    · rintro rfl
      revert digit
      decide
  all_goals
    obtain rfl : c = _ := h
    decide

/-- Only a string begins with a quote. -/
theorem Opens.eq_string {j : Json} (h : j.Opens '"') : ∃ s, j = .string s := by
  rcases j with _ | (_ | _) | _ | s | _ | _
  case string => exact ⟨s, rfl⟩
  all_goals simp [Opens] at h

/-- Only a list begins with a bracket. -/
theorem Opens.eq_array {j : Json} (h : j.Opens '[') : ∃ items, j = .array items := by
  rcases j with _ | (_ | _) | _ | _ | items | _
  case array => exact ⟨items, rfl⟩
  all_goals simp [Opens] at h

/-- Only an object begins with a brace. -/
theorem Opens.eq_object {j : Json} (h : j.Opens '\x7b') : ∃ members, j = .object members := by
  rcases j with _ | (_ | _) | _ | _ | _ | members
  case object => exact ⟨members, rfl⟩
  all_goals simp [Opens] at h

/-- Only a boolean begins as the words for the booleans do. -/
theorem Opens.eq_bool {j : Json} {c : Char} (h : j.Opens c) (word : c = 't' ∨ c = 'f') :
    ∃ b, j = .bool b := by
  rcases j with _ | b | _ | _ | _ | _
  case bool => exact ⟨b, rfl⟩
  all_goals rcases word with rfl | rfl <;> simp [Opens] at h

/-- What the text of a value begins with. -/
theorem Spells.opens {j : Json} {cs : List Char} (h : Spells j cs) :
    ∃ c rest, cs = c :: rest ∧ j.Opens c := by
  cases j with
  | null => exact ⟨_, _, (spells_scalar rfl).1 h, rfl⟩
  | bool b => cases b <;> exact ⟨_, _, (spells_scalar rfl).1 h, rfl⟩
  | number n =>
    obtain ⟨c, rest, eq, opens⟩ := (numeral_render n).eq_cons
    exact ⟨c, rest, ((spells_scalar rfl).1 h).trans eq, opens⟩
  | string s => exact ⟨_, _, (spells_scalar rfl).1 h, rfl⟩
  | array items =>
    rw [Spells] at h
    obtain ⟨inner, -, rfl⟩ := h
    exact ⟨_, _, rfl, rfl⟩
  | object members =>
    rw [Spells] at h
    obtain ⟨inner, -, rfl⟩ := h
    exact ⟨_, _, rfl, rfl⟩

/-- There is a character for every item and one for the end of the list. -/
theorem SpellsItems.length_lt {first : Bool} {items : List Json} {cs : List Char}
    (h : SpellsItems first items cs) : items.length < cs.length := by
  induction items generalizing first cs with
  | nil =>
    rw [SpellsItems] at h
    obtain ⟨gap, -, rfl⟩ := h
    simp
  | cons j items ih =>
    rw [SpellsItems] at h
    obtain ⟨before, item, others, -, here, there, rfl⟩ := h
    obtain ⟨c, rest, rfl, -⟩ := here.opens
    have := ih there
    simp only [List.length_append, List.length_cons]
    omega

/-- There is a character for every member and one for the end of the object. -/
theorem SpellsMembers.length_lt {first : Bool} {members : List (String × Json)} {cs : List Char}
    (h : SpellsMembers first members cs) : members.length < cs.length := by
  induction members generalizing first cs with
  | nil =>
    rw [SpellsMembers] at h
    obtain ⟨gap, -, rfl⟩ := h
    simp
  | cons x members ih =>
    obtain ⟨key, j⟩ := x
    rw [SpellsMembers] at h
    obtain ⟨before, gap, gap', value, others, -, -, -, -, there, rfl⟩ := h
    have := ih there
    simp only [List.length_append, List.length_cons]
    omega

end Signoff.Json
