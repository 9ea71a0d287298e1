import Signoff.Json.Reader
import Signoff.Proofs.Json.Spelling
import Signoff.Proofs.Reader

/-!
# Reading the parts of a text

What the readers of white space, words, strings and numbers take from a text without stray bytes.
Positions are left out: they only tell where an error is.

* `reads_peekToken`: white space is passed.
* `reads_readString`: a printed string is read as what it was printed from.
* `reads_readNumber`: so is an integer that 64 bits hold.
* `reads_skipString`, `reads_skipNumber`: strings and numbers that are not kept are passed.
-/

namespace Signoff.Json

/-- The reader takes characters and gives what they say. -/
abbrev Reads {α : Type} (r : Reader α) (before : List Char) (a : α) (after : List Char) : Prop :=
  Takes Cursor.rest r (Text.ofChars before) a (Text.ofChars after)

variable {α β : Type} {cs rest : List Char}

/-! ## Single characters -/

theorem reads_peek_cons (c : Char) (cs : List Char) :
    Reads peek (c :: cs) (some (some c)) (c :: cs) :=
  Takes.get_bind fun s hs => by
    rw [hs]
    exact Takes.pure _ _

theorem reads_peek_nil : Reads peek [] none [] :=
  Takes.get_bind fun s hs => by
    rw [hs]
    exact Takes.pure _ _

theorem reads_advance (c : Char) (cs : List Char) : Reads advance (c :: cs) ⟨⟩ cs :=
  Takes.modify fun s hs => by
    rw [Cursor.advance, show s.rest = some c :: Text.ofChars cs from hs]
    dsimp only
    split <;> rfl

theorem reads_readWord (word cs : List Char) : Reads (readWord word) (word ++ cs) ⟨⟩ cs := by
  induction word with
  | nil => exact Takes.pure _ _
  | cons c word ih =>
    refine (reads_peek_cons c (word ++ cs)).bind ?_
    dsimp only
    rw [if_pos rfl]
    exact (reads_advance c _).bind ih

theorem reads_skip (before cs : List Char) : Reads (skip before.length) (before ++ cs) ⟨⟩ cs :=
  Takes.modify fun s hs => by
    rw [Cursor.skip, hs]
    simp [Text.ofChars]

/-! ## White space -/

theorem rest_skipSpaceFrom_gap {gap : List Char} (h : Gap gap) (line column : Nat) (text : Text) :
    (Cursor.skipSpaceFrom line column (Text.ofChars gap ++ text)).rest =
      (Cursor.skipSpaceFrom line column text).rest := by
  have rest_eq : ∀ (text : Text) (l c l' c' : Nat),
      (Cursor.skipSpaceFrom l c text).rest = (Cursor.skipSpaceFrom l' c' text).rest := by
    intro text
    induction text with
    | nil => exact fun _ _ _ _ => rfl
    | cons g text ih =>
      intro l c l' c'
      cases g with
      | none => rfl
      | some x =>
        rw [Cursor.skipSpaceFrom, Cursor.skipSpaceFrom]
        split
        · exact ih _ _ _ _
        · split
          · exact ih _ _ _ _
          · rfl
  induction gap generalizing line column with
  | nil => rfl
  | cons c gap ih =>
    have others := fun x hx => h x (List.mem_cons_of_mem c hx)
    show (Cursor.skipSpaceFrom line column (some c :: (Text.ofChars gap ++ text))).rest = _
    rw [Cursor.skipSpaceFrom]
    split
    · exact (ih others _ _).trans (rest_eq _ _ _ _ _)
    · rw [if_pos (h c List.mem_cons_self)]
      exact (ih others _ _).trans (rest_eq _ _ _ _ _)

theorem reads_skipSpace {gap : List Char} (h : Gap gap)
    (ends : ∀ c, cs.head? = some c → Cursor.isSpace c = false) :
    Reads (modify Cursor.skipSpace) (gap ++ cs) ⟨⟩ cs :=
  Takes.modify fun s hs => by
    rw [Cursor.skipSpace, hs, Text.ofChars, List.map_append]
    refine (rest_skipSpaceFrom_gap h _ _ _).trans ?_
    cases cs with
    | nil => rfl
    | cons c cs =>
      have no := ends c rfl
      have ne : c ≠ '\n' := by
        rintro rfl
        revert no
        decide
      rw [List.map_cons, Cursor.skipSpaceFrom, if_neg ne, no]
      rfl

/-- White space in front of a token is passed. -/
theorem reads_peekToken {gap : List Char} (h : Gap gap) {c : Char}
    (no : Cursor.isSpace c = false) (cs : List Char) :
    Reads peekToken (gap ++ c :: cs) (some (some c)) (c :: cs) :=
  (reads_skipSpace h fun c' hc => by
    obtain rfl := Option.some.inj hc
    exact no).bind (reads_peek_cons c cs)

/-- White space at the end of a text is passed. -/
theorem reads_peekToken_end {gap : List Char} (h : Gap gap) :
    Reads peekToken gap none [] := by
  have spaces : Reads (modify Cursor.skipSpace) (gap ++ []) ⟨⟩ [] :=
    reads_skipSpace h fun _ h => nomatch h
  rw [List.append_nil] at spaces
  exact spaces.bind reads_peek_nil

/-! ## Strings -/

theorem hexValue?_hexDigit : ∀ n < 16, hexValue? (some (hexDigit n)) = some n := by decide

/-- A control character is read from its code. -/
theorem reads_readHexCode {n : Nat} (h : n < 32) (cs : List Char) :
    Reads readHexCode ('0' :: '0' :: hexDigit (n / 16) :: hexDigit (n % 16) :: cs) n cs := by
  refine Takes.get_bind fun s hs => ?_
  have code : hexCode? s.rest = some n := by
    rw [hs]
    simp only [Text.ofChars, List.map_cons, hexCode?, show hexValue? (some '0') = some 0 by decide,
      hexValue?_hexDigit (n / 16) (by omega), hexValue?_hexDigit (n % 16) (by omega),
      Option.bind_eq_bind, Option.bind_some]
    exact congrArg some (by omega)
  rw [code]
  refine (Takes.set ?_).bind (Takes.pure _ _)
  rw [Cursor.skip, hs]
  rfl

/-- A character in a string stands for itself, or an escape stands for it. -/
theorem renderChar_eq (c : Char) :
    (c ≠ '"' ∧ c ≠ '\\' ∧ ¬ c.toNat < 0x20 ∧ renderChar c = [c]) ∨
      ∃ escape, renderChar c = '\\' :: escape ∧
        (∀ cs, Reads readEscape (escape ++ cs) c cs) ∧
        (∀ cs, Reads skipEscape (escape ++ cs) ⟨⟩ cs) := by
  have letter : ∀ {x y : Char}, x ≠ 'u' → escape? x = some y →
      (∀ cs, Reads readEscape ([x] ++ cs) y cs) ∧ (∀ cs, Reads skipEscape ([x] ++ cs) ⟨⟩ cs) := by
    intro x y ne eq
    have no : ¬ (some x : Glyph) = some 'u' := fun h => ne (Option.some.inj h)
    refine ⟨fun cs => (reads_peek_cons x cs).bind ?_, fun cs => (reads_peek_cons x cs).bind ?_⟩
    · simp only [if_neg no, Option.bind_some, eq]
      exact (reads_advance x cs).bind (Takes.pure _ _)
    · simp only [if_neg no, Option.bind_some, eq, Option.isSome_some, if_true]
      exact reads_advance x cs
  unfold renderChar
  split
  · rename_i h
    refine .inr ⟨[c], rfl, ?_⟩
    rcases h with rfl | rfl <;> exact letter (by decide) rfl
  rename_i plain
  split
  · exact .inl ⟨fun h => plain (.inl h), fun h => plain (.inr h), by omega, rfl⟩
  rename_i low
  split
  · subst c; exact .inr ⟨['b'], rfl, letter (by decide) rfl⟩
  split
  · subst c; exact .inr ⟨['t'], rfl, letter (by decide) rfl⟩
  split
  · subst c; exact .inr ⟨['n'], rfl, letter (by decide) rfl⟩
  split
  · subst c; exact .inr ⟨['f'], rfl, letter (by decide) rfl⟩
  split
  · subst c; exact .inr ⟨['r'], rfl, letter (by decide) rfl⟩
  have code := fun cs => reads_readHexCode (n := c.toNat) (by omega) cs
  refine .inr ⟨_, rfl, fun cs => (reads_peek_cons 'u' _).bind ?_,
    fun cs => (reads_peek_cons 'u' _).bind ?_⟩
  · dsimp only
    rw [if_pos rfl]
    refine (reads_advance 'u' _).bind ((code cs).bind ?_)
    rw [if_neg (by omega), if_neg (by omega), Char.ofNat_toNat]
    exact Takes.pure _ _
  · dsimp only
    rw [if_pos rfl]
    exact (reads_advance 'u' _).bind ((code cs).bind (Takes.pure _ _))

theorem reads_readStringFrom (s before : List Char) (bound : Text) (h : s.length < bound.length)
    (cs : List Char) :
    Reads (readStringFrom bound before none) (s.flatMap renderChar ++ '"' :: cs)
      (String.ofList (before.reverse ++ s)) cs := by
  induction s generalizing before bound with
  | nil =>
    cases bound with
    | nil => simp at h
    | cons g bound =>
      refine (reads_peek_cons '"' cs).bind ?_
      dsimp only
      rw [if_pos rfl, List.append_nil]
      exact Takes.get_bind fun s hs => (reads_advance '"' cs).bind (Takes.pure _ _)
  | cons c s ih =>
    cases bound with
    | nil => simp at h
    | cons g bound =>
      have others := ih (c :: before) bound (by simpa using h)
      rw [List.reverse_cons, List.append_assoc, List.singleton_append] at others
      rw [List.flatMap_cons, List.append_assoc]
      rcases renderChar_eq c with ⟨ne, ne', high, eq⟩ | ⟨escape, eq, reads, -⟩
      · rw [eq]
        refine (reads_peek_cons c _).bind ?_
        dsimp only
        rw [if_neg ne, if_neg ne', if_neg high]
        exact (reads_advance c _).bind others
      · rw [eq, List.cons_append]
        refine (reads_peek_cons '\\' _).bind ?_
        dsimp only
        rw [if_neg (by decide), if_pos rfl]
        exact (reads_advance '\\' _).bind ((reads _).bind others)

theorem length_le_flatMap_renderChar (s : List Char) :
    s.length ≤ (s.flatMap renderChar).length := by
  induction s with
  | nil => exact Nat.le_refl 0
  | cons c s ih =>
    have : 1 ≤ (renderChar c).length := by
      rcases renderChar_eq c with ⟨-, -, -, eq⟩ | ⟨escape, eq, -, -⟩ <;> rw [eq] <;> simp
    rw [List.flatMap_cons, List.length_append, List.length_cons]
    omega

/-- A printed string is read as what it was printed from. -/
theorem reads_readString (s : String) (cs : List Char) :
    Reads readString (s.toList.flatMap renderChar ++ '"' :: cs) s cs := by
  refine Takes.get_bind fun c hc => ?_
  have := reads_readStringFrom s.toList [] c.rest (by
    have := length_le_flatMap_renderChar s.toList
    rw [hc]
    simp only [Text.ofChars, List.length_map, List.length_append, List.length_cons]
    omega) cs
  rwa [List.reverse_nil, List.nil_append, String.ofList_toList] at this

theorem reads_skipStringFrom (s : List Char) (bound : Text) (h : s.length < bound.length)
    (cs : List Char) :
    Reads (skipStringFrom bound) (s.flatMap renderChar ++ '"' :: cs) ⟨⟩ cs := by
  induction s generalizing bound with
  | nil =>
    cases bound with
    | nil => simp at h
    | cons g bound =>
      refine (reads_peek_cons '"' cs).bind ?_
      dsimp only
      rw [if_pos rfl]
      exact reads_advance '"' cs
  | cons c s ih =>
    cases bound with
    | nil => simp at h
    | cons g bound =>
      have others := ih bound (by simpa using h)
      rw [List.flatMap_cons, List.append_assoc]
      rcases renderChar_eq c with ⟨ne, ne', high, eq⟩ | ⟨escape, eq, -, skips⟩
      · rw [eq]
        refine (reads_peek_cons c _).bind ?_
        dsimp only
        rw [if_neg ne, if_neg ne', if_neg high]
        exact (reads_advance c _).bind others
      · rw [eq, List.cons_append]
        refine (reads_peek_cons '\\' _).bind ?_
        dsimp only
        rw [if_neg (by decide), if_pos rfl]
        exact (reads_advance '\\' _).bind ((skips _).bind others)

theorem reads_skipString (s : String) (cs : List Char) :
    Reads skipString (s.toList.flatMap renderChar ++ '"' :: cs) ⟨⟩ cs := by
  refine Takes.get_bind fun c hc => reads_skipStringFrom s.toList c.rest ?_ cs
  have := length_le_flatMap_renderChar s.toList
  rw [hc]
  simp only [Text.ofChars, List.length_map, List.length_append, List.length_cons]
  omega

/-! ## Numbers -/

/-- Nothing that stands behind a value goes on with a number. -/
theorem Ends.noNumber (h : Ends cs) {c : Char} (head : cs.head? = some c) :
    c.isDigit = false ∧ c ≠ '.' ∧ c ≠ 'e' ∧ c ≠ 'E' := by
  rcases h c head with space | rfl | rfl | rfl
  · simp only [Cursor.isSpace, Bool.or_eq_true, beq_iff_eq] at space
    rcases space with ((rfl | rfl) | rfl) | rfl <;> decide
  all_goals decide

/-- No digit stands in front. -/
def NoDigit (cs : List Char) : Prop := ∀ c, cs.head? = some c → c.isDigit = false

theorem Ends.noDigit (h : Ends cs) : NoDigit cs := fun _ head => (h.noNumber head).1

theorem NoDigit.digit? {c : Char} (h : NoDigit (c :: cs)) :
    (digit? (some c)).isSome = false := by
  rw [Json.digit?, h c rfl]
  rfl

theorem reads_atDigit_end (h : NoDigit cs) : Reads atDigit cs false cs := by
  cases cs with
  | nil => exact reads_peek_nil.bind (Takes.pure _ _)
  | cons c cs =>
    have no := h.digit?
    refine (reads_peek_cons c cs).bind ?_
    dsimp only
    rw [no]
    exact Takes.pure _ _

theorem reads_atExponent_end (h : Ends cs) : Reads atExponent cs false cs := by
  cases cs with
  | nil => exact reads_peek_nil.bind (Takes.pure _ _)
  | cons c cs =>
    obtain ⟨-, -, low, high⟩ := h.noNumber rfl
    refine (reads_peek_cons c cs).bind ?_
    have no : (some (some c) == some (some 'e') || some (some c) == some (some 'E')) = false := by
      simp [low, high]
    rw [no]
    exact Takes.pure _ _

/-- Where there is no point, no fraction is read. -/
theorem reads_peek_noPoint (h : ∀ c, cs.head? = some c → c ≠ '.') {r r' : Reader α} {a : α}
    (reads : Reads r' cs a rest) :
    Reads (do if (← peek) == some (some '.') then r else r') cs a rest := by
  cases cs with
  | nil => exact reads_peek_nil.bind reads
  | cons c cs =>
    refine (reads_peek_cons c cs).bind ?_
    rw [if_neg (by simpa using h c rfl)]
    exact reads

theorem countDigits_end (h : NoDigit cs) : countDigits (Text.ofChars cs) = 0 := by
  cases cs with
  | nil => rfl
  | cons c cs => simp [countDigits, Text.ofChars, h.digit?]

theorem countDigits_digits {ds : List Char} (digits : Digits ds) (h : NoDigit cs) :
    countDigits (Text.ofChars (ds ++ cs)) = ds.length := by
  induction ds with
  | nil => exact countDigits_end h
  | cons c ds ih =>
    obtain ⟨here, others⟩ := List.forall_mem_cons.1 digits
    have := ih others
    have is_ : (digit? (some c)).isSome = true := by rw [digit?, here]; rfl
    simp only [countDigits, Text.ofChars, List.cons_append, List.map_cons, List.takeWhile_cons,
      is_, if_true, List.length_cons] at this ⊢
    omega

theorem takeDigits_digits {ds : List Char} (digits : Digits ds) (h : NoDigit cs) {limit : Nat}
    (n count : Nat) (small : Nat.ofDigitChars 10 ds n < limit) :
    takeDigits limit n count (Text.ofChars (ds ++ cs)) =
      (Nat.ofDigitChars 10 ds n, count + ds.length) := by
  induction ds generalizing n count with
  | nil =>
    cases cs with
    | nil => rfl
    | cons c cs =>
      simp only [List.nil_append, Text.ofChars, List.map_cons, takeDigits,
        Option.isNone_iff_eq_none.1 (Option.isSome_eq_false_iff.1 h.digit?)]
      rfl
  | cons c ds ih =>
    obtain ⟨here, others⟩ := List.forall_mem_cons.1 digits
    rw [Nat.ofDigitChars_cons] at small ⊢
    have fits := Nat.lt_of_le_of_lt (le_ofDigitChars ds _) small
    simp only [List.cons_append, Text.ofChars, List.map_cons, takeDigits, digit?, here, if_true,
      fits]
    refine (ih others _ _ small).trans ?_
    rw [List.length_cons, Nat.add_assoc, Nat.add_comm 1]

theorem reads_skipDigits {ds : List Char} (digits : Digits ds) (h : NoDigit cs) :
    Reads skipDigits (ds ++ cs) ds.length cs := by
  refine Takes.get_bind fun s hs => ?_
  rw [hs, countDigits_digits digits h]
  exact (reads_skip ds cs).bind (Takes.pure _ _)

theorem reads_readDigits {ds : List Char} (digits : Digits ds) (h : NoDigit cs)
    {limit : Nat} (small : Nat.ofDigitChars 10 ds 0 < limit) :
    Reads (readDigits limit 0) (ds ++ cs) (Nat.ofDigitChars 10 ds 0, ds.length) cs := by
  refine Takes.get_bind fun s hs => ?_
  rw [hs, takeDigits_digits digits h 0 0 small, Nat.zero_add]
  exact (reads_skip ds cs).bind (Takes.pure _ _)

theorem reads_readAfterWhole (h : Ends cs) (negative : Bool) (n : Nat) :
    Reads (readAfterWhole negative n 0) cs (Number.ofDigits negative n) cs := by
  refine reads_peek_noPoint (fun _ head => (h.noNumber head).2.1)
    ((reads_atExponent_end h).bind ?_)
  rw [if_neg (by decide), if_pos rfl]
  exact Takes.pure _ _

theorem reads_readUnsigned (h : Ends cs) (negative : Bool) {n : Nat}
    (small : n < significandLimit) :
    Reads (readUnsigned negative) (Nat.toDigits 10 n ++ cs) (Number.ofDigits negative n) cs := by
  by_cases zero : n = 0
  · subst zero
    refine (reads_peek_cons '0' cs).bind ?_
    show Reads (skip 1 >>= _) _ _ _
    refine (reads_skip ['0'] cs).bind ((reads_atDigit_end h.noDigit).bind ?_)
    rw [if_neg (by decide)]
    exact reads_readAfterWhole h negative 0
  · have value : Nat.ofDigitChars 10 (Nat.toDigits 10 n) 0 = n := by
      rw [Nat.ofDigitChars_ten_toDigits]
    obtain ⟨c, ds, d, eq, hd⟩ := toDigits_eq_cons zero
    have digits := isDigit_toDigits n
    have some_ := reads_readDigits digits h.noDigit (by rwa [value])
    rw [value] at some_
    rw [eq] at some_ ⊢
    refine (reads_peek_cons c _).bind ?_
    dsimp only
    rw [hd]
    have noMore : Reads _ ([] ++ cs) _ _ := reads_skipDigits nofun h.noDigit
    exact some_.bind (noMore.bind (reads_readAfterWhole h negative n))

/-- An integer that 64 bits hold is read as it was printed. -/
theorem reads_readNumber (h : Ends cs) {n : Int} (fits : Number.Fits n) :
    Reads readNumber (renderInt n ++ cs) (.whole n fits) cs := by
  obtain ⟨low, high⟩ := id fits
  unfold renderInt
  split
  · have value : Number.ofDigits true n.natAbs = .whole n fits := by
      have eq : -(n.natAbs : Int) = n := by omega
      simp only [Number.ofDigits, if_true, eq, fits, dite_true, Bool.true_and, beq_iff_eq,
        show n.natAbs ≠ 0 by omega, if_false]
    refine (reads_peek_cons '-' _).bind ?_
    rw [if_pos (by decide)]
    refine (reads_skip ['-'] _).bind ?_
    rw [← value]
    exact reads_readUnsigned h true (by unfold significandLimit; omega)
  · have value : Number.ofDigits false n.toNat = .whole n fits := by
      have eq : (n.toNat : Int) = n := by omega
      simp only [Number.ofDigits, eq, fits, dite_true, Bool.false_and, Bool.false_eq_true, if_false]
    have unsigned := reads_readUnsigned h false (n := n.toNat) (by unfold significandLimit; omega)
    rw [value] at unsigned
    obtain ⟨c, ds, eq⟩ := List.exists_cons_of_ne_nil
      (Nat.toDigits_ne_nil (n := n.toNat) (b := 10))
    have digit : c.isDigit = true :=
      isDigit_toDigits n.toNat c (by rw [eq]; exact List.mem_cons_self)
    have noSign : ¬ (some (some c) == some (some '-')) = true := by
      intro sign
      obtain rfl : c = '-' := by simpa using sign
      revert digit
      decide
    rw [eq] at unsigned ⊢
    refine (reads_peek_cons c _).bind ?_
    rw [if_neg noSign]
    exact unsigned

/-! ## Numbers that are not kept -/

/-- Where an exponent or the end of a number stands there is neither a digit nor a point. -/
theorem IsExponent.noDigit {exponent : List Char} (h : IsExponent exponent) (ends : Ends cs)
    {c : Char} (head : (exponent ++ cs).head? = some c) : c.isDigit = false ∧ c ≠ '.' := by
  cases h with
  | none =>
    obtain ⟨noDigit, noPoint, -, -⟩ := ends.noNumber head
    exact ⟨noDigit, noPoint⟩
  | power =>
    obtain rfl := Option.some.inj head
    decide

theorem IsFraction.noDigit {fraction : List Char} (h : IsFraction fraction) (no : NoDigit cs) :
    NoDigit (fraction ++ cs) := by
  cases h with
  | none => exact no
  | point =>
    intro c head
    obtain rfl := Option.some.inj head
    decide

/-- A number may have an exponent. -/
theorem reads_skipExponent {exponent : List Char} (h : IsExponent exponent) (ends : Ends cs) :
    Reads (do if ← atExponent then skipExponent) (exponent ++ cs) ⟨⟩ cs := by
  cases h with
  | none => exact (reads_atExponent_end ends).bind (Takes.pure _ _)
  | @power sign ds signed some_ digits =>
    have at_ : Reads atExponent ('e' :: sign :: (ds ++ cs)) true ('e' :: sign :: (ds ++ cs)) :=
      (reads_peek_cons 'e' _).bind (Takes.pure _ _)
    refine at_.bind ?_
    rw [if_pos rfl]
    refine (reads_skip ['e'] _).bind ((reads_peek_cons sign _).bind ?_)
    have is_ : (some (some sign) == some (some '+') || some (some sign) == some (some '-')) =
        true := by
      rcases signed with rfl | rfl <;> rfl
    rw [if_pos is_]
    refine (reads_skip [sign] _).bind ((reads_skipDigits digits ends.noDigit).bind ?_)
    rw [if_neg (by simpa using some_)]
    exact Takes.pure _ _

/-- A number may have a fraction, and an exponent behind it. -/
theorem reads_skipFraction {fraction exponent : List Char} (isFraction : IsFraction fraction)
    (isExponent : IsExponent exponent) (h : Ends cs) :
    Reads skipFraction (fraction ++ (exponent ++ cs)) ⟨⟩ cs := by
  have rest := reads_skipExponent isExponent h
  cases isFraction with
  | none => exact reads_peek_noPoint (fun _ head => (isExponent.noDigit h head).2) rest
  | @point ds some_ digits =>
    refine (reads_peek_cons '.' _).bind ?_
    rw [if_pos (by decide)]
    refine (reads_skip ['.'] _).bind ((reads_skipDigits digits
      fun _ head => (isExponent.noDigit h head).1).bind ?_)
    rw [if_neg (by simpa using some_)]
    exact rest

/-- Behind the sign of a number, or without one, the number is passed. -/
theorem skipNumber_eq (h : Ends cs) : ∃ unsigned : Reader Unit,
    skipNumber = (do if (← peek) == some (some '-') then do skip 1; unsigned else unsigned) ∧
      ∀ {text}, Unsigned text → Reads unsigned (text ++ cs) ⟨⟩ cs := by
  refine ⟨_, rfl, fun parts => ?_⟩
  obtain ⟨isWhole, isFraction, isExponent⟩ := parts
  have fraction := reads_skipFraction isFraction isExponent h
  have noDigit := isFraction.noDigit fun _ head => (isExponent.noDigit h head).1
  rw [List.append_assoc, List.append_assoc]
  cases isWhole with
  | zero =>
    refine (reads_peek_cons '0' _).bind ?_
    show Reads (skip 1 >>= _) _ _ _
    refine (reads_skip ['0'] _).bind ((reads_atDigit_end noDigit).bind ?_)
    rw [if_neg (by decide)]
    exact fraction
  | @digits c d ds first others =>
    have digits : Digits (c :: ds) := List.forall_mem_cons.2 ⟨isDigit_of_digit? first, others⟩
    refine (reads_peek_cons c _).bind ?_
    dsimp only [Option.bind_some]
    rw [first]
    exact (reads_skipDigits digits noDigit).bind fraction

/-- A number that is not kept is passed. -/
theorem reads_skipNumber {text : List Char} (numeral : Numeral text) (h : Ends cs) :
    Reads skipNumber (text ++ cs) ⟨⟩ cs := by
  obtain ⟨unsigned, skips, passes⟩ := skipNumber_eq h
  rw [skips]
  cases numeral with
  | positive parts =>
    obtain ⟨c, ds, rfl, digit⟩ := parts.eq_cons
    have noSign : ¬ (some (some c) == some (some '-')) = true := by
      intro sign
      obtain rfl : c = '-' := by simpa using sign
      revert digit
      decide
    refine (reads_peek_cons c _).bind ?_
    rw [if_neg noSign]
    exact passes parts
  | negative parts =>
    refine (reads_peek_cons '-' _).bind ?_
    rw [if_pos (by decide)]
    exact (reads_skip ['-'] _).bind (passes parts)

end Signoff.Json
