import Signoff.Proofs.Json.Verdict

/-!
# Values end where they are passed

A value that is not kept is passed without being built. If it could be read all the same, reading it
ends in the same place (`stopAlike_skipValue`). Nothing is asked of the text: the two readers are
followed side by side from one state to the next (`Concur`), and where both have looked at the same
token they are followed from there (`ConcurAt`).

Passing keeps the lists and objects around a value on a stack and reading does not, so the statement
about a value inside others tells what is done behind it (`Passes`).

* `stopAlike_readNumber`, `stopAlike_readString`: numbers and strings, of any length and with any
  escapes.
* `passesAt_list`, `passesAt_object`: lists and objects, from the values inside them.
-/

namespace Signoff.Json

variable {α β σ α' β' : Type} {R : α → α' → Prop} {S : β → β' → Prop}

/-! ## Readers side by side -/

/-- The two readers concur wherever the cursor stands in front of the token. -/
def ConcurAt (token : Option Glyph) (R : α → α' → Prop) (r : Reader α) (r' : Reader α') : Prop :=
  ∀ ⦃s⦄, peekToken s = .ok (token, s) → ∀ ⦃a b t t'⦄, r s = .ok (a, t) → r' s = .ok (b, t') →
    R a b ∧ t = t'

theorem skipSpace_skipSpaceFrom (line column : Nat) (text : Text) :
    (Cursor.skipSpaceFrom line column text).skipSpace = Cursor.skipSpaceFrom line column text := by
  induction text generalizing line column with
  | nil => rfl
  | cons g text ih =>
    cases g with
    | none => rfl
    | some c =>
      rw [Cursor.skipSpaceFrom]
      split
      · exact ih _ _
      · split
        · exact ih _ _
        · rename_i noFeed noSpace
          rw [Cursor.skipSpace, Cursor.skipSpaceFrom, if_neg noFeed, if_neg noSpace]

/-- Behind white space a token can be looked at again. -/
theorem peekToken_again {s t : Cursor} {token : Option Glyph}
    (h : peekToken s = .ok (token, t)) : peekToken t = .ok (token, t) := by
  cases h
  show Except.ok ((s.skipSpace.skipSpace).rest.head?, s.skipSpace.skipSpace) = _
  rw [show s.skipSpace.skipSpace = s.skipSpace from skipSpace_skipSpaceFrom _ _ _]

/-- Both look at the same token. -/
theorem concur_token {f : Option Glyph → Reader α} {f' : Option Glyph → Reader α'}
    (h : ∀ token, ConcurAt token R (f token) (f' token)) :
    Concur R (peekToken >>= f) (peekToken >>= f') := by
  intro s a b t t' eq eq'
  obtain ⟨token, u, here, there⟩ := Takes.run_bind eq
  obtain ⟨token', u', here', there'⟩ := Takes.run_bind eq'
  cases here.symm.trans here'
  exact h token (peekToken_again here) there there'

/-- The first looks at what stands next, which stays. -/
theorem concur_peek {f : Option Glyph → Reader α} {r' : Reader α'}
    (h : ∀ g, Concur R (f g) r') : Concur R (peek >>= f) r' :=
  fun s _ _ _ _ eq eq' => h s.rest.head? eq eq'

namespace ConcurAt

variable {token : Option Glyph} {r : Reader α} {r' : Reader α'} {f : Option Glyph → Reader α}
  {f' : Option Glyph → Reader α'}

theorem of (h : Concur R r r') : ConcurAt token R r r' := fun _ _ _ _ _ _ eq eq' => h eq eq'

/-- The first looks at the token again. -/
theorem left (h : ConcurAt token R (f token) r') : ConcurAt token R (peekToken >>= f) r' := by
  intro s at_ a b t t' eq eq'
  rw [Takes.bind_apply, at_] at eq
  exact h at_ eq eq'

/-- The second looks at the token again. -/
theorem right (h : ConcurAt token R r (f' token)) : ConcurAt token R r (peekToken >>= f') := by
  intro s at_ a b t t' eq eq'
  rw [Takes.bind_apply, at_] at eq'
  exact h at_ eq eq'

theorem mono {R' : α → α' → Prop} (h : ConcurAt token R r r') (le : ∀ a b, R a b → R' a b) :
    ConcurAt token R' r r' :=
  fun _ at_ _ _ _ _ eq eq' => (h at_ eq eq').imp_left (le _ _)

/-- The result of the first is put to use. -/
theorem map_left {S : β → α' → Prop} {g : α → β} (h : ConcurAt token R r r')
    (h' : ∀ a b, R a b → S (g a) b) : ConcurAt token S (do return g (← r)) r' := by
  intro s at_ b b' t t' eq eq'
  obtain ⟨a, u, first, last⟩ := Takes.run_bind eq
  cases last
  exact (h at_ first eq').imp_left (h' a b')

/-- A reader that takes nothing concurs with any. -/
theorem fails_left (h : Fails r) : ConcurAt token R r r' := .of (.left h)

theorem fails_right (h : Fails r') : ConcurAt token R r r' := .of (.right h)

end ConcurAt

/-- A list is ended by the bracket that stands next. -/
theorem concurAt_endList {r : Reader α} {r' : Reader α'} (h : Concur R r r') :
    ConcurAt (some (some ']')) R (do endList; r) (do advance; r') := by
  unfold endList
  rw [bind_assoc]
  refine .left ?_
  dsimp only
  rw [if_pos rfl]
  exact .of (.step fun _ => h)

/-- An object is ended by the brace that stands next. -/
theorem concurAt_endObject {r : Reader α} {r' : Reader α'} (h : Concur R r r') :
    ConcurAt (some (some '\x7d')) R (do endObject; r) (do advance; r') := by
  unfold endObject
  rw [bind_assoc]
  refine .left ?_
  dsimp only
  rw [if_pos rfl]
  exact .of (.step fun _ => h)

/-- The two readers stop in the same place, whatever they take. -/
abbrev StopAlike (r : Reader α) (r' : Reader α') : Prop := Concur (fun _ _ => True) r r'

/-! ## Numbers -/

theorem takeDigits_le (limit n count : Nat) (text : Text) :
    count ≤ (takeDigits limit n count text).2 ∧
      (takeDigits limit n count text).2 ≤ count + countDigits text := by
  induction text generalizing n count with
  | nil => exact ⟨Nat.le_refl _, Nat.le_add_right _ _⟩
  | cons g text ih =>
    unfold takeDigits countDigits
    cases h : digit? g with
    | none => simp
    | some d =>
      dsimp only
      split
      · obtain ⟨low, high⟩ := ih (10 * n + d) (count + 1)
        rw [countDigits] at high
        simp only [List.takeWhile_cons, h, Option.isSome_some, if_true, List.length_cons]
        omega
      · simp

theorem countDigits_drop {n : Nat} {text : Text} (le : n ≤ countDigits text) :
    countDigits (text.drop n) = countDigits text - n := by
  induction n generalizing text with
  | zero => rfl
  | succ n ih =>
    cases text with
    | nil => simp [countDigits] at le
    | cons g text =>
      unfold countDigits at le ih ⊢
      rw [List.takeWhile_cons] at le ⊢
      split at le
      · rename_i digit
        rw [if_pos digit, List.drop_succ_cons, List.length_cons, Nat.add_sub_add_right]
        exact ih (Nat.le_of_succ_le_succ le)
      · simp at le

/-- Dropping digits is dropping as many as fit below a limit and then the others. -/
theorem skipDigits_eq (limit n : Nat) :
    skipDigits = (do
      let x ← readDigits limit n
      let left ← skipDigits
      return x.2 + left) := by
  funext s
  have le := (takeDigits_le limit n 0 s.rest).2
  rw [Nat.zero_add] at le
  show Except.ok (countDigits s.rest, s.skip (countDigits s.rest)) = .ok
    ((takeDigits limit n 0 s.rest).2 + countDigits (s.rest.drop (takeDigits limit n 0 s.rest).2),
      (s.skip (takeDigits limit n 0 s.rest).2).skip
        (countDigits (s.rest.drop (takeDigits limit n 0 s.rest).2)))
  rw [countDigits_drop le, Cursor.skip, Cursor.skip, Cursor.skip, List.drop_drop, Nat.add_assoc,
    Nat.add_sub_cancel' le]

/-- Digits are dropped only where one stands next. -/
theorem skipDigits_eq_ite :
    skipDigits = (do if ← atDigit then skipDigits else return 0) := by
  funext s
  show _ = (atDigit >>= _) s
  obtain ⟨text, line, column⟩ := s
  cases text with
  | nil => rfl
  | cons g text =>
    rw [Takes.bind_apply]
    show _ = (if (digit? g).isSome then skipDigits else pure 0) _
    split
    · rfl
    · rename_i no
      show Except.ok (countDigits (g :: text), _) = _
      rw [countDigits, List.takeWhile_cons, if_neg no]
      rfl

theorem stopAlike_endNumber (negative : Bool) (n : Nat) (exponent : Int) :
    StopAlike (endNumber negative n exponent) (pure ⟨⟩ : Reader PUnit) := by
  unfold endNumber
  split
  · exact .pure trivial
  · exact .left (fails_failHere _)

/-- Where digits are left, and where none is. -/
theorem concur_atDigit {long short : Reader α} {f : Nat → Reader α'}
    (digits : Concur R long (skipDigits >>= f)) (none_ : Concur R short (f 0)) :
    Concur R (do if ← atDigit then long else short) (skipDigits >>= f) := by
  have both : skipDigits >>= f = (do if ← atDigit then skipDigits >>= f else f 0) := by
    conv_lhs => rw [skipDigits_eq_ite, bind_assoc]
    refine congrArg _ (funext fun more => ?_)
    cases more <;> rfl
  rw [both]
  refine .step fun more => ?_
  cases more
  · exact none_
  · exact digits

/-- Some digits are read, of which as many as fit below a limit are kept. -/
theorem concur_readDigits {limit n : Nat} {f : Nat × Nat → Reader α} {f' : Nat → Reader α'}
    (h : ∀ m count, Concur R (f (m, count)) (do let left ← skipDigits; f' (count + left))) :
    Concur R (readDigits limit n >>= f) (skipDigits >>= f') := by
  rw [skipDigits_eq limit n]
  simp only [bind_assoc, pure_bind]
  exact .step fun x => h x.1 x.2

/-- The digits of an exponent, of which those are dropped that are too many. -/
theorem stopAlike_exponentDigits (negative : Bool) (n : Nat) (down : Bool) (power : Nat → Int) :
    StopAlike (do
      match ← peek with
      | none => failHere .endOfValue
      | some g =>
        if (digit? g).isNone then failNext .invalidNumber
        else
          let (e, _) ← readDigits exponentLimit 0
          if ← atDigit then
            if n != 0 && !down then failNext .numberOutOfRange
            else
              let _ ← skipDigits
              return Number.real (.zero negative)
          else endNumber negative n (power e))
      (do if (← skipDigits) = 0 then failNext .invalidNumber) := by
  refine concur_peek fun g => ?_
  split
  · exact .left (fails_failHere _)
  split
  · exact .left (fails_failNext _)
  refine concur_readDigits fun m count => concur_atDigit ?_ ?_
  · split
    · exact .left (fails_failNext _)
    · refine .step fun left => ?_
      split
      · exact .right (fails_failNext _)
      · exact .pure trivial
  · split
    · exact .right (fails_failNext _)
    · exact stopAlike_endNumber _ _ _

theorem stopAlike_readExponent (negative : Bool) (n : Nat) (exponent : Int) :
    StopAlike (readExponent negative n exponent) skipExponent := by
  unfold readExponent skipExponent
  refine .step fun _ => .step fun sign => ?_
  have digits := stopAlike_exponentDigits negative n (sign == some (some '-')) fun e =>
    if (sign == some (some '-')) = true then exponent - e else exponent + e
  dsimp only
  split
  · exact .step fun _ => digits
  · exact digits

theorem stopAlike_readScale (negative : Bool) (n : Nat) (exponent : Int) :
    StopAlike (readScale negative n exponent) (do if ← atExponent then skipExponent) := by
  refine .step fun more => ?_
  split
  · exact stopAlike_readExponent _ _ _
  · exact stopAlike_endNumber _ _ _

theorem stopAlike_readFraction (negative : Bool) (n : Nat) (exponent : Int) :
    StopAlike (readFraction negative n exponent) (do
      skip 1
      if (← skipDigits) = 0 then failNext .invalidNumber
      if ← atExponent then skipExponent) := by
  refine .step fun _ => concur_readDigits fun m count => concur_atDigit ?_ ?_
  · refine .step fun left => ?_
    dsimp only
    split
    · exact .right ((fails_failNext _).bind _)
    · exact stopAlike_readScale _ _ _
  · by_cases zero : count = 0
    · subst zero
      refine .left (.after fun g => ?_)
      split
      · exact fails_failNext _
      · exact fails_failHere _
    · rw [if_neg zero, if_neg (by simpa using zero)]
      exact stopAlike_readScale _ _ _

theorem stopAlike_readAfterWhole (negative : Bool) (n dropped : Nat) :
    StopAlike (readAfterWhole negative n dropped) skipFraction := by
  unfold readAfterWhole skipFraction
  refine .step fun g => ?_
  dsimp only
  split
  · exact stopAlike_readFraction negative n dropped
  · refine .step fun more => ?_
    split
    · exact stopAlike_readExponent _ _ _
    split
    · exact .pure trivial
    · exact stopAlike_endNumber _ _ _

theorem stopAlike_readUnsigned (negative : Bool) : StopAlike (readUnsigned negative) (do
    match (← peek).bind digit? with
    | none => failNext .invalidNumber
    | some 0 =>
      skip 1
      if ← atDigit then failNext .invalidNumber else skipFraction
    | some _ =>
      let _ ← skipDigits
      skipFraction) := by
  refine .step fun g => ?_
  split
  · exact .left (fails_failHere _)
  rename_i g
  rw [Option.bind_some]
  rcases digit? g with _ | _ | d <;> dsimp only
  · exact .left (fails_failNext _)
  · refine .step fun _ => .step fun more => ?_
    split
    · exact .left (fails_failNext _)
    · exact stopAlike_readAfterWhole _ _ _
  · refine concur_readDigits fun m count => .step fun dropped => ?_
    exact stopAlike_readAfterWhole _ _ _

/-- Whatever a number is read as, it ends in the same place as when it is only passed. -/
theorem stopAlike_readNumber : StopAlike readNumber skipNumber := by
  unfold readNumber skipNumber
  refine .step fun g => ?_
  dsimp only
  split
  · exact .step fun _ => stopAlike_readUnsigned _
  · exact stopAlike_readUnsigned _

/-! ## Strings -/

/-- Where the first of two surrogates is read, passing the string meets a second escape. -/
theorem stopAlike_secondEscape {f : PUnit → Reader α} {bound : Text}
    (h : ∀ bound, StopAlike (f ⟨⟩) (skipEscape >>= fun _ => skipStringFrom bound)) :
    StopAlike (readSurrogateMark '\\' >>= f) (skipStringFrom bound) := by
  cases bound with
  | nil => exact .right (fails_failHere _)
  | cons g bound =>
    unfold readSurrogateMark skipStringFrom
    rw [bind_assoc]
    refine .step fun g => ?_
    split
    · exact .right (fails_failHere _)
    split
    · rename_i same
      subst same
      dsimp only
      rw [if_neg (by decide), if_pos rfl]
      exact .step fun _ => h bound
    · exact .left ((fails_failNext _).bind _)

theorem stopAlike_readUnicodeEscape {f : Char → Reader α} {bound : Text}
    (h : ∀ bound c, StopAlike (f c) (skipStringFrom bound)) :
    StopAlike (readUnicodeEscape >>= f) (readHexCode >>= fun _ => skipStringFrom bound) := by
  unfold readUnicodeEscape
  rw [bind_assoc]
  refine .step fun n => ?_
  split
  · exact .left ((fails_failHere _).bind _)
  split
  -- reading takes both surrogates at once, which are two escapes to pass
  · rw [bind_assoc]
    refine stopAlike_secondEscape fun bound => ?_
    unfold readSurrogateMark skipEscape
    simp only [bind_assoc]
    refine .step fun g => ?_
    split
    · exact .left ((fails_failHere _).bind _)
    split
    · simp only [bind_assoc]
      refine .step fun _ => .step fun m => ?_
      split
      · exact h _ _
      · exact .left ((fails_failHere _).bind _)
    · exact .left ((fails_failNext _).bind _)
  · exact h _ _

/-- Reading a string goes on behind an escape where passing it does. -/
theorem stopAlike_readEscape {f : Char → Reader α} {bound : Text}
    (h : ∀ bound c, StopAlike (f c) (skipStringFrom bound)) :
    StopAlike (readEscape >>= f) (skipEscape >>= fun _ => skipStringFrom bound) := by
  unfold readEscape skipEscape
  simp only [bind_assoc]
  refine .step fun g => ?_
  split
  · exact .left ((fails_failHere _).bind _)
  split
  · simp only [bind_assoc]
    exact .step fun _ => stopAlike_readUnicodeEscape h
  split
  · rename_i c known
    rw [known, Option.isSome_some, if_pos rfl, bind_assoc]
    exact .step fun _ => h _ _
  · exact .left ((fails_failNext _).bind _)

theorem stopAlike_readStringFrom (bound : Text) (cs : List Char) (stray : Option Nat)
    (bound' : Text) :
    StopAlike (readStringFrom bound cs stray) (skipStringFrom bound') := by
  induction bound generalizing cs stray bound' with
  | nil => exact .left (fails_failHere _)
  | cons g bound ih =>
    cases bound' with
    | nil => exact .right (fails_failHere _)
    | cons g' bound' =>
      unfold readStringFrom skipStringFrom
      refine .step fun g => ?_
      split
      · exact .left (fails_failHere _)
      · exact .step fun _ => ih _ _ _
      dsimp only
      split
      · refine .get fun s => ?_
        rw [← bind_pure advance]
        refine .step fun _ => ?_
        cases stray with
        | none => exact .pure trivial
        | some n => exact .left (.throw _)
      split
      · exact .step fun _ => stopAlike_readEscape fun bound' c => ih _ _ _
      split
      · exact .left (fails_failNext _)
      · exact .step fun _ => ih _ _ _

/-- Whatever a string is read as, it ends in the same place as when it is only passed. -/
theorem stopAlike_readString : StopAlike readString skipString := by
  unfold readString skipString
  exact .step fun s => stopAlike_readStringFrom _ _ _ _

/-! ## Values -/

/-- Where the value ends that the reader takes, it ends when it is only passed. -/
def Passes (r : Reader α) : Prop :=
  ∀ ⦃β : Type⦄ ⦃k : α → Reader β⦄ ⦃around : List Open⦄ ⦃bound : Text⦄,
    (∀ a bound, StopAlike (k a) (skipAround bound around)) →
    StopAlike (r >>= k) (skipFrom bound around)

/-- Looking at a token leaves it. -/
theorem peekToken_peekToken (f : Option Glyph → Reader α) :
    (do let _ ← peekToken; peekToken >>= f) = peekToken >>= f := by
  funext s
  rw [Takes.bind_apply, Takes.bind_apply (f := f)]
  show (peekToken >>= f) s.skipSpace = _
  rw [Takes.bind_apply, peekToken_again (s := s) rfl]
  rfl

theorem stopAlike_skipFrom {r : Reader α} {around : List Open} {bound : Text}
    (h : ∀ g bound, StopAlike r (do let _ ← peekToken; skipFrom (g :: bound) around)) :
    StopAlike r (skipFrom bound around) := by
  cases bound with
  | nil => exact .right (fails_failHere _)
  | cons g bound =>
    have again := h g bound
    rw [skipFrom_cons, skipScalar, bind_assoc, peekToken_peekToken, ← bind_assoc] at again
    rw [skipFrom_cons]
    exact again

/-- So does a value that begins with a token, read from there. -/
def PassesAt (token : Option Glyph) (r : Reader α) : Prop :=
  ∀ ⦃β : Type⦄ ⦃k : α → Reader β⦄ ⦃around : List Open⦄ ⦃g : Glyph⦄ ⦃bound : Text⦄,
    (∀ a bound, StopAlike (k a) (skipAround bound around)) →
    ConcurAt token (fun _ _ => True) (r >>= k) (skipFrom (g :: bound) around)

theorem passesAt_fails {token : Option Glyph} {r : Reader α} (h : Fails r) :
    PassesAt token r :=
  fun _ _ _ _ _ _ => .fails_left (h.bind _)

/-! ### Scalars -/

theorem passesAt_null (a : α) :
    PassesAt (some (some 'n')) (do readWord ['n', 'u', 'l', 'l']; return a) := by
  intro β k around g bound h
  rw [skipFrom_cons, skipScalar, bind_assoc, bind_assoc]
  refine .right ?_
  dsimp only
  rw [if_pos rfl, bind_assoc]
  exact .of (.step fun _ => h a bound)

theorem passesAt_true (a : α) :
    PassesAt (some (some 't')) (do readWord ['t', 'r', 'u', 'e']; return a) := by
  intro β k around g bound h
  rw [skipFrom_cons, skipScalar, bind_assoc, bind_assoc]
  refine .right ?_
  dsimp only
  rw [if_neg (by decide), if_pos rfl, bind_assoc]
  exact .of (.step fun _ => h a bound)

theorem passesAt_false (a : α) :
    PassesAt (some (some 'f')) (do readWord ['f', 'a', 'l', 's', 'e']; return a) := by
  intro β k around g bound h
  rw [skipFrom_cons, skipScalar, bind_assoc, bind_assoc]
  refine .right ?_
  dsimp only
  rw [if_neg (by decide), if_neg (by decide), if_pos rfl, bind_assoc]
  exact .of (.step fun _ => h a bound)

theorem passesAt_number {c : Char} (opens : c = '-' ∨ c.isDigit = true) (f : Number → α) :
    PassesAt (some (some c)) (do return f (← readNumber)) := by
  intro β k around g bound h
  obtain ⟨ne_n, ne_t, ne_f⟩ := noWord_of_number opens
  rw [skipFrom_cons, skipScalar, bind_assoc, bind_assoc]
  refine .right ?_
  dsimp only
  rw [if_neg ne_n, if_neg ne_t, if_neg ne_f, if_pos (by simpa using opens), bind_assoc]
  exact .of (stopAlike_readNumber.bind fun _ _ _ => h _ bound)

theorem passesAt_string (f : String → α) :
    PassesAt (some (some '"')) (do advance; return f (← readString)) := by
  intro β k around g bound h
  simp only [skipFrom_cons, skipScalar, bind_assoc]
  refine .right ?_
  dsimp only
  rw [if_neg (by decide), if_neg (by decide), if_neg (by decide), if_neg (by decide),
    if_pos rfl, bind_assoc]
  refine .of (.step fun _ => ?_)
  rw [bind_assoc]
  exact stopAlike_readString.bind fun _ _ _ => h _ bound

theorem passes_readAny {scalar : Json → α} {list object : Reader α}
    (hl : PassesAt (some (some '[')) list) (ho : PassesAt (some (some '\x7b')) object) :
    Passes (readAny scalar list object) := by
  intro β k around bound h
  refine stopAlike_skipFrom fun g bound => ?_
  unfold readAny
  rw [bind_assoc]
  refine concur_token fun token => ?_
  split
  · exact passesAt_fails (fails_failHere _) h
  · exact passesAt_fails (fails_failNext _) h
  split
  · rename_i same
    subst same
    exact passesAt_null _ h
  split
  · rename_i same
    subst same
    exact passesAt_true _ h
  split
  · rename_i same
    subst same
    exact passesAt_false _ h
  split
  · rename_i opens
    exact passesAt_number (by simpa using opens) _ h
  split
  · rename_i same
    subst same
    exact passesAt_string _ h
  split
  · rename_i same
    subst same
    exact hl h
  split
  · rename_i same
    subst same
    exact ho h
  · exact passesAt_fails (fails_failNext _) h

/-! ### Lists -/

/-- Behind an item, where the list ends the items that are read, it ends when they are passed. -/
theorem stopAlike_readItemsFrom {item : Reader α} (h : Passes item) {before : List α}
    (some_ : before.isEmpty = false) {k : List α → Reader β} {around : List Open}
    (hk : ∀ as bound, StopAlike (k as) (skipAround bound around)) (bound bound' : Text) :
    StopAlike (do let as ← readItemsFrom item bound before; endList; k as)
      (skipAround bound' (.list :: around)) := by
  induction bound generalizing before bound' with
  | nil => exact .left ((fails_failHere _).bind _)
  | cons g bound ih =>
    unfold readItemsFrom nextItem skipAround skipEnds
    simp only [bind_assoc]
    refine concur_token fun token => ?_
    split
    · exact .fails_right ((fails_failHere _).bind _)
    rename_i g'
    by_cases end_ : g' = some ']'
    · subst end_
      rw [if_pos rfl, if_neg (by decide), if_pos rfl]
      simp only [bind_assoc, pure_bind, Bool.false_eq_true, if_false]
      exact concurAt_endList (hk _ _)
    rw [if_neg end_, some_, if_neg (by decide)]
    by_cases comma : g' = some ','
    · subst comma
      rw [if_pos rfl, if_pos rfl]
      simp only [bind_assoc, pure_bind]
      refine .of (.step fun _ => ?_)
      -- the next item is looked for before it is read, but not before it is passed
      show StopAlike _ (skipFrom bound' (.list :: around))
      refine stopAlike_skipFrom fun g bound' => concur_token fun token => ?_
      split
      · exact .fails_left ((fails_failHere _).bind _)
      split
      · exact .fails_left ((fails_failNext _).bind _)
      simp only [pure_bind, if_true, bind_assoc]
      exact .of (h fun a bound' => ih rfl bound')
    · rw [if_neg comma]
      exact .fails_left ((fails_failNext _).bind _)

theorem passesAt_list {item : Reader α} (h : Passes item) (f : List α → β) :
    PassesAt (some (some '[')) (do advance; return f (← readItems item)) := by
  intro β k around g bound hk
  simp only [skipFrom_cons, skipScalar, bind_assoc]
  refine .right ?_
  dsimp only
  rw [if_neg (by decide), if_neg (by decide), if_neg (by decide), if_neg (by decide),
    if_neg (by decide), if_pos rfl, bind_assoc]
  refine .of (.step fun _ => ?_)
  unfold readItems
  simp only [bind_assoc]
  refine .get fun s => ?_
  generalize s.rest = bound'
  rcases bound' with _ | ⟨g, bound'⟩
  · exact .left ((fails_failHere _).bind _)
  unfold readItemsFrom nextItem
  simp only [bind_assoc]
  refine concur_token fun token => ?_
  split
  · exact .fails_right ((fails_failHere _).bind _)
  split
  · rename_i same
    subst same
    simp only [bind_assoc, pure_bind, Bool.false_eq_true, if_false]
    exact concurAt_endList (hk _ _)
  · simp only [bind_assoc, pure_bind, if_true, List.isEmpty_nil]
    exact .of (h fun a bound => stopAlike_readItemsFrom h rfl (fun as bound => hk (f as) bound) _ _)

/-! ### Objects -/

theorem resume_token (bound : Text) (around : List Open) :
    (do let _ ← peekToken; resume bound (some (.object :: around))) =
      resume bound (some (.object :: around)) := by
  rw [resume_object, skipKey, bind_assoc, peekToken_peekToken]

/-- Where the value behind a key ends that is read, it ends when key and value are passed. -/
theorem stopAlike_member {value : String → σ → Reader σ}
    (h : ∀ key state, Passes (value key state)) {f : σ → Reader β} {around : List Open}
    {bound : Text}
    (hf : ∀ state bound, StopAlike (f state) (skipAround bound (.object :: around))) (state : σ) :
    ConcurAt (some (some '"')) (fun _ _ => True)
      (do let key ← readKey; readColon; let state ← value key state; f state)
      (resume bound (some (.object :: around))) := by
  rw [resume_object]
  unfold readKey skipKey
  simp only [bind_assoc]
  refine .right ?_
  dsimp only
  rw [if_pos rfl]
  simp only [bind_assoc]
  exact .of (.step fun _ => stopAlike_readString.bind fun key _ _ => .step fun _ => h key state hf)

/-- Behind a member, where the object ends whose members are read, it ends when they are passed. -/
theorem stopAlike_readMembersFrom {value : String → σ → Reader σ}
    (h : ∀ key state, Passes (value key state)) {k : σ → Reader β} {around : List Open}
    (hk : ∀ state bound, StopAlike (k state) (skipAround bound around)) (bound bound' : Text)
    (state : σ) :
    StopAlike (do
      let state ← readMembersFrom (fun key state => do readColon; value key state) bound false state
      endObject
      k state)
      (skipAround bound' (.object :: around)) := by
  induction bound generalizing state bound' with
  | nil => exact .left ((fails_failHere _).bind _)
  | cons g bound ih =>
    unfold readMembersFrom nextMember skipAround skipEnds
    simp only [bind_assoc]
    refine concur_token fun token => ?_
    split
    · exact .fails_right ((fails_failHere _).bind _)
    rename_i g'
    by_cases end_ : g' = some '\x7d'
    · subst end_
      rw [if_pos rfl, if_neg (by decide), if_pos rfl]
      simp only [bind_assoc, pure_bind, Bool.false_eq_true, if_false]
      exact concurAt_endObject (hk _ _)
    rw [if_neg end_, if_neg (by decide)]
    by_cases comma : g' = some ','
    · subst comma
      rw [if_pos rfl, if_pos rfl]
      simp only [bind_assoc, pure_bind]
      refine .of (.step fun _ => ?_)
      rw [← resume_token]
      refine concur_token fun token => ?_
      split
      · exact .fails_left ((fails_failHere _).bind _)
      split
      · rename_i quote
        subst quote
        simp only [pure_bind, if_true, bind_assoc]
        exact stopAlike_member h (fun state bound => ih bound state) state
      split
      · exact .fails_left ((fails_failNext _).bind _)
      · exact .fails_left ((fails_failNext _).bind _)
    · rw [if_neg comma]
      exact .fails_left ((fails_failNext _).bind _)

theorem passesAt_object {value : String → σ → Reader σ} (h : ∀ key state, Passes (value key state))
    (state : σ) (f : σ → α) :
    PassesAt (some (some '\x7b')) (do
      advance
      let state ← readMembers (fun key state => do readColon; value key state) state
      endObject
      return f state) := by
  intro β k around g bound hk
  simp only [skipFrom_cons, skipScalar, bind_assoc]
  refine .right ?_
  dsimp only
  rw [if_neg (by decide), if_neg (by decide), if_neg (by decide), if_neg (by decide),
    if_neg (by decide), if_neg (by decide), if_pos rfl, bind_assoc]
  refine .of (.step fun _ => ?_)
  unfold readMembers
  simp only [bind_assoc]
  refine .get fun s => ?_
  generalize s.rest = bound'
  rcases bound' with _ | ⟨g, bound'⟩
  · exact .left ((fails_failHere _).bind _)
  unfold readMembersFrom nextMember
  simp only [bind_assoc]
  refine concur_token fun token => ?_
  split
  · exact .fails_right ((fails_failHere _).bind _)
  split
  · rename_i same
    subst same
    simp only [bind_assoc, pure_bind, Bool.false_eq_true, if_false]
    exact concurAt_endObject (hk _ _)
  simp only [if_true]
  split
  · rename_i quote
    subst quote
    simp only [bind_assoc, pure_bind, if_true]
    exact stopAlike_member h (fun state bound =>
      stopAlike_readMembersFrom h (fun state bound => hk (f state) bound) _ _ state) state
  · exact .fails_left ((fails_failNext _).bind _)

theorem Passes.map {r : Reader α} (h : Passes r) (f : α → β) : Passes (do return f (← r)) := by
  intro γ k around bound hk
  rw [bind_assoc]
  exact h fun a bound => by rw [pure_bind]; exact hk (f a) bound

/-- Whatever a value is read as, it ends in the same place as when it is only passed. -/
theorem passes_readTree (depth : Nat) : Passes (readTree depth) := by
  induction depth with
  | zero =>
    exact passes_readAny (passesAt_fails (fails_failNext _)) (passesAt_fails (fails_failNext _))
  | succ depth ih =>
    refine passes_readAny (passesAt_list ih array) (passesAt_object (fun key members => ?_) []
      fun members => object members.reverse)
    exact ih.map fun j => (key, j) :: members

theorem stopAlike_skipValue (depth : Nat) : StopAlike (readTree depth) skipValue := by
  have passes := passes_readTree depth
  refine .get_right fun s => ?_
  rw [← bind_pure (readTree depth)]
  exact passes fun j bound => .pure trivial

end Signoff.Json
