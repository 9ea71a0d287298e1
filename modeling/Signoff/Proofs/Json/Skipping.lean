import Signoff.Proofs.Json.Values

/-!
# Values that are not kept

A value that is not kept is passed in every spelling, however deep lists and objects nest in it
(`readsValue_skipValue`). What is around the value is given to the reader as a stack, so the
statement about a value inside others tells what is done behind it (`skipAround`).
-/

namespace Signoff.Json

variable {gap cs after : List Char} {around : List Open}

/-- What is done with the lists and objects that are still open. -/
def resume (bound : Text) : Option (List Open) → Reader Unit
  | none => return ()
  | some around => do
    if around.head? = some .object then skipKey
    skipFrom bound around

/-- What is done behind a value that was passed. -/
def skipAround (bound : Text) (around : List Open) : Reader Unit := skipEnds around >>= resume bound

theorem skipFrom_cons (g : Glyph) (bound : Text) (around : List Open) :
    skipFrom (g :: bound) around = skipScalar around >>= resume bound := by
  rw [skipFrom]
  refine congrArg _ (funext fun open_ => ?_)
  cases open_ <;> rfl

theorem resume_object (bound : Text) (around : List Open) :
    resume bound (some (.object :: around)) = (do
      skipKey
      skipFrom bound (.object :: around)) := rfl

/-! ## Inside lists and objects -/

theorem reads_skipKey (h : Gap gap) (key : String) {gap' : List Char} (h' : Gap gap')
    (cs : List Char) :
    Reads skipKey (gap ++ (renderString key ++ (gap' ++ ':' :: cs))) ⟨⟩ cs := by
  rw [renderString, List.cons_append, List.cons_append, List.append_assoc]
  refine (reads_peekToken h (by decide) _).bind ?_
  dsimp only
  rw [if_pos rfl]
  exact (reads_advance '"' _).bind ((reads_skipString key _).bind (reads_readColon h' cs))

/-- Behind an item there is a comma. -/
theorem reads_skipAround_item (h : Gap gap) {bound : Text}
    (next : Reads (skipFrom bound (.list :: around)) cs ⟨⟩ after) :
    Reads (skipAround bound (.list :: around)) (gap ++ ',' :: cs) ⟨⟩ after := by
  rw [skipAround, skipEnds, bind_assoc]
  refine (reads_peekToken h (by decide) cs).bind ?_
  dsimp only
  rw [if_pos rfl, bind_assoc]
  exact (reads_advance ',' cs).bind next

/-- Behind the last item the list ends. -/
theorem reads_skipAround_list (h : Gap gap) {bound : Text}
    (next : Reads (skipAround bound around) cs ⟨⟩ after) :
    Reads (skipAround bound (.list :: around)) (gap ++ ']' :: cs) ⟨⟩ after := by
  rw [skipAround, skipEnds, bind_assoc]
  refine (reads_peekToken h (by decide) cs).bind ?_
  dsimp only
  rw [if_neg (by decide), if_pos rfl, bind_assoc]
  exact (reads_advance ']' cs).bind next

/-- Behind a member there is a comma, and then a key. -/
theorem reads_skipAround_member (h : Gap gap) {bound : Text} {cs' : List Char}
    (key : Reads skipKey cs ⟨⟩ cs')
    (next : Reads (skipFrom bound (.object :: around)) cs' ⟨⟩ after) :
    Reads (skipAround bound (.object :: around)) (gap ++ ',' :: cs) ⟨⟩ after := by
  rw [skipAround, skipEnds, bind_assoc]
  refine (reads_peekToken h (by decide) cs).bind ?_
  dsimp only
  rw [if_pos rfl, bind_assoc]
  refine (reads_advance ',' cs).bind ?_
  rw [pure_bind, resume_object]
  exact key.bind next

/-- Behind the last member the object ends. -/
theorem reads_skipAround_object (h : Gap gap) {bound : Text}
    (next : Reads (skipAround bound around) cs ⟨⟩ after) :
    Reads (skipAround bound (.object :: around)) (gap ++ '\x7d' :: cs) ⟨⟩ after := by
  rw [skipAround, skipEnds, bind_assoc]
  refine (reads_peekToken h (by decide) cs).bind ?_
  dsimp only
  rw [if_neg (by decide), if_pos rfl, bind_assoc]
  exact (reads_advance '\x7d' cs).bind next

/-! ## Scalars -/

/-- A value without inner values is passed, and then what is around it. -/
theorem reads_skipFrom_scalar {j : Json} (scalar : j.isScalar = true) (hg : Gap gap)
    {text : List Char} (spells : Spells j text) (ends : Ends cs) {g : Glyph}
    {bound : Text} (next : Reads (skipAround bound around) cs ⟨⟩ after) :
    Reads (skipFrom (g :: bound) around) (gap ++ (text ++ cs)) ⟨⟩ after := by
  rw [skipFrom_cons, skipScalar, bind_assoc]
  rw [skipAround] at next
  obtain rfl := (spells_scalar scalar).1 spells
  cases j with
  | array | object => cases scalar
  | null =>
    refine (reads_peekToken hg (by decide) _).bind ?_
    dsimp only
    rw [if_pos rfl, bind_assoc]
    exact (reads_readWord ['n', 'u', 'l', 'l'] cs).bind next
  | bool b =>
    cases b with
    | true =>
      refine (reads_peekToken hg (by decide) _).bind ?_
      dsimp only
      rw [if_neg (by decide), if_pos rfl, bind_assoc]
      exact (reads_readWord ['t', 'r', 'u', 'e'] cs).bind next
    | false =>
      refine (reads_peekToken hg (by decide) _).bind ?_
      dsimp only
      rw [if_neg (by decide), if_neg (by decide), if_pos rfl, bind_assoc]
      exact (reads_readWord ['f', 'a', 'l', 's', 'e'] cs).bind next
  | number n =>
    have number := reads_skipNumber (numeral_render n) ends
    obtain ⟨c, ds, eq, opens⟩ := (numeral_render n).eq_cons
    obtain ⟨ne_n, ne_t, ne_f⟩ := noWord_of_number opens
    rw [renderScalar, eq]
    rw [eq] at number
    refine (reads_peekToken hg (begins_number opens).noSpace _).bind ?_
    dsimp only
    rw [if_neg ne_n, if_neg ne_t, if_neg ne_f, if_pos (by simpa using opens), bind_assoc]
    exact number.bind next
  | string s =>
    rw [renderScalar, renderString, List.cons_append, List.cons_append, List.append_assoc]
    refine (reads_peekToken hg (by decide) _).bind ?_
    dsimp only
    rw [if_neg (by decide), if_neg (by decide), if_neg (by decide), if_neg (by decide),
      if_pos rfl, bind_assoc]
    refine (reads_advance '"' _).bind ?_
    rw [bind_assoc]
    exact (reads_skipString s cs).bind next

/-! ## Lists and objects -/

/-- Behind an opening bracket the next character decides whether the list is empty. -/
theorem reads_skipFrom_bracket (hg : Gap gap) {gap' : List Char} (hg' : Gap gap') {c : Char}
    (hc : Cursor.isSpace c = false) {g : Glyph} {bound : Text}
    (next : Reads ((if c = ']' then advance *> skipEnds around
      else return some (.list :: around)) >>= resume bound) (c :: cs) ⟨⟩ after) :
    Reads (skipFrom (g :: bound) around) (gap ++ '[' :: (gap' ++ c :: cs)) ⟨⟩ after := by
  rw [skipFrom_cons, skipScalar, bind_assoc]
  refine (reads_peekToken hg (by decide) _).bind ?_
  dsimp only
  rw [if_neg (by decide), if_neg (by decide), if_neg (by decide), if_neg (by decide),
    if_neg (by decide), if_pos rfl, bind_assoc]
  refine (reads_advance '[' _).bind ?_
  rw [bind_assoc]
  refine (reads_peekToken hg' hc _).bind ?_
  simpa only [Option.some.injEq, seqRight_eq_bind] using next

/-- Behind an opening brace the next character decides whether the object is empty. -/
theorem reads_skipFrom_brace (hg : Gap gap) {gap' : List Char} (hg' : Gap gap') {c : Char}
    (hc : Cursor.isSpace c = false) {g : Glyph} {bound : Text}
    (next : Reads ((if c = '\x7d' then advance *> skipEnds around
      else return some (.object :: around)) >>= resume bound) (c :: cs) ⟨⟩ after) :
    Reads (skipFrom (g :: bound) around) (gap ++ '\x7b' :: (gap' ++ c :: cs)) ⟨⟩ after := by
  rw [skipFrom_cons, skipScalar, bind_assoc]
  refine (reads_peekToken hg (by decide) _).bind ?_
  dsimp only
  rw [if_neg (by decide), if_neg (by decide), if_neg (by decide), if_neg (by decide),
    if_neg (by decide), if_neg (by decide), if_pos rfl, bind_assoc]
  refine (reads_advance '\x7b' _).bind ?_
  rw [bind_assoc]
  refine (reads_peekToken hg' hc _).bind ?_
  simpa only [Option.some.injEq, seqRight_eq_bind] using next

theorem reads_skipFrom_nil (hg : Gap gap) {gap' : List Char} (hg' : Gap gap') {g : Glyph}
    {bound : Text} (next : Reads (skipAround bound around) cs ⟨⟩ after) :
    Reads (skipFrom (g :: bound) around) (gap ++ '[' :: (gap' ++ ']' :: cs)) ⟨⟩ after := by
  refine reads_skipFrom_bracket hg hg' (by decide) ?_
  rw [if_pos rfl, seqRight_eq_bind, bind_assoc]
  exact (reads_advance ']' _).bind next

theorem reads_skipFrom_list (hg : Gap gap) {gap' : List Char} (hg' : Gap gap') {c : Char}
    (begins : Begins c) {g : Glyph} {bound : Text}
    (next : Reads (skipFrom bound (.list :: around)) (c :: cs) ⟨⟩ after) :
    Reads (skipFrom (g :: bound) around) (gap ++ '[' :: (gap' ++ c :: cs)) ⟨⟩ after := by
  refine reads_skipFrom_bracket hg hg' begins.noSpace ?_
  rw [if_neg begins.noBracket]
  exact next

theorem reads_skipFrom_empty (hg : Gap gap) {gap' : List Char} (hg' : Gap gap') {g : Glyph}
    {bound : Text} (next : Reads (skipAround bound around) cs ⟨⟩ after) :
    Reads (skipFrom (g :: bound) around) (gap ++ '\x7b' :: (gap' ++ '\x7d' :: cs)) ⟨⟩ after := by
  refine reads_skipFrom_brace hg hg' (by decide) ?_
  rw [if_pos rfl, seqRight_eq_bind, bind_assoc]
  exact (reads_advance '\x7d' _).bind next

theorem reads_skipFrom_object (hg : Gap gap) {gap' : List Char} (hg' : Gap gap') {key : String}
    {gap'' : List Char} (hg'' : Gap gap'') {g : Glyph} {bound : Text}
    (next : Reads (skipFrom bound (.object :: around)) cs ⟨⟩ after) :
    Reads (skipFrom (g :: bound) around)
      (gap ++ '\x7b' :: (gap' ++ (renderString key ++ (gap'' ++ ':' :: cs)))) ⟨⟩ after := by
  have key_ := reads_skipKey .nil key hg'' cs
  simp only [renderString, List.nil_append, List.cons_append, List.append_assoc] at key_ ⊢
  refine reads_skipFrom_brace hg hg' (by decide) ?_
  rw [if_neg (by decide), pure_bind, resume_object]
  exact key_.bind next

/-! ## Any value -/

/-- What follows is passed as long as enough of the bound is left. -/
def Resumes (around : List Open) (cs after : List Char) : Prop :=
  ∀ bound : Text, cs.length ≤ bound.length → Reads (skipAround bound around) cs ⟨⟩ after

theorem resumes_scalar {j : Json} (scalar : j.isScalar = true) (hg : Gap gap) {text : List Char}
    (spells : Spells j text) (ends : Ends cs) (next : Resumes around cs after)
    {bound : Text} (fits : (text ++ cs).length ≤ bound.length) :
    Reads (skipFrom bound around) (gap ++ (text ++ cs)) ⟨⟩ after := by
  obtain ⟨c, rest, rfl, -⟩ := spells.opens
  obtain ⟨g, bound, rfl⟩ := List.exists_cons_of_length_pos (l := bound) (by simp at fits; omega)
  have fits : cs.length ≤ bound.length := by
    simp at fits
    omega
  exact reads_skipFrom_scalar scalar hg spells ends (next bound fits)

mutual

theorem reads_skipFrom : (j : Json) → ∀ {around gap text cs after}, Gap gap →
    Spells j text → Ends cs → Resumes around cs after → ∀ {bound : Text},
    (text ++ cs).length ≤ bound.length →
    Reads (skipFrom bound around) (gap ++ (text ++ cs)) ⟨⟩ after
  | .array [], around, gap, text, cs, after, hg, spells, _, next, bound, fits => by
    rw [Spells] at spells
    obtain ⟨inner, spells, rfl⟩ := spells
    rw [SpellsItems] at spells
    obtain ⟨gap', hg', rfl⟩ := spells
    obtain ⟨g, bound, rfl⟩ := List.exists_cons_of_length_pos (l := bound) (by simp at fits; omega)
    simp only [List.cons_append, List.append_assoc, List.nil_append] at fits ⊢
    exact reads_skipFrom_nil hg hg' (next bound (by simp at fits; omega))
  | .array (j :: items), around, gap, text, cs, after, hg, spells, _, next, bound, fits => by
    rw [Spells] at spells
    obtain ⟨inner, spells, rfl⟩ := spells
    rw [SpellsItems] at spells
    obtain ⟨before, item, others, sep, one, all, rfl⟩ := spells
    obtain ⟨g, bound, rfl⟩ := List.exists_cons_of_length_pos (l := bound) (by simp at fits; omega)
    have here : Reads (skipFrom bound (.list :: around)) _ _ _ := reads_skipFrom j .nil one
      (all.ends cs) (resumes_items items all next) (by simp at fits ⊢; omega)
    obtain ⟨c, item, rfl, opens⟩ := one.opens
    simp only [List.cons_append, List.append_assoc, List.nil_append] at here ⊢
    exact reads_skipFrom_list hg sep opens.begins here
  | .object [], around, gap, text, cs, after, hg, spells, _, next, bound, fits => by
    rw [Spells] at spells
    obtain ⟨inner, spells, rfl⟩ := spells
    rw [SpellsMembers] at spells
    obtain ⟨gap', hg', rfl⟩ := spells
    obtain ⟨g, bound, rfl⟩ := List.exists_cons_of_length_pos (l := bound) (by simp at fits; omega)
    simp only [List.cons_append, List.append_assoc, List.nil_append] at fits ⊢
    exact reads_skipFrom_empty hg hg' (next bound (by simp at fits; omega))
  | .object ((key, j) :: members), around, gap, text, cs, after, hg, spells, _, next, bound,
      fits => by
    rw [Spells] at spells
    obtain ⟨inner, spells, rfl⟩ := spells
    rw [SpellsMembers] at spells
    obtain ⟨before, gap', gap'', value, others, sep, hg', hg'', one, all, rfl⟩ := spells
    obtain ⟨g, bound, rfl⟩ := List.exists_cons_of_length_pos (l := bound) (by simp at fits; omega)
    have here : Reads (skipFrom bound (.object :: around)) _ _ _ :=
      reads_skipFrom j hg'' one (all.ends cs) (resumes_members members all next)
        (by simp at fits ⊢; omega)
    simp only [List.cons_append, List.append_assoc] at here ⊢
    exact reads_skipFrom_object hg sep hg' here
  | .null, _, _, _, _, _, hg, spells, ends, next, _, fits =>
    resumes_scalar rfl hg spells ends next fits
  | .bool _, _, _, _, _, _, hg, spells, ends, next, _, fits =>
    resumes_scalar rfl hg spells ends next fits
  | .number _, _, _, _, _, _, hg, spells, ends, next, _, fits =>
    resumes_scalar rfl hg spells ends next fits
  | .string _, _, _, _, _, _, hg, spells, ends, next, _, fits =>
    resumes_scalar rfl hg spells ends next fits

theorem resumes_items : (items : List Json) → ∀ {around text cs after},
    SpellsItems false items text → Resumes around cs after →
    Resumes (.list :: around) (text ++ cs) after
  | [], around, text, cs, after, spells, next => by
    rw [SpellsItems] at spells
    obtain ⟨gap, hg, rfl⟩ := spells
    intro bound fits
    rw [List.append_assoc]
    exact reads_skipAround_list hg (next bound (by simp at fits; omega))
  | j :: items, around, text, cs, after, spells, next => by
    rw [SpellsItems] at spells
    obtain ⟨before, item, others, ⟨gap, gap', hg, hg', rfl⟩, one, all, rfl⟩ := spells
    intro bound fits
    have here : Reads (skipFrom bound (.list :: around)) _ _ _ := reads_skipFrom j hg' one
      (all.ends cs) (resumes_items items all next) (by simp at fits ⊢; omega)
    simp only [List.cons_append, List.append_assoc] at here ⊢
    exact reads_skipAround_item hg here

theorem resumes_members : (members : List (String × Json)) →
    ∀ {around text cs after}, SpellsMembers false members text → Resumes around cs after →
    Resumes (.object :: around) (text ++ cs) after
  | [], around, text, cs, after, spells, next => by
    rw [SpellsMembers] at spells
    obtain ⟨gap, hg, rfl⟩ := spells
    intro bound fits
    rw [List.append_assoc]
    exact reads_skipAround_object hg (next bound (by simp at fits; omega))
  | (key, j) :: members, around, text, cs, after, spells, next => by
    rw [SpellsMembers] at spells
    obtain ⟨before, gap', gap'', value, others, ⟨gap, gap₀, hg, hg₀, rfl⟩, hg', hg'', one, all,
      rfl⟩ := spells
    intro bound fits
    have here : Reads (skipFrom bound (.object :: around)) _ _ _ :=
      reads_skipFrom j hg'' one (all.ends cs) (resumes_members members all next)
        (by simp at fits ⊢; omega)
    simp only [List.cons_append, List.append_assoc] at here ⊢
    exact reads_skipAround_member hg (reads_skipKey hg₀ key hg' _) here

end

/-- A value that is not kept is passed, at any depth. -/
theorem readsValue_skipValue (j : Json) : ReadsValue skipValue j ⟨⟩ := by
  intro gap text rest hg spells ends
  refine Takes.get_bind fun s hs => reads_skipFrom j hg spells ends ?_ ?_
  · intro bound _
    rw [skipAround, skipEnds]
    exact Takes.pure _ _
  · rw [hs]
    simp only [Text.ofChars, List.length_map, List.length_append]
    omega

end Signoff.Json
