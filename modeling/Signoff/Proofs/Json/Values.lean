import Mathlib.Data.List.Forall2
import Signoff.Proofs.Json.Tokens

/-!
# Reading values

Every spelling of a value whose numbers are integers is read as the value, as long as lists and
objects do not nest too deep (`readsValue_readTree`); one that nests deeper is refused as such
(`refusesValue_readTree`), and a value that is not kept is passed at any depth
(`readsValue_skipValue`).

* `ReadsValue`, `ReadsMember`: what a reader does with a value, and with what stands behind a key.
* `reads_readItems`, `reads_readMembers`: lists and objects, from readers of their parts.
-/

namespace Signoff.Json

variable {α β σ : Type} {gap cs rest inner : List Char} {kind : Error → Prop}

/-- The reader takes every spelling of the value, with white space in front. -/
def ReadsValue (r : Reader α) (j : Json) (a : α) : Prop :=
  ∀ gap text rest, Gap gap → Spells j text → Ends rest → Reads r (gap ++ (text ++ rest)) a rest

/-- The reader takes every spelling of the value behind a key, with the colon in front. -/
def ReadsMember (r : Reader α) (j : Json) (a : α) : Prop :=
  ∀ gap gap' text rest, Gap gap → Gap gap' → Spells j text → Ends rest →
    Reads r (gap ++ ':' :: (gap' ++ (text ++ rest))) a rest

/-- The reader refuses every spelling of the value. -/
def RefusesValue (kind : Error → Prop) (r : Reader α) (j : Json) : Prop :=
  ∀ gap text rest, Gap gap → Spells j text → Ends rest →
    Refuses Cursor.rest kind r (Text.ofChars (gap ++ (text ++ rest)))

/-- The reader refuses every spelling of the value behind a key. -/
def RefusesMember (kind : Error → Prop) (r : Reader α) (j : Json) : Prop :=
  ∀ gap gap' text rest, Gap gap → Gap gap' → Spells j text → Ends rest →
    Refuses Cursor.rest kind r (Text.ofChars (gap ++ ':' :: (gap' ++ (text ++ rest))))

theorem ReadsValue.map {r : Reader α} {j : Json} {a : α} (h : ReadsValue r j a) (f : α → β) :
    ReadsValue (do return f (← r)) j (f a) :=
  fun _ _ _ hg hs he => (h _ _ _ hg hs he).map

theorem RefusesValue.bind {r : Reader α} {j : Json} (h : RefusesValue kind r j)
    (f : α → Reader β) : RefusesValue kind (r >>= f) j :=
  fun _ _ _ hg hs he => (h _ _ _ hg hs he).bind

theorem RefusesMember.bind {r : Reader α} {j : Json} (h : RefusesMember kind r j)
    (f : α → Reader β) : RefusesMember kind (r >>= f) j :=
  fun _ _ _ _ hg hg' hs he => (h _ _ _ _ hg hg' hs he).bind

theorem reads_readColon (h : Gap gap) (cs : List Char) :
    Reads readColon (gap ++ ':' :: cs) ⟨⟩ cs := by
  refine (reads_peekToken h (by decide) cs).bind ?_
  dsimp only
  rw [if_pos rfl]
  exact reads_advance ':' cs

theorem ReadsValue.member {r : Reader α} {j : Json} {a : α} (h : ReadsValue r j a) :
    ReadsMember (do readColon; r) j a :=
  fun _ gap' text rest hg hg' hs he =>
    (reads_readColon hg _).bind (h gap' text rest hg' hs he)

theorem RefusesValue.member {r : Reader α} {j : Json} (h : RefusesValue kind r j) :
    RefusesMember kind (do readColon; r) j :=
  fun _ gap' text rest hg hg' hs he =>
    (h gap' text rest hg' hs he).after (reads_readColon hg _)

/-! ## Lists -/

theorem reads_nextItem {first : Bool} {before : List Char} (h : Separates first before) {c : Char}
    (begins : Begins c) (cs : List Char) :
    Reads (nextItem first) (before ++ c :: cs) true (c :: cs) := by
  have noBracket : ¬ (some c : Glyph) = some ']' := fun h => begins.noBracket (Option.some.inj h)
  cases first with
  | true =>
    refine (reads_peekToken h begins.noSpace cs).bind ?_
    dsimp only
    rw [if_neg noBracket, if_pos rfl]
    exact Takes.pure _ _
  | false =>
    obtain ⟨gap, gap', hg, hg', rfl⟩ := h
    rw [List.append_assoc, List.cons_append]
    refine (reads_peekToken hg (by decide) _).bind ?_
    dsimp only
    rw [if_neg (by decide), if_neg (by decide), if_pos rfl]
    refine (reads_advance ',' _).bind ((reads_peekToken hg' begins.noSpace cs).bind ?_)
    dsimp only
    rw [if_neg noBracket]
    exact Takes.pure _ _

theorem reads_nextItem_end (first : Bool) (h : Gap gap) (cs : List Char) :
    Reads (nextItem first) (gap ++ ']' :: cs) false (']' :: cs) := by
  refine (reads_peekToken h (by decide) cs).bind ?_
  dsimp only
  rw [if_pos rfl]
  exact Takes.pure _ _

theorem reads_endList (h : Gap gap) (cs : List Char) :
    Reads endList (gap ++ ']' :: cs) ⟨⟩ cs := by
  refine (reads_peekToken h (by decide) cs).bind ?_
  dsimp only
  rw [if_pos rfl]
  exact reads_advance ']' cs

theorem reads_readItemsFrom {item : Reader α} {items : List Json} {as : List α}
    (h : List.Forall₂ (ReadsValue item) items as) {before : List α}
    (spells : SpellsItems before.isEmpty items inner) {bound : Text}
    (fits : items.length < bound.length) (rest : List Char) :
    Reads (readItemsFrom item bound before) (inner ++ rest) (before.reverse ++ as)
      (']' :: rest) := by
  induction h generalizing before bound inner with
  | nil =>
    rw [SpellsItems] at spells
    obtain ⟨gap, hg, rfl⟩ := spells
    cases bound with
    | nil => simp at fits
    | cons g bound =>
      rw [List.append_nil, List.append_assoc]
      refine (reads_nextItem_end _ hg rest).bind ?_
      rw [if_neg (by decide)]
      exact Takes.pure _ _
  | @cons j a items as here _ ih =>
    rw [SpellsItems] at spells
    obtain ⟨between, written, others, sep, one, all, rfl⟩ := spells
    obtain ⟨c, text, rfl, opens⟩ := one.opens
    cases bound with
    | nil => simp at fits
    | cons g bound =>
      have all' : SpellsItems (a :: before).isEmpty items others := all
      have there := ih all' (by simpa using fits)
      rw [List.reverse_cons, List.append_assoc] at there
      rw [List.append_assoc, List.append_assoc]
      refine (reads_nextItem sep opens.begins _).bind ?_
      rw [if_pos rfl]
      exact (here [] _ _ .nil one (all.ends rest)).bind there

/-- A list is read if its items are. -/
theorem reads_readItems {item : Reader α} {items : List Json} {as : List α}
    (h : List.Forall₂ (ReadsValue item) items as) (spells : SpellsItems true items inner)
    (rest : List Char) :
    Reads (readItems item) (inner ++ rest) as rest := by
  refine Takes.get_bind fun s hs => ?_
  have fits : items.length < s.rest.length := by
    have := spells.length_lt
    rw [hs]
    simp only [Text.ofChars, List.length_map, List.length_append]
    omega
  have spells : SpellsItems ([] : List α).isEmpty items inner := spells
  exact (reads_readItemsFrom h spells fits rest).bind
    ((reads_endList .nil rest).bind (Takes.pure _ _))

theorem refuses_readItemsFrom {item : Reader α} {good : List Json} {as : List α}
    (h : List.Forall₂ (ReadsValue item) good as) {bad : Json} (refuses : RefusesValue kind item bad)
    {others : List Json} {before : List α}
    (spells : SpellsItems before.isEmpty (good ++ bad :: others) inner) {bound : Text}
    (fits : good.length < bound.length) (rest : List Char) :
    Refuses Cursor.rest kind (readItemsFrom item bound before) (Text.ofChars (inner ++ rest)) := by
  induction h generalizing before bound inner with
  | nil =>
    rw [List.nil_append, SpellsItems] at spells
    obtain ⟨between, written, others, sep, one, all, rfl⟩ := spells
    obtain ⟨c, text, rfl, opens⟩ := one.opens
    cases bound with
    | nil => simp at fits
    | cons g bound =>
      rw [List.append_assoc, List.append_assoc]
      refine .after (reads_nextItem sep opens.begins _) ?_
      rw [if_pos rfl]
      exact (refuses [] _ _ .nil one (all.ends rest)).bind
  | @cons j a good as here _ ih =>
    rw [List.cons_append, SpellsItems] at spells
    obtain ⟨between, written, others, sep, one, all, rfl⟩ := spells
    obtain ⟨c, text, rfl, opens⟩ := one.opens
    cases bound with
    | nil => simp at fits
    | cons g bound =>
      have all' : SpellsItems (a :: before).isEmpty _ others := all
      have there := ih all' (by simpa using fits)
      rw [List.append_assoc, List.append_assoc]
      refine .after (reads_nextItem sep opens.begins _) ?_
      rw [if_pos rfl]
      exact there.after (here [] _ _ .nil one (all.ends rest))

/-- A list is refused if an item is and those before it are read. -/
theorem refuses_readItems {item : Reader α} {good : List Json} {as : List α}
    (h : List.Forall₂ (ReadsValue item) good as) {bad : Json} (refuses : RefusesValue kind item bad)
    {others : List Json} (spells : SpellsItems true (good ++ bad :: others) inner)
    (rest : List Char) :
    Refuses Cursor.rest kind (readItems item) (Text.ofChars (inner ++ rest)) := by
  refine Refuses.get_bind fun s hs => ?_
  have fits : good.length < s.rest.length := by
    have := spells.length_lt
    rw [List.length_append] at this
    rw [hs]
    simp only [Text.ofChars, List.length_map, List.length_append]
    omega
  have spells : SpellsItems ([] : List α).isEmpty (good ++ bad :: others) inner := spells
  exact (refuses_readItemsFrom h refuses spells fits rest).bind

/-! ## Objects -/

theorem reads_nextMember {first : Bool} {before : List Char} (h : Separates first before)
    (cs : List Char) : Reads (nextMember first) (before ++ '"' :: cs) true ('"' :: cs) := by
  cases first with
  | true =>
    refine (reads_peekToken h (by decide) cs).bind ?_
    dsimp only
    rw [if_neg (by decide), if_pos rfl, if_pos rfl]
    exact Takes.pure _ _
  | false =>
    obtain ⟨gap, gap', hg, hg', rfl⟩ := h
    rw [List.append_assoc, List.cons_append]
    refine (reads_peekToken hg (by decide) _).bind ?_
    dsimp only
    rw [if_neg (by decide), if_neg (by decide), if_pos rfl]
    refine (reads_advance ',' _).bind ((reads_peekToken hg' (by decide) cs).bind ?_)
    dsimp only
    rw [if_pos rfl]
    exact Takes.pure _ _

theorem reads_nextMember_end (first : Bool) (h : Gap gap) (cs : List Char) :
    Reads (nextMember first) (gap ++ '\x7d' :: cs) false ('\x7d' :: cs) := by
  refine (reads_peekToken h (by decide) cs).bind ?_
  dsimp only
  rw [if_pos rfl]
  exact Takes.pure _ _

theorem reads_readKey (key : String) (cs : List Char) :
    Reads readKey (renderString key ++ cs) key cs := by
  rw [renderString, List.cons_append, List.cons_append, List.append_assoc]
  exact (reads_advance '"' _).bind (reads_readString key cs)

theorem reads_endObject (h : Gap gap) (cs : List Char) :
    Reads endObject (gap ++ '\x7d' :: cs) ⟨⟩ cs := by
  refine (reads_peekToken h (by decide) cs).bind ?_
  dsimp only
  rw [if_pos rfl]
  exact reads_advance '\x7d' cs

/-- The readers of the members, one after the other, go from one state to another. -/
def FoldsMembers (member : String → σ → Reader σ) : List (String × Json) → σ → σ → Prop
  | [], s, t => s = t
  | (key, j) :: rest, s, t => ∃ s', ReadsMember (member key s) j s' ∧ FoldsMembers member rest s' t

theorem reads_readMembersFrom {member : String → σ → Reader σ} {members : List (String × Json)}
    {s t : σ} (h : FoldsMembers member members s t) {first : Bool}
    (spells : SpellsMembers first members inner) {bound : Text}
    (fits : members.length < bound.length) (rest : List Char) :
    Reads (readMembersFrom member bound first s) (inner ++ rest) t ('\x7d' :: rest) := by
  induction members generalizing first bound s inner with
  | nil =>
    rw [SpellsMembers] at spells
    obtain ⟨gap, hg, rfl⟩ := spells
    obtain rfl : s = t := h
    cases bound with
    | nil => simp at fits
    | cons g bound =>
      rw [List.append_assoc]
      refine (reads_nextMember_end _ hg rest).bind ?_
      rw [if_neg (by decide)]
      exact Takes.pure _ _
  | cons x members ih =>
    obtain ⟨key, j⟩ := x
    rw [SpellsMembers] at spells
    obtain ⟨before, gap, gap', value, others, sep, hg, hg', one, all, rfl⟩ := spells
    obtain ⟨s', here, there⟩ := h
    cases bound with
    | nil => simp at fits
    | cons g bound =>
      have key_ := reads_readKey key (gap ++ ':' :: (gap' ++ (value ++ (others ++ rest))))
      rw [renderString, List.cons_append, List.cons_append] at key_
      simp only [List.append_assoc, renderString, List.cons_append]
      refine (reads_nextMember sep _).bind ?_
      rw [if_pos rfl]
      simp only [List.append_assoc] at key_
      exact key_.bind ((here gap gap' value _ hg hg' one (all.ends rest)).bind
        (ih there all (by simpa using fits)))

/-- An object is read if its members are. -/
theorem reads_readMembers {member : String → σ → Reader σ} {members : List (String × Json)}
    {s t : σ} (h : FoldsMembers member members s t) (spells : SpellsMembers true members inner)
    (rest : List Char) : Reads (readMembers member s) (inner ++ rest) t ('\x7d' :: rest) := by
  refine Takes.get_bind fun c hc => reads_readMembersFrom h spells ?_ rest
  have := spells.length_lt
  rw [hc]
  simp only [Text.ofChars, List.length_map, List.length_append]
  omega

theorem refuses_readMembersFrom {member : String → σ → Reader σ} {good : List (String × Json)}
    {s t : σ} (h : FoldsMembers member good s t) {key : String} {bad : Json}
    (refuses : RefusesMember kind (member key t) bad) {others : List (String × Json)} {first : Bool}
    (spells : SpellsMembers first (good ++ (key, bad) :: others) inner) {bound : Text}
    (fits : good.length < bound.length) (rest : List Char) :
    Refuses Cursor.rest kind (readMembersFrom member bound first s)
      (Text.ofChars (inner ++ rest)) := by
  induction good generalizing first bound s inner with
  | nil =>
    rw [List.nil_append, SpellsMembers] at spells
    obtain ⟨before, gap, gap', value, others, sep, hg, hg', one, all, rfl⟩ := spells
    obtain rfl : s = t := h
    cases bound with
    | nil => simp at fits
    | cons g bound =>
      have key_ := reads_readKey key (gap ++ ':' :: (gap' ++ (value ++ (others ++ rest))))
      simp only [renderString, List.cons_append, List.append_assoc] at key_ ⊢
      refine .after (reads_nextMember sep _) ?_
      rw [if_pos rfl]
      exact .after key_ (refuses gap gap' value _ hg hg' one (all.ends rest)).bind
  | cons x good ih =>
    obtain ⟨k, j⟩ := x
    rw [List.cons_append, SpellsMembers] at spells
    obtain ⟨before, gap, gap', value, others, sep, hg, hg', one, all, rfl⟩ := spells
    obtain ⟨s', here, there⟩ := h
    cases bound with
    | nil => simp at fits
    | cons g bound =>
      have key_ := reads_readKey k (gap ++ ':' :: (gap' ++ (value ++ (others ++ rest))))
      simp only [renderString, List.cons_append, List.append_assoc] at key_ ⊢
      refine .after (reads_nextMember sep _) ?_
      rw [if_pos rfl]
      exact .after key_ (.after (here gap gap' value _ hg hg' one (all.ends rest))
        (ih there all (by simpa using fits)))

/-- An object is refused if a member is and those before it are read. -/
theorem refuses_readMembers {member : String → σ → Reader σ} {good : List (String × Json)}
    {s t : σ} (h : FoldsMembers member good s t) {key : String} {bad : Json}
    (refuses : RefusesMember kind (member key t) bad) {others : List (String × Json)}
    (spells : SpellsMembers true (good ++ (key, bad) :: others) inner) (rest : List Char) :
    Refuses Cursor.rest kind (readMembers member s) (Text.ofChars (inner ++ rest)) := by
  refine Refuses.get_bind fun c hc => refuses_readMembersFrom h refuses spells ?_ rest
  have := spells.length_lt
  rw [List.length_append] at this
  rw [hc]
  simp only [Text.ofChars, List.length_map, List.length_append]
  omega

/-! ## Any value -/

section readAny

variable {scalar : Json → α} {list object : Reader α} {a : α}

theorem reads_readAny_list (hg : Gap gap) (h : Reads list ('[' :: cs) a rest) :
    Reads (readAny scalar list object) (gap ++ '[' :: cs) a rest :=
  (reads_peekToken hg (by decide) cs).bind h

theorem reads_readAny_object (hg : Gap gap) (h : Reads object ('\x7b' :: cs) a rest) :
    Reads (readAny scalar list object) (gap ++ '\x7b' :: cs) a rest :=
  (reads_peekToken hg (by decide) cs).bind h

theorem refuses_readAny_list (hg : Gap gap)
    (h : Refuses Cursor.rest kind list (Text.ofChars ('[' :: cs))) :
    Refuses Cursor.rest kind (readAny scalar list object) (Text.ofChars (gap ++ '[' :: cs)) :=
  .after (reads_peekToken hg (by decide) cs) h

theorem refuses_readAny_object (hg : Gap gap)
    (h : Refuses Cursor.rest kind object (Text.ofChars ('\x7b' :: cs))) :
    Refuses Cursor.rest kind (readAny scalar list object) (Text.ofChars (gap ++ '\x7b' :: cs)) :=
  .after (reads_peekToken hg (by decide) cs) h

theorem noWord_of_number {c : Char} (h : c = '-' ∨ c.isDigit = true) :
    c ≠ 'n' ∧ c ≠ 't' ∧ c ≠ 'f' := by
  rcases h with rfl | digit
  · decide
  · refine ⟨?_, ?_, ?_⟩
    all_goals
      rintro rfl
      revert digit
      decide

/-- A value without inner values is read by itself. -/
theorem readsValue_readAny {j : Json} (whole : j.Whole) (isScalar : j.isScalar = true) :
    ReadsValue (readAny scalar list object) j (scalar j) := by
  intro gap text rest hg spells ends
  obtain rfl := (spells_scalar isScalar).1 spells
  cases j with
  | array | object => cases isScalar
  | null =>
    exact (reads_peekToken hg (by decide) _).bind
      ((reads_readWord ['n', 'u', 'l', 'l'] rest).bind (Takes.pure _ _))
  | bool b =>
    cases b with
    | true =>
      exact (reads_peekToken hg (by decide) _).bind
        ((reads_readWord ['t', 'r', 'u', 'e'] rest).bind (Takes.pure _ _))
    | false =>
      exact (reads_peekToken hg (by decide) _).bind
        ((reads_readWord ['f', 'a', 'l', 's', 'e'] rest).bind (Takes.pure _ _))
  | number n =>
    cases n with
    | real x => exact absurd whole id
    | whole n fits =>
      obtain ⟨c, ds, eq, opens⟩ := (numeral_renderInt n).eq_cons
      obtain ⟨ne_n, ne_t, ne_f⟩ := noWord_of_number opens
      have number := reads_readNumber ends fits
      have text : renderScalar (.number (.whole n fits)) = c :: ds := eq
      rw [text]
      rw [eq] at number
      refine (reads_peekToken hg (begins_number opens).noSpace _).bind ?_
      dsimp only
      rw [if_neg ne_n, if_neg ne_t, if_neg ne_f, if_pos (by simpa using opens)]
      exact number.bind (Takes.pure _ _)
  | string s =>
    rw [renderScalar, renderString, List.cons_append, List.cons_append, List.append_assoc]
    exact (reads_peekToken hg (by decide) _).bind ((reads_advance '"' _).bind
      ((reads_readString s rest).bind (Takes.pure _ _)))

end readAny

/-! ## Whole trees -/

theorem forall₂_readsValue {depth : Nat} {r : Reader Json} {items : List Json}
    (whole : WholeItems items) (le : depthItems items ≤ depth)
    (h : ∀ j, j.Whole → j.depth ≤ depth → ReadsValue r j j) :
    List.Forall₂ (ReadsValue r) items items := by
  induction items with
  | nil => exact .nil
  | cons j items ih =>
    rw [WholeItems] at whole
    rw [depthItems] at le
    exact .cons (h j whole.1 (by omega)) (ih whole.2 (by omega))

/-- Members are collected in reverse. -/
theorem foldsMembers_tree {depth : Nat} {r : Reader Json} {members : List (String × Json)}
    (whole : WholeMembers members) (le : depthMembers members ≤ depth)
    (h : ∀ j, j.Whole → j.depth ≤ depth → ReadsValue r j j) (before : List (String × Json)) :
    FoldsMembers (fun key members => do readColon; return (key, ← r) :: members) members before
      (members.reverse ++ before) := by
  induction members generalizing before with
  | nil => rfl
  | cons x members ih =>
    obtain ⟨key, j⟩ := x
    rw [WholeMembers] at whole
    rw [depthMembers] at le
    refine ⟨(key, j) :: before, ((h j whole.1 (by omega)).map _).member, ?_⟩
    rw [List.reverse_cons, List.append_assoc]
    exact ih whole.2 (by omega) _

/-- A value whose numbers are integers is read if it does not nest too deep. -/
theorem readsValue_readTree (depth : Nat) :
    ∀ j : Json, j.Whole → j.depth ≤ depth → ReadsValue (readTree depth) j j := by
  induction depth with
  | zero =>
    intro j whole le
    cases j with
    | array | object =>
      rw [Json.depth] at le
      omega
    | _ => exact readsValue_readAny whole rfl
  | succ depth ih =>
    intro j whole le
    cases j with
    | array items =>
      intro gap text rest hg spells ends
      rw [Spells] at spells
      rw [Json.Whole] at whole
      rw [Json.depth] at le
      obtain ⟨inner, spells, rfl⟩ := spells
      have items_ := reads_readItems (forall₂_readsValue whole (by omega) ih) spells rest
      exact reads_readAny_list hg ((reads_advance '[' _).bind items_.map)
    | object members =>
      intro gap text rest hg spells ends
      rw [Spells] at spells
      rw [Json.Whole] at whole
      rw [Json.depth] at le
      obtain ⟨inner, spells, rfl⟩ := spells
      have members_ := reads_readMembers (foldsMembers_tree whole (by omega) ih []) spells rest
      refine reads_readAny_object hg ((reads_advance '\x7b' _).bind (members_.bind
        ((reads_endObject .nil rest).bind ?_)))
      rw [List.append_nil, List.reverse_reverse]
      exact Takes.pure _ _
    | _ => exact readsValue_readAny whole rfl

/-! ## Trees that are too deep -/

theorem exists_deep_item {depth : Nat} {items : List Json} (h : depth < depthItems items) :
    ∃ good bad others, items = good ++ bad :: others ∧ depthItems good ≤ depth ∧
      depth < bad.depth := by
  induction items with
  | nil => simp [depthItems] at h
  | cons j items ih =>
    by_cases deep : depth < j.depth
    · exact ⟨[], j, items, rfl, Nat.zero_le _, deep⟩
    · rw [depthItems] at h
      obtain ⟨good, bad, others, rfl, le, lt⟩ := ih (by omega)
      exact ⟨j :: good, bad, others, rfl, by rw [depthItems]; omega, lt⟩

theorem exists_deep_member {depth : Nat} {members : List (String × Json)}
    (h : depth < depthMembers members) :
    ∃ good key bad others, members = good ++ (key, bad) :: others ∧ depthMembers good ≤ depth ∧
      depth < bad.depth := by
  induction members with
  | nil => simp [depthMembers] at h
  | cons x members ih =>
    obtain ⟨k, j⟩ := x
    by_cases deep : depth < j.depth
    · exact ⟨[], k, j, members, rfl, Nat.zero_le _, deep⟩
    · rw [depthMembers] at h
      obtain ⟨good, key, bad, others, rfl, le, lt⟩ := ih (by omega)
      exact ⟨(k, j) :: good, key, bad, others, rfl, by rw [depthMembers]; omega, lt⟩

/-- The error says that lists and objects nest too deep. -/
def TooDeep (e : Error) : Prop := e.problem = .tooDeep

theorem refuses_failNext (problem : Problem) (text : Text) :
    Refuses Cursor.rest (fun e => e.problem = problem) (failNext problem : Reader α) text :=
  fun _ _ => ⟨_, rfl, rfl⟩

/-- A value that nests too deep is refused. -/
theorem refusesValue_readTree (depth : Nat) :
    ∀ j : Json, j.Whole → depth < j.depth → RefusesValue TooDeep (readTree depth) j := by
  induction depth with
  | zero =>
    intro j whole lt gap text rest hg spells ends
    cases j with
    | array items =>
      rw [Spells] at spells
      obtain ⟨inner, -, rfl⟩ := spells
      exact refuses_readAny_list hg (refuses_failNext .tooDeep _)
    | object members =>
      rw [Spells] at spells
      obtain ⟨inner, -, rfl⟩ := spells
      exact refuses_readAny_object hg (refuses_failNext .tooDeep _)
    | null => simp [Json.depth] at lt
    | bool _ => simp [Json.depth] at lt
    | number _ => simp [Json.depth] at lt
    | string _ => simp [Json.depth] at lt
  | succ depth ih =>
    intro j whole lt gap text rest hg spells ends
    cases j with
    | array items =>
      rw [Spells] at spells
      rw [Json.Whole] at whole
      rw [Json.depth] at lt
      obtain ⟨inner, spells, rfl⟩ := spells
      obtain ⟨good, bad, others, rfl, le, deep⟩ := exists_deep_item (Nat.lt_of_succ_lt_succ lt)
      obtain ⟨whole_good, whole_bad⟩ := wholeItems_append.1 whole
      rw [WholeItems] at whole_bad
      have items_ := refuses_readItems
        (forall₂_readsValue whole_good le (readsValue_readTree depth))
        (ih bad whole_bad.1 deep) spells rest
      exact refuses_readAny_list hg (.after (reads_advance '[' _) items_.bind)
    | object members =>
      rw [Spells] at spells
      rw [Json.Whole] at whole
      rw [Json.depth] at lt
      obtain ⟨inner, spells, rfl⟩ := spells
      obtain ⟨good, key, bad, others, rfl, le, deep⟩ :=
        exists_deep_member (Nat.lt_of_succ_lt_succ lt)
      obtain ⟨whole_good, whole_bad⟩ := wholeMembers_append.1 whole
      rw [WholeMembers] at whole_bad
      have members_ := refuses_readMembers
        (foldsMembers_tree whole_good le (readsValue_readTree depth) [])
        ((ih bad whole_bad.1 deep).bind _).member spells rest
      exact refuses_readAny_object hg (.after (reads_advance '\x7b' _) members_.bind)
    | null => simp [Json.depth] at lt
    | bool _ => simp [Json.depth] at lt
    | number _ => simp [Json.depth] at lt
    | string _ => simp [Json.depth] at lt

end Signoff.Json
