import Signoff.Proofs.Json.Passing

/-!
# Schemas read the value of a text

What a schema reads straight from a text is what it makes of the value that the text holds
(`Schema.Sound`). Of the text nothing is asked: not how it is spaced, not the order of its members,
not how its strings are escaped. The two readers are followed side by side, and both stop in the
same place.

* `sound_any`, `sound_text`, `sound_flag`, `sound_choice`, `Schema.Sound.map`, `optional`, `list`,
  `table`: the schemas that are no records.
* `Fields.sound_nil`, `Fields.Sound.cons`: fields, one after another; a member that they have no
  field for is only passed, which is where `stopAlike_skipValue` is needed.
* `Fields.Sound.record`: records, as a list or as an object.
* `Schema.Sound.ofText`: whole texts.
-/

namespace Signoff.Json

variable {α β π σ α' β' σ' : Type} {R : α → α' → Prop} {origin : Origin}

/-! ## Lists and objects -/

theorem concur_readItemsFrom {item : Reader α} {item' : Reader α'} (h : Concur R item item')
    (bound : Text) {before : List α} {before' : List α'} (hb : List.Forall₂ R before before') :
    Concur (List.Forall₂ R) (readItemsFrom item bound before)
      (readItemsFrom item' bound before') := by
  induction bound generalizing before before' with
  | nil => exact .left (fails_failHere _)
  | cons g bound ih =>
    have same : before'.isEmpty = before.isEmpty := by cases hb <;> rfl
    unfold readItemsFrom
    rw [same]
    refine .step fun more => ?_
    cases more with
    | true => exact h.bind fun a b related => ih (.cons related hb)
    | false => exact .pure (List.rel_reverse hb)

theorem concur_readItems {item : Reader α} {item' : Reader α'} (h : Concur R item item') :
    Concur (List.Forall₂ R) (readItems item) (readItems item') :=
  .step fun s => (concur_readItemsFrom h s.rest .nil).bind fun _ _ related =>
    .step fun _ => .pure related

theorem concur_readMembersFrom {member : String → σ → Reader σ} {member' : String → σ' → Reader σ'}
    {I : σ → σ' → Prop} (h : ∀ key s t, I s t → Concur I (member key s) (member' key t))
    (bound : Text) (first : Bool) {s : σ} {t : σ'} (start : I s t) :
    Concur I (readMembersFrom member bound first s) (readMembersFrom member' bound first t) := by
  induction bound generalizing first s t with
  | nil => exact .left (fails_failHere _)
  | cons g bound ih =>
    refine .step fun more => ?_
    cases more with
    | true => exact .step fun key => (h key s t start).bind fun _ _ => ih false
    | false => exact .pure start

theorem concur_readMembers {member : String → σ → Reader σ} {member' : String → σ' → Reader σ'}
    {I : σ → σ' → Prop} (h : ∀ key s t, I s t → Concur I (member key s) (member' key t))
    {s : σ} {t : σ'} (start : I s t) :
    Concur I (readMembers member s) (readMembers member' t) :=
  .step fun c => concur_readMembersFrom h c.rest true start

/-- Both look for the next item of a list, and either there is one or the list ends here. -/
theorem concur_nextItem {first : Bool} {f : Bool → Reader α} {f' : Bool → Reader α'}
    (more : Concur R (f true) (f' true))
    (end_ : ConcurAt (some (some ']')) R (f false) (f' false)) :
    Concur R (nextItem first >>= f) (nextItem first >>= f') := by
  unfold nextItem
  simp only [bind_assoc]
  refine concur_token fun token => ?_
  split
  · exact .fails_left ((fails_failHere _).bind _)
  split
  · rename_i same
    subst same
    simpa only [pure_bind] using end_
  split
  · simpa only [pure_bind] using .of more
  split
  · simp only [bind_assoc]
    refine .of (.step fun _ => .step fun token => ?_)
    split
    · exact .left ((fails_failHere _).bind _)
    split
    · exact .left ((fails_failNext _).bind _)
    · simpa only [pure_bind] using more
  · exact .fails_left ((fails_failNext _).bind _)

/-! ## Any value -/

theorem concur_readAny {list object list' object' : Reader Json} (hl : Concur Eq list list')
    (ho : Concur Eq object object') :
    Concur Eq (readAny id list object) (readAny id list' object') := by
  refine .step fun token => ?_
  split
  · exact .same _
  · exact .same _
  split
  · exact .same _
  split
  · exact .same _
  split
  · exact .same _
  split
  · exact .same _
  split
  · exact .same _
  split
  · exact hl
  split
  · exact ho
  · exact .same _

/-- A value is read as the same at any depth that allows it. -/
theorem concur_readTree (depth depth' : Nat) : Concur Eq (readTree depth) (readTree depth') := by
  induction depth generalizing depth' with
  | zero =>
    cases depth' <;> exact concur_readAny (.left (fails_failNext _)) (.left (fails_failNext _))
  | succ depth ih =>
    cases depth' with
    | zero => exact concur_readAny (.right (fails_failNext _)) (.right (fails_failNext _))
    | succ depth' =>
      refine concur_readAny (.step fun _ => ?_) (.step fun _ => ?_)
      · exact (concur_readItems (ih depth')).map fun _ _ related => by
          rw [List.forall₂_eq_eq_eq] at related
          rw [related]
      · refine (concur_readMembers (fun key s t eq => .step fun _ => (ih depth').map ?_)
          rfl).bind ?_
        · rintro j _ rfl
          rw [eq]
        · rintro members _ rfl
          exact .same _

/-! ## The value at a token -/

/-- Both look at the same token, the second as it begins to read any value. -/
theorem concur_token_readTree {f : Option Glyph → Reader α} {R : α → Json → Prop} {depth : Nat}
    (h : ∀ token, ConcurAt token R (f token) (readTree depth)) :
    Concur R (peekToken >>= f) (readTree depth) := by
  obtain ⟨g, eq⟩ : ∃ g, readTree depth = peekToken >>= g := by cases depth <;> exact ⟨_, rfl⟩
  rw [eq] at h ⊢
  rw [← peekToken_peekToken g]
  exact concur_token h

section

variable {R : α → Json → Prop} {r : Reader α} {depth : Nat}

theorem concurAt_null (h : Concur R r (do readWord ['n', 'u', 'l', 'l']; return .null)) :
    ConcurAt (some (some 'n')) R r (readTree depth) := by
  cases depth <;> exact .right (.of h)

theorem concurAt_true (h : Concur R r (do readWord ['t', 'r', 'u', 'e']; return .bool true)) :
    ConcurAt (some (some 't')) R r (readTree depth) := by
  cases depth <;> exact .right (.of h)

theorem concurAt_false
    (h : Concur R r (do readWord ['f', 'a', 'l', 's', 'e']; return .bool false)) :
    ConcurAt (some (some 'f')) R r (readTree depth) := by
  cases depth <;> exact .right (.of h)

theorem concurAt_string (h : Concur R r (do advance; return .string (← readString))) :
    ConcurAt (some (some '"')) R r (readTree depth) := by
  cases depth <;> exact .right (.of h)

theorem concurAt_list (h : ∀ depth, Concur R r (do
    advance; return .array (← readItems (readTree depth)))) :
    ConcurAt (some (some '[')) R r (readTree depth) := by
  cases depth with
  | zero => exact .right (.fails_right (fails_failNext _))
  | succ depth => exact .right (.of (h depth))

theorem concurAt_object (h : ∀ depth, Concur R r (do
    advance
    let members ← readMembers (fun key members => do
      readColon
      return (key, ← readTree depth) :: members) []
    endObject
    return .object members.reverse)) :
    ConcurAt (some (some '\x7b')) R r (readTree depth) := by
  cases depth with
  | zero => exact .right (.fails_right (fails_failNext _))
  | succ depth => exact .right (.of (h depth))

end

/-! ## Schemas -/

/-- What the schema reads from a text, it decodes from the value that the text reads as. -/
def Schema.Sound (schema : Schema α) : Prop :=
  ∀ origin depth depth', Concur (fun a j => schema.decode origin j = .ok a) (schema.read depth)
    (readTree depth')

theorem sound_any : Schema.any.Sound := fun _ depth depth' =>
  (concur_readTree depth depth').mono fun _ _ same => congrArg Except.ok same.symm

theorem Schema.Sound.map {schema : Schema α} (h : schema.Sound) (f : α → β) :
    (Schema.map f schema).Sound := by
  intro origin depth depth'
  unfold Schema.decode
  exact ((h origin depth depth').swap.map_right fun j a eq => by rw [eq]; rfl).swap

theorem concur_readText (wanted : Wanted) (depth : Nat) :
    Concur (fun s j => j = .string s) (readText wanted) (readTree depth) := by
  refine concur_token_readTree fun token => ?_
  by_cases quote : token = some (some '"')
  · subst quote
    rw [if_pos rfl]
    exact concurAt_string (.step fun _ => (Concur.same _).map_right fun _ _ eq => eq ▸ rfl)
  · rw [if_neg quote]
    exact .fails_left (fails_failType _)

theorem sound_text : Schema.text.Sound := by
  intro origin depth depth'
  refine (concur_readText .string depth').mono fun s j eq => ?_
  rw [eq]
  rfl

theorem sound_flag : Schema.flag.Sound := by
  intro origin depth depth'
  refine concur_token_readTree fun token => ?_
  split
  · exact concurAt_true (.step fun _ => .pure rfl)
  · exact concurAt_false (.step fun _ => .pure rfl)
  · exact .fails_left (fails_failType _)

/-- A value or null, where null is no value. -/
theorem Schema.Sound.optional {schema : Schema α} (h : schema.Sound)
    (some_ : ∀ origin a, schema.decode origin .null ≠ .ok a) : (Schema.optional schema).Sound := by
  intro origin depth depth'
  refine concur_token_readTree fun token => ?_
  split
  · rename_i null
    subst null
    exact concurAt_null (.step fun _ => .pure rfl)
  · refine .of ((h origin depth depth').map_left fun a j eq => ?_)
    cases j with
    | null => exact absurd eq (some_ origin a)
    | _ =>
      show (schema.decode origin _).map some = _
      rw [eq]
      rfl

theorem mapM_eq_ok_iff {f : α → Except Problem β} {xs : List α} {ys : List β} :
    xs.mapM f = .ok ys ↔ List.Forall₂ (fun y x => f x = .ok y) ys xs := by
  induction xs generalizing ys with
  | nil =>
    rw [List.mapM_nil, List.forall₂_nil_right_iff]
    exact ⟨fun eq => (Except.ok.inj eq).symm, fun eq => eq ▸ rfl⟩
  | cons x xs ih =>
    rw [List.mapM_cons, bind_eq_ok, List.forall₂_cons_right_iff]
    constructor
    · rintro ⟨y, here, there⟩
      obtain ⟨ys, rest, last⟩ := bind_eq_ok.1 there
      cases last
      exact ⟨y, ys, here, ih.1 rest, rfl⟩
    · rintro ⟨y, ys, here, rest, rfl⟩
      exact ⟨y, here, bind_eq_ok.2 ⟨ys, ih.2 rest, rfl⟩⟩

theorem Schema.Sound.list {schema : Schema α} (h : schema.Sound) : (Schema.list schema).Sound := by
  intro origin depth depth'
  refine concur_token_readTree fun token => ?_
  split
  · rename_i bracket
    subst bracket
    refine concurAt_list fun depth' => ?_
    cases depth with
    | zero => exact .left (fails_failNext _)
    | succ depth =>
      exact .step fun _ => (concur_readItems (h origin depth depth')).map_right
        fun as items related => mapM_eq_ok_iff.2 related
  · exact .fails_left (fails_failType _)

theorem Schema.Sound.table {schema : Schema α} (h : schema.Sound) :
    (Schema.table schema).Sound := by
  intro origin depth depth'
  refine concur_token_readTree fun token => ?_
  split
  · rename_i brace
    subst brace
    refine concurAt_object fun depth' => ?_
    cases depth with
    | zero => exact .left (fails_failNext _)
    | succ depth =>
      refine .step fun _ => (concur_readMembers
        (I := List.Forall₂ fun x y => (schema.decode origin y.2).map (y.1, ·) = .ok x)
        (fun key _ _ before => .step fun _ => (h origin depth depth').map fun a j eq =>
          .cons (by rw [eq]; rfl) before) .nil).bind fun members all related => ?_
      exact .step fun _ => .pure (mapM_eq_ok_iff.2 (List.rel_reverse related))
  · exact .fails_left (fails_failType _)

theorem concur_readChosen (names : List (String × α)) (wanted : Wanted) (depth : Nat) :
    Concur (fun a j => ∃ s, j = .string s ∧ chosen names s = .ok a) (readChosen names wanted)
      (readTree depth) := by
  rw [← bind_pure (readTree depth)]
  refine (concur_readText wanted depth).bind fun s j eq => ?_
  cases named : chosen names s with
  | ok a => exact .pure ⟨s, eq, named⟩
  | error p => exact .left (fails_failHere p)

theorem concur_readUnit (depth : Nat) :
    Concur (fun _ j => j = .null) readUnit (readTree depth) := by
  refine concur_token_readTree fun token => ?_
  by_cases word : token = some (some 'n')
  · subst word
    rw [if_pos rfl]
    exact concurAt_null ((Concur.same _).map_right fun _ _ _ => rfl)
  · rw [if_neg word]
    exact .fails_left (fails_failType _)

/-- Behind its first member the object ends for both, or for neither. -/
theorem concur_endVariant (a : α) {member : String → List (String × Json) →
    Reader (List (String × Json))} (bound : Text) (before : List (String × Json)) :
    Concur (fun a' j => a' = a ∧ j = Json.object before.reverse)
      (do
        match ← peekToken with
        | none => failHere .endOfObject
        | some g =>
          if g = some '\x7d' then
            advance
            return a
          else failHere .expectedValue)
      (do
        let members ← readMembersFrom member bound false before
        endObject
        return .object members.reverse) := by
  rcases bound with _ | ⟨g, bound⟩
  · exact .right ((fails_failHere _).bind _)
  unfold readMembersFrom nextMember endObject
  simp only [bind_assoc]
  refine concur_token fun token => ?_
  split
  · exact .fails_left (fails_failHere _)
  split
  · rename_i end_
    subst end_
    simp only [reduceIte, pure_bind, Bool.false_eq_true]
    refine .right ?_
    dsimp only
    rw [if_pos rfl]
    exact .of (.step fun _ => .pure ⟨rfl, rfl⟩)
  · exact .fails_left (fails_failHere _)

/-- An object whose only key is a name and has null under it. -/
theorem concur_readVariant (names : List (String × α)) (origin : Origin) (depth : Nat) :
    Concur (fun a j => (Schema.choice names).decode origin j = .ok a)
      (do
        let a ← readChosen names .variantName
        readColon
        readUnit
        match ← peekToken with
        | none => failHere .endOfObject
        | some g =>
          if g = some '\x7d' then
            advance
            return a
          else failHere .expectedValue)
      (do
        let members ← readMembers (fun key members => do
          readColon
          return (key, ← readTree depth) :: members) []
        endObject
        return .object members.reverse) := by
  unfold readMembers readChosen readText
  simp only [bind_assoc]
  refine .get_right fun s => ?_
  generalize s.rest = bound
  rcases bound with _ | ⟨g, bound⟩
  · exact .right ((fails_failHere _).bind _)
  unfold readMembersFrom nextMember readKey
  simp only [bind_assoc]
  refine concur_token fun token => ?_
  by_cases quote : token = some (some '"')
  case neg =>
    rw [if_neg quote]
    exact .fails_left ((fails_failType _).bind _)
  subst quote
  simp only [if_true, reduceIte, bind_assoc, pure_bind, Option.some.injEq, Char.reduceEq]
  -- the name of the variant is the key of the member, and null its value
  refine .of (.step fun _ => .step fun key => ?_)
  rcases named : chosen names key with p | a
  · exact .left ((fails_failHere p).bind _)
  refine .step fun _ => (concur_readUnit depth).bind fun _ j null => ?_
  refine (concur_endVariant a bound [(key, j)]).mono ?_
  rintro _ _ ⟨rfl, rfl⟩
  rw [null]
  show (chosen names key >>= fun a => Except.ok a) = _
  rw [named]
  rfl

theorem sound_choice (names : List (String × α)) : (Schema.choice names).Sound := by
  intro origin depth depth'
  refine concur_token_readTree fun token => ?_
  split
  · exact .fails_left (fails_failHere _)
  rename_i g
  split
  · refine .of ((concur_readChosen names .string depth').mono ?_)
    rintro a _ ⟨s, rfl, named⟩
    exact named
  split
  · rename_i brace
    subst brace
    refine concurAt_object fun depth' => ?_
    cases depth with
    | zero => exact .left (fails_failNext _)
    | succ depth => exact .step fun _ => concur_readVariant names origin depth'
  · exact .fails_left (fails_failNext _)

/-! ## Fields -/

/-- What the fields read from the text of members and items, they decode from the values that these
read as. -/
structure Fields.Sound (fields : Fields π σ) : Prop where
  known : ∀ {key depth slots r}, fields.readMember depth key slots = some r →
    ∀ origin depth', Concur (fun slots' j => fields.decodeMember origin key slots j =
      some (.ok slots')) r (do readColon; readTree depth')
  unknown : ∀ {key depth slots}, fields.readMember depth key slots = none →
    fields.hasKey key = false
  missing : ∀ {β : Type} (b : β) origin title total index depth, ConcurAt (some (some ']'))
    (fun a b' => b' = b ∧ fields.decodeItems origin title total index [] = .ok (a, []))
    (do let a ← fields.readItems title total index depth; endList; return a)
    (do endList; return b)
  items : ∀ origin title total index depth depth' bound before,
    decide (index = 0) = before.isEmpty → Concur
      (fun a all => ∃ items, all = before.reverse ++ items ∧
        fields.decodeItems origin title total index items = .ok (a, []))
      (do let a ← fields.readItems title total index depth; endList; return a)
      (do let all ← readItemsFrom (readTree depth') bound before; endList; return all)

theorem Fields.sound_nil : Fields.nil.Sound where
  known := nofun
  unknown _ := rfl
  missing b origin title total index depth := by
    unfold Fields.readItems
    rw [pure_bind]
    exact .of (.step fun _ => .pure ⟨rfl, rfl⟩)
  items origin title total index depth depth' bound before first := by
    rcases bound with _ | ⟨g, bound⟩
    · exact .right ((fails_failHere _).bind _)
    unfold Fields.readItems readItemsFrom nextItem endList
    simp only [bind_assoc, pure_bind]
    refine concur_token fun token => ?_
    split
    · exact .fails_left ((fails_failHere _).bind _)
    split
    · rename_i same
      subst same
      simp only [pure_bind, Bool.false_eq_true, if_false]
      refine .right ?_
      dsimp only
      rw [if_pos rfl]
      exact .of (.step fun _ => .pure ⟨[], by simp, rfl⟩)
    split
    -- an item that no field is left for
    · refine .fails_left (Fails.bind (.after fun _ => .after fun _ => ?_) _)
      split
      · exact fails_failNext _
      · exact fails_failNext _
    · exact .fails_left ((fails_failNext _).bind _)

/-- A field that a list is too short to have. -/
theorem Fields.Sound.short {fields : Fields π σ} (hs : fields.Sound) (key : String)
    (schema : Schema α) (absent : Option α) (a : α) (origin : Origin) (title : String)
    (total index depth : Nat) (b : β) :
    ConcurAt (some (some ']'))
      (fun a' b' => b' = b ∧ (Fields.cons key schema absent (some a) fields).decodeItems origin
        title total index [] = .ok (a', []))
      (do let r ← fields.readItems title total (index + 1) depth; endList; return (a, r))
      (do endList; return b) := by
  have rest := (hs.missing b origin title total (index + 1) depth).map_left
    (S := fun a' b' => b' = b ∧ (Fields.cons key schema absent (some a) fields).decodeItems origin
      title total index [] = .ok (a', [])) (g := fun r => (a, r)) fun r b' eq => by
        refine ⟨eq.1, ?_⟩
        unfold Fields.decodeItems
        rw [eq.2]
        rfl
  simpa only [bind_assoc, pure_bind] using rest

theorem Fields.Sound.missing_cons {fields : Fields π σ} (hs : fields.Sound) (key : String)
    (schema : Schema α) (absent short : Option α) (b : β) (origin : Origin) (title : String)
    (total index depth : Nat) :
    ConcurAt (some (some ']'))
      (fun a b' => b' = b ∧ (Fields.cons key schema absent short fields).decodeItems origin title
        total index [] = .ok (a, []))
      (do
        let a ← (Fields.cons key schema absent short fields).readItems title total index depth
        endList
        return a)
      (do endList; return b) := by
  unfold Fields.readItems nextItem
  simp only [bind_assoc]
  refine .left ?_
  simp only [reduceIte, pure_bind, Bool.false_eq_true]
  cases short with
  | none => exact .fails_left ((fails_failAfterList _).bind _)
  | some a =>
    simp only [bind_assoc, pure_bind]
    exact hs.short key schema absent a origin title total index depth b

theorem Fields.Sound.items_cons {schema : Schema α} (h : schema.Sound) {fields : Fields π σ}
    (hs : fields.Sound) (key : String) (absent short : Option α) (origin : Origin) (title : String)
    (total index depth depth' : Nat) (bound : Text) (before : List Json)
    (first : decide (index = 0) = before.isEmpty) : Concur
      (fun a all => ∃ items, all = before.reverse ++ items ∧
        (Fields.cons key schema absent short fields).decodeItems origin title total index items =
          .ok (a, []))
      (do
        let a ← (Fields.cons key schema absent short fields).readItems title total index depth
        endList
        return a)
      (do let all ← readItemsFrom (readTree depth') bound before; endList; return all) := by
  rcases bound with _ | ⟨g, bound⟩
  · exact .right ((fails_failHere _).bind _)
  unfold Fields.readItems readItemsFrom
  rw [first]
  simp only [bind_assoc]
  refine concur_nextItem ?_ ?_
  · simp only [if_true, bind_assoc, pure_bind]
    refine (h origin depth depth').bind fun a j eq => ?_
    have rest := (hs.items origin title total (index + 1) depth depth' bound (j :: before)
      (by simp)).map_left (T := fun a all => ∃ items, all = before.reverse ++ items ∧
        (Fields.cons key schema absent short fields).decodeItems origin title total index items =
          .ok (a, [])) (g := fun r => (a, r)) ?_
    · simpa only [bind_assoc, pure_bind] using rest
    rintro r _ ⟨items, rfl, there⟩
    refine ⟨j :: items, by simp, ?_⟩
    unfold Fields.decodeItems
    rw [eq]
    show (fields.decodeItems _ _ _ _ _ >>= _) = _
    rw [there]
    rfl
  · simp only [Bool.false_eq_true, if_false, pure_bind]
    cases short with
    | none => exact .fails_left ((fails_failAfterList _).bind _)
    | some a =>
      simp only [bind_assoc, pure_bind]
      refine (hs.short key schema absent a origin title total index depth _).mono ?_
      rintro a' _ ⟨rfl, eq⟩
      exact ⟨[], (List.append_nil _).symm, eq⟩

theorem Fields.Sound.known_cons {schema : Schema α} (h : schema.Sound) {fields : Fields π σ}
    (hs : fields.Sound) {key : String} {absent short : Option α} {k : String} {depth : Nat}
    {slots : Option α × π} {r : Reader (Option α × π)}
    (eq : (Fields.cons key schema absent short fields).readMember depth k slots = some r)
    (origin : Origin) (depth' : Nat) :
    Concur (fun slots' j => (Fields.cons key schema absent short fields).decodeMember origin k slots
      j = some (.ok slots')) r (do readColon; readTree depth') := by
  obtain ⟨slot, slots⟩ := slots
  unfold Fields.readMember at eq
  unfold Fields.decodeMember
  split at eq
  · rename_i same
    obtain rfl := Option.some.inj eq
    simp only [if_pos same]
    split
    · exact .left (fails_failAfterObject _)
    · refine .step fun _ => (h origin depth depth').map_left fun a j eq => ?_
      rw [eq]
      rfl
  · rename_i other
    split at eq
    · cases eq
    · rename_i r' there
      obtain rfl := Option.some.inj eq
      simp only [if_neg other]
      refine (hs.known there origin depth').map_left fun slots' j eq => ?_
      rw [eq]
      rfl

theorem Fields.Sound.unknown_cons {schema : Schema α} {fields : Fields π σ} (hs : fields.Sound)
    {key : String} {absent short : Option α} {k : String} {depth : Nat} {slots : Option α × π}
    (eq : (Fields.cons key schema absent short fields).readMember depth k slots = none) :
    (Fields.cons key schema absent short fields).hasKey k = false := by
  obtain ⟨slot, slots⟩ := slots
  unfold Fields.readMember at eq
  unfold Fields.hasKey
  split at eq
  · cases eq
  · rename_i other
    split at eq
    · rename_i there
      rw [hs.unknown there, Bool.or_false]
      exact beq_eq_false_iff_ne.2 other
    · cases eq

theorem Fields.Sound.cons {schema : Schema α} (h : schema.Sound) {fields : Fields π σ}
    (hs : fields.Sound) (key : String) (absent short : Option α) :
    (Fields.cons key schema absent short fields).Sound where
  known := hs.known_cons h
  unknown := hs.unknown_cons
  missing := hs.missing_cons key schema absent short
  items := hs.items_cons h key absent short

/-! ## Records -/

theorem Fields.Sound.takeMember {fields : Fields π σ} (hs : fields.Sound) (origin : Origin)
    (depth depth' : Nat) (key : String) (slots : π) :
    Concur (fun slots' j => decodeMembers (fields.decodeMember origin) [(key, j)] slots =
      .ok slots') (fields.takeMember depth key slots) (do readColon; readTree depth') := by
  unfold Fields.takeMember
  simp only [decodeMembers]
  split
  · rename_i r eq
    refine (hs.known eq origin depth').mono fun slots' j here => ?_
    rw [here]
  · rename_i eq
    have unknown (j : Json) : fields.decodeMember origin key slots j = none :=
      fields.decodeMember_eq_none_iff.2 (hs.unknown eq)
    refine .step fun _ => ((stopAlike_skipValue depth').swap.map_left fun _ j _ => ?_)
    rw [unknown]

theorem Fields.Sound.record_list {fields : Fields π σ} (hs : fields.Sound) (title : String)
    (build : σ → α) (origin : Origin) (depth depth' : Nat) :
    Concur (fun a j => (Schema.record title fields build).decode origin j = .ok a)
      (do let a ← fields.readItems title fields.size 0 depth; endList; return build a)
      (do return .array (← Json.readItems (readTree depth'))) := by
  unfold Json.readItems
  simp only [bind_assoc]
  refine .get_right fun s => ?_
  have items := hs.items origin title fields.size 0 depth depth' s.rest [] rfl
  have built (a : σ) (all : List Json) (h : ∃ items, all = [].reverse ++ items ∧
      fields.decodeItems origin title fields.size 0 items = .ok (a, [])) :
      (Schema.record title fields build).decode origin (.array all) = .ok (build a) := by
    obtain ⟨js, same, eq⟩ := h
    obtain rfl : all = js := same
    show (fields.decodeItems _ _ _ _ all >>= _) = _
    rw [eq]
    rfl
  have record := items.map
    (S := fun a j => (Schema.record title fields build).decode origin j = .ok a) built
  simpa only [bind_assoc, pure_bind] using record

/-- The slots hold what the members say that were read so far. -/
theorem Fields.Sound.readMembers {fields : Fields π σ} (hs : fields.Sound) (origin : Origin)
    (depth depth' : Nat) :
    Concur (fun slots (members : List (String × Json)) =>
        decodeMembers (fields.decodeMember origin) members.reverse fields.empty = .ok slots)
      (Json.readMembers (fields.takeMember depth) fields.empty)
      (Json.readMembers (fun key members => do
        readColon
        return (key, ← readTree depth') :: members) []) := by
  refine concur_readMembers (fun key slots members eq => ?_) rfl
  have member := (hs.takeMember origin depth depth' key slots).map_right
    (T := fun slots (members : List (String × Json)) =>
      decodeMembers (fields.decodeMember origin) members.reverse fields.empty = .ok slots)
    (g := fun j => (key, j) :: members) fun slots' j here => by
      rw [List.reverse_cons, decodeMembers_append, eq]
      exact here
  simpa only [bind_assoc] using member

theorem Fields.Sound.record_object {fields : Fields π σ} (hs : fields.Sound) (title : String)
    (build : σ → α) (origin : Origin) (depth depth' : Nat) :
    Concur (fun a j => (Schema.record title fields build).decode origin j = .ok a)
      (do
        let slots ← Json.readMembers (fields.takeMember depth) fields.empty
        let a ← orFailAfterObject (fields.finish slots)
        endObject
        return build a)
      (do
        let members ← Json.readMembers (fun key members => do
          readColon
          return (key, ← readTree depth') :: members) []
        endObject
        return .object members.reverse) := by
  refine (hs.readMembers origin depth depth').bind fun slots members eq => ?_
  cases done : fields.finish slots with
  | error p => exact .left ((fails_failAfterObject p).bind _)
  | ok a =>
    refine .step fun _ => .pure ?_
    show (decodeMembers _ members.reverse _ >>= _) = _
    rw [eq]
    show (fields.finish slots).map build = _
    rw [done]
    rfl

theorem Fields.Sound.record {fields : Fields π σ} (hs : fields.Sound) (title : String)
    (build : σ → α) : (Schema.record title fields build).Sound := by
  intro origin depth depth'
  refine concur_token_readTree fun token => ?_
  split
  · refine concurAt_list fun depth' => ?_
    cases depth with
    | zero => exact .left (fails_failNext _)
    | succ depth => exact .step fun _ => hs.record_list title build origin depth depth'
  · refine concurAt_object fun depth' => ?_
    cases depth with
    | zero => exact .left (fails_failNext _)
    | succ depth => exact .step fun _ => hs.record_object title build origin depth depth'
  · exact .fails_left (fails_failType _)

/-! ## Whole texts -/

theorem parseAll_eq_ok {r : Reader α} {text : Text} {a : α} (h : parseAll r text = .ok a) :
    ∃ s, r (.start text) = .ok (a, s) := by
  unfold parseAll at h
  obtain ⟨⟨a', s⟩, eq, last⟩ := bind_eq_ok.1 h
  obtain ⟨b, t, here, there⟩ := Takes.run_bind eq
  obtain ⟨token, u, -, done⟩ := Takes.run_bind there
  cases last
  split at done
  · exact (fails_failNext _ done).elim
  · cases done
    exact ⟨t, here⟩

/-- What the schema reads from a text it decodes from the value that the text reads as, at whatever
depth. -/
theorem Schema.Sound.ofText {schema : Schema α} (h : schema.Sound) {text : Text} {a : α}
    (read : schema.ofText text = .ok a) {depth : Nat} {j : Json}
    (value : parseAll (readTree depth) text = .ok j) (origin : Origin) :
    schema.decode origin j = .ok a := by
  obtain ⟨s, read⟩ := parseAll_eq_ok read
  obtain ⟨t, value⟩ := parseAll_eq_ok value
  exact (h origin depthLimit depth read value).1

end Signoff.Json
