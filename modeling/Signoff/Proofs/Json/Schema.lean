import Signoff.Json.Schema.Reader
import Signoff.Proofs.Json.Skipping
import Signoff.Proofs.Json.Records
import Signoff.Proofs.Text.Utf8

/-!
# Reading a schema from text

What a schema decodes from a value in memory it also reads from every spelling of the value
(`Schema.faithful`), if all numbers are integers and lists and objects do not nest too deep. So a
value that was written with its pretty text is read back (`Schema.ofText_pretty`), and so is one
that is spelled in another way (`Schema.ofText_ofChars`).

The proof follows the schema: there is one lemma for each way to build a schema or its fields.
-/

namespace Signoff.Json

variable {α β π σ π' σ' : Type} {origin : Origin} {depth : Nat}

/-- What the schema decodes from a value, it reads from the text of the value. -/
def Schema.Faithful (schema : Schema α) : Prop :=
  ∀ ⦃origin j a depth⦄, schema.decode origin j = .ok a → j.Whole → j.depth ≤ depth →
    ReadsValue (schema.read depth) j a

/-- What the fields decode from members and items, they read from the text of these. -/
structure Fields.Faithful (fields : Fields π σ) : Prop where
  member : ∀ {origin key slots slots' j depth},
    fields.decodeMember origin key slots j = some (.ok slots') → j.Whole → j.depth ≤ depth →
    ∃ r, fields.readMember depth key slots = some r ∧ ReadsMember r j slots'
  items : ∀ {origin title total index items a depth inner},
    fields.decodeItems origin title total index items = .ok (a, []) → WholeItems items →
    depthItems items ≤ depth → SpellsItems (index = 0) items inner → ∀ rest, ∃ gap, Gap gap ∧
    Reads (fields.readItems title total index depth) (inner ++ rest) a (gap ++ ']' :: rest)

/-! ## Scalars -/

theorem faithful_any : Schema.any.Faithful := by
  intro origin j a depth h whole le
  obtain rfl := Except.ok.inj h
  exact readsValue_readTree depth j whole le

theorem reads_readText (wanted : Wanted) {gap : List Char} (hg : Gap gap) (s : String)
    (cs : List Char) : Reads (readText wanted) (gap ++ (renderString s ++ cs)) s cs := by
  rw [renderString, List.cons_append, List.cons_append, List.append_assoc]
  refine (reads_peekToken hg (by decide) _).bind ?_
  rw [if_pos rfl]
  exact (reads_advance '"' _).bind (reads_readString s cs)

theorem Spells.string {s : String} {text : List Char} (h : Spells (.string s) text) :
    text = renderString s :=
  (spells_scalar rfl).1 h

theorem faithful_text : Schema.text.Faithful := by
  intro origin j a depth h whole le gap text rest hg spells ends
  unfold Schema.decode at h
  split at h
  · obtain rfl := Except.ok.inj h
    rw [spells.string]
    exact reads_readText .string hg _ rest
  · cases h

theorem readsValue_flag (b : Bool) : ReadsValue (Schema.flag.read depth) (.bool b) b := by
  intro gap text rest hg spells ends
  obtain rfl := (spells_scalar rfl).1 spells
  cases b with
  | true =>
    exact (reads_peekToken hg (by decide) _).bind
      ((reads_readWord ['t', 'r', 'u', 'e'] rest).bind (Takes.pure _ _))
  | false =>
    exact (reads_peekToken hg (by decide) _).bind
      ((reads_readWord ['f', 'a', 'l', 's', 'e'] rest).bind (Takes.pure _ _))

theorem faithful_flag : Schema.flag.Faithful := by
  intro origin j a depth h whole le
  unfold Schema.decode at h
  split at h
  · obtain rfl := Except.ok.inj h
    exact readsValue_flag _
  · cases h

theorem reads_orFailHere {e : Except Problem α} {a : α} (h : e = .ok a) (cs : List Char) :
    Reads (orFailHere e) cs a cs := by
  subst h
  exact Takes.pure _ _

theorem faithful_natural (typeName : String) (limit : Nat) :
    (Schema.natural typeName limit).Faithful := by
  intro origin j a depth h whole le gap text rest hg spells ends
  have given : (Schema.natural typeName limit).decode .given j = .ok a := h
  unfold Schema.decode at h
  split at h
  · rename_i n fits
    obtain ⟨c, ds, eq, opens⟩ := (numeral_renderInt n).eq_cons
    have number := reads_readNumber ends fits
    rw [show text = c :: ds from ((spells_scalar rfl).1 spells).trans eq]
    rw [eq] at number
    refine (reads_peekToken hg (begins_number opens).noSpace _).bind ?_
    dsimp only
    rw [if_pos (by simpa using opens)]
    exact number.bind (reads_orFailHere given rest)
  · cases h

theorem faithful_instant : Schema.instant.Faithful := by
  intro origin j a depth h whole le gap text rest hg spells ends
  unfold Schema.decode at h
  split at h
  · rw [spells.string]
    exact (reads_readText .timestamp hg _ rest).bind (reads_orFailHere h rest)
  · cases h

theorem reads_readChosen {names : List (String × α)} {s : String} {a : α}
    (h : chosen names s = .ok a) (wanted : Wanted) {gap : List Char} (hg : Gap gap)
    (cs : List Char) : Reads (readChosen names wanted) (gap ++ (renderString s ++ cs)) a cs :=
  (reads_readText wanted hg s cs).bind (reads_orFailHere h cs)

theorem readsValue_readUnit : ReadsValue readUnit .null ⟨⟩ := by
  intro gap text rest hg spells ends
  obtain rfl := (spells_scalar rfl).1 spells
  refine (reads_peekToken hg (by decide) _).bind ?_
  rw [if_pos rfl]
  exact reads_readWord ['n', 'u', 'l', 'l'] rest

theorem faithful_choice (names : List (String × α)) : (Schema.choice names).Faithful := by
  intro origin j a depth h whole le gap text rest hg spells ends
  unfold Schema.decode at h
  split at h
  · have name := reads_readChosen h .string .nil rest
    rw [spells.string]
    rw [renderString, List.nil_append, List.cons_append, List.cons_append] at name
    rw [renderString, List.cons_append, List.cons_append]
    exact (reads_peekToken hg (by decide) _).bind name
  · rename_i key j
    obtain ⟨a', name, h⟩ := bind_eq_ok.1 h
    split at h
    · obtain rfl := Except.ok.inj h
      rw [Spells] at spells
      obtain ⟨inner, spells, rfl⟩ := spells
      rw [SpellsMembers] at spells
      obtain ⟨before, gap', gap'', value, others, sep, hg', hg'', one, all, rfl⟩ := spells
      have last := all.ends rest
      rw [SpellsMembers] at all
      obtain ⟨gap₀, hg₀, rfl⟩ := all
      rw [Json.depth] at le
      obtain ⟨depth, rfl⟩ := Nat.exists_eq_succ_of_ne_zero (n := depth) (by omega)
      simp only [List.cons_append, List.append_assoc, List.nil_append] at last ⊢
      refine (reads_peekToken hg (by decide) _).bind ?_
      dsimp only
      rw [if_neg (by decide), if_pos rfl]
      refine (reads_advance '\x7b' _).bind ((reads_readChosen name .variantName sep _).bind
        ((reads_readColon hg' _).bind ((readsValue_readUnit gap'' value _ hg'' one last).bind
          ((reads_peekToken hg₀ (by decide) rest).bind ?_))))
      dsimp only
      rw [if_pos rfl]
      exact (reads_advance '\x7d' rest).bind (Takes.pure _ _)
    · cases h
  · cases h
  · cases h

/-! ## Values of other schemas -/

theorem Schema.Faithful.map {schema : Schema α} (h : schema.Faithful) (f : α → β) :
    (Schema.map f schema).Faithful := by
  intro origin j b depth eq whole le
  unfold Schema.decode at eq
  obtain ⟨a, here, rfl⟩ := map_eq_ok.1 eq
  exact (h here whole le).map f

theorem Schema.Faithful.optional {schema : Schema α} (h : schema.Faithful) :
    (Schema.optional schema).Faithful := by
  intro origin j a depth eq whole le gap text rest hg spells ends
  unfold Schema.decode at eq
  split at eq
  · obtain rfl := Except.ok.inj eq
    obtain rfl := (spells_scalar rfl).1 spells
    refine (reads_peekToken hg (by decide) _).bind ?_
    rw [if_pos rfl]
    exact (reads_readWord ['n', 'u', 'l', 'l'] rest).bind (Takes.pure _ _)
  · rename_i some_
    obtain ⟨a, here, rfl⟩ := map_eq_ok.1 eq
    have value := h here whole le [] text rest .nil spells ends
    obtain ⟨c, text, rfl, opens⟩ := spells.opens
    refine (reads_peekToken hg opens.begins.noSpace _).bind ?_
    rw [if_neg fun h => opens.ne_n some_ (Option.some.inj (Option.some.inj h))]
    exact value.map

/-- The items of a list that is decoded are read one by one. -/
theorem forall₂_of_mapM {item : Reader α} {f : Json → Except Problem α} {items : List Json}
    {as : List α} (h : ∀ j ∈ items, ∀ a, f j = .ok a → ReadsValue item j a)
    (eq : items.mapM f = .ok as) : List.Forall₂ (ReadsValue item) items as := by
  induction items generalizing as with
  | nil =>
    obtain rfl := Except.ok.inj eq
    exact .nil
  | cons j items ih =>
    rw [List.mapM_cons] at eq
    obtain ⟨a, here, eq⟩ := bind_eq_ok.1 eq
    obtain ⟨as, there, eq⟩ := bind_eq_ok.1 eq
    obtain rfl := Except.ok.inj eq
    obtain ⟨first, others⟩ := List.forall_mem_cons.1 h
    exact .cons (first a here) (ih others there)

theorem Schema.Faithful.list {schema : Schema α} (h : schema.Faithful) :
    (Schema.list schema).Faithful := by
  intro origin j a depth eq whole le gap text rest hg spells ends
  unfold Schema.decode at eq
  split at eq
  · rw [Spells] at spells
    obtain ⟨inner, spells, rfl⟩ := spells
    rw [Json.Whole] at whole
    rw [Json.depth] at le
    obtain ⟨depth, rfl⟩ := Nat.exists_eq_succ_of_ne_zero (n := depth) (by omega)
    refine (reads_peekToken hg (by decide) _).bind ?_
    rw [if_pos rfl]
    have items := forall₂_of_mapM (fun j mem a here => h here (wholeItems_iff.1 whole j mem)
      (depthItems_le_iff.1 (Nat.le_of_succ_le_succ le) j mem)) eq
    exact (reads_advance '[' _).bind (reads_readItems items spells rest)
  · cases eq

/-- The members of an object that is decoded are read one by one. -/
theorem foldsMembers_of_decodeMembers {member : String → π → Json → Option (Except Problem π)}
    {reader : String → π → Reader π} {members : List (String × Json)} {slots slots' : π}
    (h : ∀ x ∈ members, ∀ slots slots', (member x.1 slots x.2).getD (.ok slots) = .ok slots' →
      ReadsMember (reader x.1 slots) x.2 slots')
    (eq : decodeMembers member members slots = .ok slots') :
    FoldsMembers reader members slots slots' := by
  induction members generalizing slots with
  | nil =>
    obtain rfl := Except.ok.inj eq
    rfl
  | cons x members ih =>
    obtain ⟨key, j⟩ := x
    rw [decodeMembers_cons_eq] at eq
    obtain ⟨slots₁, here, there⟩ := bind_eq_ok.1 eq
    obtain ⟨first, others⟩ := List.forall_mem_cons.1 h
    exact ⟨slots₁, first slots slots₁ here, ih others there⟩

/-- The members of an object with any keys are collected in reverse. -/
theorem decodeMembers_entries (f : Json → Except Problem α) (members : List (String × Json))
    (before : List (String × α)) :
    decodeMembers (fun key entries j => some ((f j).map fun a => (key, a) :: entries)) members
        before =
      (members.mapM fun x => (f x.2).map fun a => (x.1, a)).map fun as => as.reverse ++ before := by
  induction members generalizing before with
  | nil => rfl
  | cons x members ih =>
    obtain ⟨key, j⟩ := x
    rw [decodeMembers_cons_eq, List.mapM_cons, Option.getD_some]
    cases f j with
    | error p => rfl
    | ok a =>
      refine (ih ((key, a) :: before)).trans ?_
      show _ = Except.map _ (Except.bind (members.mapM _) _)
      cases members.mapM (fun x : String × Json => (f x.2).map fun a => (x.1, a)) with
      | error p => rfl
      | ok as =>
        show Except.ok _ = Except.ok (((key, a) :: as).reverse ++ before)
        rw [List.reverse_cons, List.append_assoc, List.singleton_append]

theorem Schema.Faithful.table {schema : Schema α} (h : schema.Faithful) :
    (Schema.table schema).Faithful := by
  intro origin j a depth eq whole le gap text rest hg spells ends
  unfold Schema.decode at eq
  split at eq
  · rename_i members
    rw [Spells] at spells
    obtain ⟨inner, spells, rfl⟩ := spells
    rw [Json.Whole] at whole
    rw [Json.depth] at le
    obtain ⟨depth, rfl⟩ := Nat.exists_eq_succ_of_ne_zero (n := depth) (by omega)
    have entries := decodeMembers_entries (schema.decode origin) members []
    rw [eq] at entries
    have folds : FoldsMembers (fun key entries => do
        readColon; return (key, ← schema.read depth) :: entries) members [] (a.reverse ++ []) := by
      refine foldsMembers_of_decodeMembers (fun x mem slots slots' here => ?_) entries
      obtain ⟨b, value, rfl⟩ := map_eq_ok.1 here
      exact ((h value (wholeMembers_iff.1 whole x mem)
        (depthMembers_le_iff.1 (Nat.le_of_succ_le_succ le) x mem)).map _).member
    refine (reads_peekToken hg (by decide) _).bind ?_
    rw [if_pos rfl]
    refine (reads_advance '\x7b' _).bind ((reads_readMembers folds spells rest).bind
      ((reads_endObject .nil rest).bind ?_))
    rw [List.append_nil, List.reverse_reverse]
    exact Takes.pure _ _
  · cases eq

/-! ## Fields -/

theorem Fields.faithful_nil : Fields.nil.Faithful where
  member := by
    intro origin key slots slots' j depth eq
    cases eq
  items := by
    intro origin title total index items a depth inner eq whole le spells rest
    unfold Fields.decodeItems at eq
    cases eq
    rw [SpellsItems] at spells
    obtain ⟨gap, hg, rfl⟩ := spells
    exact ⟨gap, hg, by rw [List.append_assoc]; exact Takes.pure _ _⟩

/-- What the first field decodes of a member with its key is read, and so is what the others
decode. -/
theorem Fields.Faithful.member_cons {schema : Schema α} (h : schema.Faithful)
    {fields : Fields π σ} (hs : fields.Faithful) {key : String} {missing short : Option α}
    {origin : Origin} {k : String} {slots slots' : Option α × π} {j : Json} {depth : Nat}
    (eq : (Fields.cons key schema missing short fields).decodeMember origin k slots j =
      some (.ok slots'))
    (whole : j.Whole) (le : j.depth ≤ depth) :
    ∃ r, (Fields.cons key schema missing short fields).readMember depth k slots = some r ∧
      ReadsMember r j slots' := by
  obtain ⟨slot, slots⟩ := slots
  unfold Fields.decodeMember at eq
  unfold Fields.readMember
  split at eq
  · rename_i same
    split at eq
    · cases eq
    · rename_i free
      obtain ⟨a, here, rfl⟩ := map_eq_ok.1 (Option.some.inj eq)
      refine ⟨_, by rw [if_pos same], ?_⟩
      rw [if_neg free]
      exact ((h here whole le).map _).member
  · rename_i other
    obtain ⟨r, here, eq⟩ := Option.map_eq_some_iff.1 eq
    obtain ⟨slots', rfl, rfl⟩ := map_eq_ok.1 eq
    obtain ⟨r, there, reads⟩ := hs.member here whole le
    refine ⟨_, by rw [if_neg other, there], ?_⟩
    exact fun gap gap' text rest hg hg' spells ends =>
      (reads gap gap' text rest hg hg' spells ends).map

/-- What the first field decodes of the item that stands next is read, and so is what the others
decode of those behind it. -/
theorem Fields.Faithful.items_cons {schema : Schema α} (h : schema.Faithful)
    {fields : Fields π σ} (hs : fields.Faithful) {key : String} {missing short : Option α}
    {origin : Origin} {title : String} {total index : Nat} {items : List Json} {a : α × σ}
    {depth : Nat} {inner : List Char}
    (eq : (Fields.cons key schema missing short fields).decodeItems origin title total index items =
      .ok (a, []))
    (whole : WholeItems items) (le : depthItems items ≤ depth)
    (spells : SpellsItems (index = 0) items inner) (rest : List Char) :
    ∃ gap, Gap gap ∧
      Reads ((Fields.cons key schema missing short fields).readItems title total index depth)
        (inner ++ rest) a (gap ++ ']' :: rest) := by
  unfold Fields.readItems
  cases items with
  | nil =>
    rw [SpellsItems] at spells
    obtain ⟨gap, hg, rfl⟩ := spells
    unfold Fields.decodeItems at eq
    split at eq
    · rename_i b
      obtain ⟨⟨c, items⟩, there, eq⟩ := bind_eq_ok.1 eq
      cases eq
      obtain ⟨gap', hg', reads⟩ :=
        hs.items there trivial (Nat.zero_le _) (spellsItems_end _) rest
      refine ⟨gap', hg', ?_⟩
      rw [List.append_assoc]
      refine (reads_nextItem_end _ hg rest).bind ?_
      rw [if_neg (by decide)]
      exact reads.map
    · cases eq
  | cons j items =>
    rw [SpellsItems] at spells
    rw [WholeItems] at whole
    rw [depthItems] at le
    obtain ⟨before, item, others, sep, one, all, rfl⟩ := spells
    unfold Fields.decodeItems at eq
    obtain ⟨b, here, eq⟩ := bind_eq_ok.1 eq
    obtain ⟨⟨c, items⟩, there, eq⟩ := bind_eq_ok.1 eq
    cases eq
    obtain ⟨gap', hg', reads⟩ := hs.items there whole.2 (Nat.le_trans (Nat.le_max_right _ _) le)
      (by simpa using all) rest
    have first := h here whole.1 (Nat.le_trans (Nat.le_max_left _ _) le) [] item (others ++ rest)
      .nil one (all.ends rest)
    obtain ⟨c, text, rfl, opens⟩ := one.opens
    refine ⟨gap', hg', ?_⟩
    rw [List.append_assoc, List.append_assoc]
    refine (reads_nextItem sep opens.begins _).bind ?_
    rw [if_pos rfl]
    exact first.bind reads.map

theorem Fields.Faithful.cons {schema : Schema α} (h : schema.Faithful) {fields : Fields π σ}
    (hs : fields.Faithful) (key : String) (missing short : Option α) :
    (Fields.cons key schema missing short fields).Faithful where
  member := hs.member_cons h
  items := hs.items_cons h

/-! ## Records -/

theorem Fields.readMember_eq_none : {π σ : Type} → (fields : Fields π σ) → {origin : Origin} →
    {key : String} → {slots : π} → {j : Json} → fields.decodeMember origin key slots j = none →
    (depth : Nat) → fields.readMember depth key slots = none
  | _, _, .nil, _, _, _, _, _, _ => rfl
  | _, _, .cons _ _ _ _ rest, _, _, (_, _), _, h, depth => by
    unfold Fields.decodeMember at h
    unfold Fields.readMember
    split at h
    · split at h <;> cases h
    · rename_i other
      rw [if_neg other, rest.readMember_eq_none (Option.map_eq_none_iff.1 h) depth]

/-- Takes the member with a key into its slot; one that is not known is passed. -/
def Fields.takeMember (fields : Fields π σ) (depth : Nat) (key : String) (slots : π) : Reader π :=
  match fields.readMember depth key slots with
  | some reader => reader
  | none => do
    readColon
    skipValue
    return slots

theorem readsMember_skipValue (j : Json) (slots : π) :
    ReadsMember (do readColon; skipValue; return slots) j slots :=
  ((readsValue_skipValue j).map fun _ => slots).member

theorem foldsMembers_takeMember {fields : Fields π σ} (h : fields.Faithful)
    {members : List (String × Json)} {slots slots' : π}
    (eq : decodeMembers (fields.decodeMember origin) members slots = .ok slots')
    (whole : WholeMembers members) (le : depthMembers members ≤ depth) :
    FoldsMembers (fields.takeMember depth) members slots slots' := by
  refine foldsMembers_of_decodeMembers (fun x mem slots slots' here => ?_) eq
  unfold Fields.takeMember
  cases known : fields.decodeMember origin x.1 slots x.2 with
  | none =>
    rw [known] at here
    obtain rfl := Except.ok.inj here
    rw [fields.readMember_eq_none known depth]
    exact readsMember_skipValue x.2 slots
  | some e =>
    rw [known] at here
    obtain rfl : e = .ok slots' := here
    obtain ⟨r, eq, reads⟩ := h.member known (wholeMembers_iff.1 whole x mem)
      (depthMembers_le_iff.1 le x mem)
    rw [eq]
    exact reads

theorem reads_orFailAfterObject {e : Except Problem α} {a : α} (h : e = .ok a) (cs : List Char) :
    Reads (orFailAfterObject e) cs a cs := by
  subst h
  exact Takes.pure _ _

theorem Fields.Faithful.record {fields : Fields π σ} (h : fields.Faithful) (title : String)
    (build : σ → α) : (Schema.record title fields build).Faithful := by
  intro origin j a depth eq whole le gap text rest hg spells ends
  unfold Schema.decode at eq
  split at eq
  · obtain ⟨slots, here, eq⟩ := bind_eq_ok.1 eq
    obtain ⟨b, there, rfl⟩ := map_eq_ok.1 eq
    rw [Spells] at spells
    obtain ⟨inner, spells, rfl⟩ := spells
    rw [Json.Whole] at whole
    rw [Json.depth] at le
    obtain ⟨depth, rfl⟩ := Nat.exists_eq_succ_of_ne_zero (n := depth) (by omega)
    refine (reads_peekToken hg (by decide) _).bind ?_
    exact (reads_advance '\x7b' _).bind ((reads_readMembers
      (foldsMembers_takeMember h here whole (by omega)) spells rest).bind
      ((reads_orFailAfterObject there _).bind
      ((reads_endObject .nil rest).bind (Takes.pure _ _))))
  · obtain ⟨⟨b, others⟩, here, eq⟩ := bind_eq_ok.1 eq
    dsimp only at eq
    split at eq
    · rename_i empty
      obtain rfl := Except.ok.inj eq
      obtain rfl := List.isEmpty_iff.1 empty
      rw [Spells] at spells
      obtain ⟨inner, spells, rfl⟩ := spells
      rw [Json.Whole] at whole
      rw [Json.depth] at le
      obtain ⟨depth, rfl⟩ := Nat.exists_eq_succ_of_ne_zero (n := depth) (by omega)
      have le : depthItems _ ≤ depth := Nat.le_of_succ_le_succ le
      obtain ⟨gap', hg', reads⟩ := h.items here whole le spells rest
      refine (reads_peekToken hg (by decide) _).bind ?_
      exact (reads_advance '[' _).bind (reads.bind ((reads_endList hg' rest).bind (Takes.pure _ _)))
    · cases eq
  · cases eq

/-- Takes the member with a key into its slot; one that is not known is set aside. -/
def Fields.takeOrKeep (fields : Fields π σ) (depth : Nat) (key : String) :
    π × List (String × Json) → Reader (π × List (String × Json))
  | (slots, others) =>
    match fields.readMember depth key slots with
    | some reader => do return (← reader, others)
    | none => do
      readColon
      return (slots, (key, ← readTree depth) :: others)

theorem foldsMembers_takeOrKeep {fields : Fields π σ} (h : fields.Faithful)
    {members : List (String × Json)} {slots slots' : π}
    (eq : decodeMembers (fields.decodeMember origin) members slots = .ok slots')
    (whole : WholeMembers members) (le : depthMembers members ≤ depth)
    (others : List (String × Json)) :
    FoldsMembers (fields.takeOrKeep depth) members (slots, others)
      (slots', (members.filter fun x => !fields.hasKey x.1).reverse ++ others) := by
  induction members generalizing slots others with
  | nil =>
    obtain rfl := Except.ok.inj eq
    rfl
  | cons x members ih =>
    obtain ⟨key, j⟩ := x
    rw [WholeMembers] at whole
    rw [depthMembers] at le
    rw [decodeMembers] at eq
    split at eq
    · rename_i unknown
      have noKey := fields.decodeMember_eq_none_iff.1 unknown
      refine ⟨(slots, (key, j) :: others), ?_, ?_⟩
      · rw [Fields.takeOrKeep, fields.readMember_eq_none unknown depth]
        exact ((readsValue_readTree depth j whole.1 (by omega)).map _).member
      · rw [List.filter_cons_of_pos (by simp [noKey]), List.reverse_cons, List.append_assoc]
        exact ih eq whole.2 (by omega) _
    · rename_i slots₁ here
      obtain ⟨r, known, reads⟩ := h.member here whole.1
        (Nat.le_trans (Nat.le_max_left _ _) le)
      have hasKey : fields.hasKey key = true := by
        rw [← Bool.not_eq_false, ← fields.decodeMember_eq_none_iff, here]
        exact Option.some_ne_none _
      refine ⟨(slots₁, others), ?_, ?_⟩
      · rw [Fields.takeOrKeep, known]
        exact fun gap gap' text rest hg hg' spells ends =>
          (reads gap gap' text rest hg hg' spells ends).map
      · rw [List.filter_cons_of_neg (by simp [hasKey])]
        exact ih eq whole.2 (by omega) _
    · cases eq

theorem Fields.Faithful.flattened {own : Fields π σ} (h : own.Faithful) (title : String)
    (inner : Fields π' σ') (build : σ → σ' → α) :
    (Schema.flattened title own inner build).Faithful := by
  intro origin j a depth eq whole le gap text rest hg spells ends
  unfold Schema.decode at eq
  split at eq
  · obtain ⟨slots, here, eq⟩ := bind_eq_ok.1 eq
    obtain ⟨b, there, eq⟩ := bind_eq_ok.1 eq
    obtain ⟨slots', here', eq⟩ := bind_eq_ok.1 eq
    obtain ⟨b', there', rfl⟩ := map_eq_ok.1 eq
    rw [Spells] at spells
    obtain ⟨inner, spells, rfl⟩ := spells
    rw [Json.Whole] at whole
    rw [Json.depth] at le
    obtain ⟨depth, rfl⟩ := Nat.exists_eq_succ_of_ne_zero (n := depth) (by omega)
    refine (reads_peekToken hg (by decide) _).bind ?_
    rw [if_pos rfl]
    refine (reads_advance '\x7b' _).bind ((reads_readMembers
      (foldsMembers_takeOrKeep h here whole (by omega) []) spells rest).bind
      ((reads_orFailAfterObject there _).bind ((reads_orFailAfterObject ?_ _).bind
      ((reads_orFailAfterObject there' _).bind
      ((reads_endObject .nil rest).bind (Takes.pure _ _))))))
    rw [List.append_nil, List.reverse_reverse]
    exact here'
  · cases eq

/-! ## Any schema -/

mutual

/-- What a schema decodes from a value, it reads from every spelling of the value. -/
theorem Schema.faithful : {α : Type} → (schema : Schema α) → schema.Faithful
  | _, .any => faithful_any
  | _, .text => faithful_text
  | _, .flag => faithful_flag
  | _, .natural typeName limit => faithful_natural typeName limit
  | _, .instant => faithful_instant
  | _, .choice names => faithful_choice names
  | _, .optional schema => schema.faithful.optional
  | _, .list schema => schema.faithful.list
  | _, .table schema => schema.faithful.table
  | _, .record title fields build => fields.faithful.record title build
  | _, .flattened title own inner build => own.faithful.flattened title inner build
  | _, .map f schema => schema.faithful.map f

theorem Fields.faithful : {π σ : Type} → (fields : Fields π σ) → fields.Faithful
  | _, _, .nil => Fields.faithful_nil
  | _, _, .cons key schema missing short rest =>
    rest.faithful.cons schema.faithful key missing short

end

/-! ## Whole texts -/

theorem parseAll_of_reads {r : Reader α} {cs gap : List Char} {a : α} (h : Reads r cs a gap)
    (hg : Gap gap) : parseAll r (Text.ofChars cs) = .ok a := by
  have all : Reads (do
      let a ← r
      if (← peekToken).isSome then failNext .trailingCharacters else return a) cs a [] :=
    h.bind ((reads_peekToken_end hg).bind (Takes.pure _ _))
  obtain ⟨s, eq, -⟩ := all (.start (Text.ofChars cs)) rfl
  rw [parseAll, StateT.run, eq]
  rfl

theorem parseAll_of_refuses {kind : Error → Prop} {r : Reader α} {cs : List Char}
    (h : Refuses Cursor.rest kind r (Text.ofChars cs)) :
    ∃ e, parseAll r (Text.ofChars cs) = .error e ∧ kind e := by
  have all : Refuses Cursor.rest kind (do
      let a ← r
      if (← peekToken).isSome then failNext .trailingCharacters else return a)
      (Text.ofChars cs) := h.bind
  obtain ⟨e, eq, he⟩ := all (.start (Text.ofChars cs)) rfl
  exact ⟨e, by rw [parseAll, StateT.run, eq]; rfl, he⟩

/-- What a schema decodes from a value is read from every text that spells the value. -/
theorem Schema.ofText_ofChars (schema : Schema α) {j : Json} {a : α} {text : List Char}
    (h : schema.decode origin j = .ok a) (whole : j.Whole) (le : j.depth ≤ depthLimit)
    (spells : Spells j text) : schema.ofText (Text.ofChars text) = .ok a := by
  have reads := schema.faithful h whole le [] text [] .nil spells .nil
  rw [List.nil_append, List.append_nil] at reads
  exact parseAll_of_reads reads .nil

/-- What a schema decodes from a value is read from the pretty text of the value. -/
theorem Schema.ofText_pretty (schema : Schema α) {j : Json} {a : α}
    (h : schema.decode origin j = .ok a) (whole : j.Whole) (le : j.depth ≤ depthLimit) :
    schema.ofText (Text.ofBytes (encode j.pretty)) = .ok a := by
  rw [Text.ofBytes_encode, Text.ofString, pretty, String.toList_ofList]
  exact schema.ofText_ofChars h whole le (spells_renderPretty 0 j)

end Signoff.Json
