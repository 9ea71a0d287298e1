import Signoff.Proofs.Json.Schema

/-!
# Values and their texts are decided alike

Reading a text stops at the first fault, and reading a value in memory at the first fault in the
order of its own. The two need not find the same fault, but for the schemas that definitions are
made of they find one in the same values (`Schema.Decides`): what is decoded from a value is read
from every spelling of it, and what is not decoded is refused in every spelling.

Unlike `Schema.Faithful` this asks nothing of the value. It may hold any numbers and nest as deep as
it wants, since no schema here reads a number, and lists and objects are entered only where the
schema has some: what stands elsewhere is passed or refused.

* `Settles`: what the reader does in front of some characters comes out as it was decided.
* `Schema.Decides.list`, `Fields.Decides.record` and so on: one lemma for each way to build a
  schema or its fields.
* `Schema.Decides.ofText`: what is decided of a value is decided of its text.
-/

namespace Signoff.Json

variable {α β π σ : Type} {depth : Nat} {gap cs mid rest inner : List Char}

/-! ## Readers that fail -/

/-- The reader takes nothing, wherever it stands. -/
abbrev Fails (r : Reader α) : Prop := Gives (fun _ => False) r

theorem Fails.refuses {r : Reader α} (h : Fails r) (text : Text) :
    Refuses Cursor.rest (fun _ => True) r text := by
  intro s _
  cases eq : r s with
  | ok out => exact (h eq).elim
  | error e => exact ⟨e, rfl, trivial⟩

theorem Fails.bind {r : Reader α} (h : Fails r) (f : α → Reader β) : Fails (r >>= f) :=
  Gives.bind h nofun

theorem fails_failHere (problem : Problem) : Fails (failHere problem : Reader α) :=
  .after fun _ => .throw _

theorem fails_failNext (problem : Problem) : Fails (failNext problem : Reader α) :=
  .after fun _ => .throw _

theorem fails_failType (wanted : Wanted) : Fails (failType wanted : Reader α) :=
  .after fun _ => fails_failHere _

theorem fails_failAfterObject (problem : Problem) :
    Fails (failAfterObject problem : Reader α) := by
  refine .after fun g => ?_
  dsimp only
  split
  · exact .after fun _ => fails_failHere _
  · exact fails_failHere _

theorem fails_failAfterList (problem : Problem) : Fails (failAfterList problem : Reader α) := by
  refine .after fun g => ?_
  split
  · exact .after fun _ => fails_failHere _
  · exact .after fun _ => .after fun _ => fails_failHere _
  · exact fails_failHere _

/-! ## What is decided -/

/-- What the reader does in front of some characters comes out as it was decided: it takes them up
to some that follow, or it fails. -/
def Settles (r : Reader α) (before : List Char) (e : Except Problem α) (after : List Char) : Prop :=
  match e with
  | .ok a => Reads r before a after
  | .error _ => Refuses Cursor.rest (fun _ => True) r (Text.ofChars before)

namespace Settles

variable {r : Reader α} {f : α → Reader β} {e : Except Problem α} {a : α}

/-- Two readers that stand one after the other, where two decisions do. -/
theorem bind {g : α → Except Problem β} (h : Settles r cs e mid)
    (h' : ∀ a, e = .ok a → Settles (f a) mid (g a) rest) : Settles (r >>= f) cs (e >>= g) rest := by
  cases e with
  | error p => exact Refuses.bind h
  | ok a =>
    have next := h' a rfl
    show Settles _ _ (g a) _
    cases eq : g a with
    | error p =>
      rw [eq] at next
      exact Refuses.after h next
    | ok b =>
      rw [eq] at next
      exact Takes.bind h next

/-- The second reader decides. -/
theorem after {e : Except Problem β} (h : Reads r cs a mid) (h' : Settles (f a) mid e rest) :
    Settles (r >>= f) cs e rest := by
  cases e with
  | error p => exact Refuses.after h h'
  | ok b => exact Takes.bind h h'

/-- The first reader decides. -/
theorem before {g : α → β} (h : Settles r cs e mid) (h' : ∀ a, Reads (f a) mid (g a) rest) :
    Settles (r >>= f) cs (e.map g) rest := by
  cases e with
  | error p => exact Refuses.bind h
  | ok a => exact Takes.bind h (h' a)

theorem map (h : Settles r cs e rest) (g : α → β) :
    Settles (do return g (← r)) cs (e.map g) rest :=
  h.before fun _ => Takes.pure _ _

end Settles

/-- What the reader does with the value comes out as it was decided, however it is spelled. -/
def SettlesValue (r : Reader α) (j : Json) (e : Except Problem α) : Prop :=
  ∀ gap text rest, Gap gap → Spells j text → Ends rest → Settles r (gap ++ (text ++ rest)) e rest

/-- So does what it does with the value behind a key. -/
def SettlesMember (r : Reader α) (j : Json) (e : Except Problem α) : Prop :=
  ∀ gap gap' text rest, Gap gap → Gap gap' → Spells j text → Ends rest →
    Settles r (gap ++ ':' :: (gap' ++ (text ++ rest))) e rest

theorem SettlesValue.map {r : Reader α} {j : Json} {e : Except Problem α} (h : SettlesValue r j e)
    (f : α → β) : SettlesValue (do return f (← r)) j (e.map f) :=
  fun gap text rest hg hs he => (h gap text rest hg hs he).map f

theorem SettlesValue.member {r : Reader α} {j : Json} {e : Except Problem α}
    (h : SettlesValue r j e) : SettlesMember (do readColon; r) j e :=
  fun _ gap' text rest hg hg' hs he => .after (reads_readColon hg _) (h gap' text rest hg' hs he)

/-- What the schema decides of a value, its reader decides of the text of the value. -/
def Schema.Decides (schema : Schema α) (depth : Nat) : Prop :=
  ∀ origin j, SettlesValue (schema.read depth) j (schema.decode origin j)

/-! ## Scalars -/

/-- A value that does not begin as it should has the wrong type. -/
theorem settles_failType {j : Json} {text : List Char} {r : Reader α} {c : Char}
    (other : ¬ j.Opens c) (hg : Gap gap) (spells : Spells j text) (wanted : Wanted)
    (p : Problem) :
    Settles (do if (← peekToken) = some (some c) then r else failType wanted)
      (gap ++ (text ++ rest)) (.error p) rest := by
  obtain ⟨c', text, rfl, opens⟩ := spells.opens
  refine .after (reads_peekToken hg opens.begins.noSpace _) ?_
  have ne : ¬ (some (some c') : Option Glyph) = some (some c) := by
    intro same
    obtain rfl := Option.some.inj (Option.some.inj same)
    exact other opens
  rw [if_neg ne]
  exact (fails_failType wanted).refuses _

theorem decides_text : Schema.text.Decides depth := by
  intro origin j gap text rest hg spells ends
  unfold Schema.decode
  split
  · rw [spells.string]
    exact reads_readText .string hg _ rest
  · rename_i other
    refine settles_failType (fun opens => ?_) hg spells .string _
    obtain ⟨s, rfl⟩ := opens.eq_string
    exact other s rfl

theorem decides_flag : Schema.flag.Decides depth := by
  intro origin j gap text rest hg spells ends
  unfold Schema.decode
  split
  · exact readsValue_flag _ gap text rest hg spells ends
  · rename_i other
    obtain ⟨c, text, rfl, opens⟩ := spells.opens
    have noWord : c ≠ 't' ∧ c ≠ 'f' := by
      rw [← not_or]
      intro word
      obtain ⟨b, rfl⟩ := opens.eq_bool word
      exact other b rfl
    refine .after (reads_peekToken hg opens.begins.noSpace _) ?_
    split
    · rename_i same
      exact absurd (Option.some.inj (Option.some.inj same)) noWord.1
    · rename_i same
      exact absurd (Option.some.inj (Option.some.inj same)) noWord.2
    · exact (fails_failType .boolean).refuses _

/-! ## Values of other schemas -/

theorem Schema.Decides.map {schema : Schema α} (h : schema.Decides depth) (f : α → β) :
    (Schema.map f schema).Decides depth :=
  fun origin j => (h origin j).map f

theorem Schema.Decides.optional {schema : Schema α} (h : schema.Decides depth) :
    (Schema.optional schema).Decides depth := by
  intro origin j gap text rest hg spells ends
  unfold Schema.decode
  split
  · obtain rfl := (spells_scalar rfl).1 spells
    refine (reads_peekToken hg (by decide) _).bind ?_
    rw [if_pos rfl]
    exact (reads_readWord ['n', 'u', 'l', 'l'] rest).bind (Takes.pure _ _)
  · rename_i some_
    have value := (h origin j [] text rest .nil spells ends).map some
    obtain ⟨c, text, rfl, opens⟩ := spells.opens
    refine .after (reads_peekToken hg opens.begins.noSpace _) ?_
    rw [if_neg fun h => opens.ne_n some_ (Option.some.inj (Option.some.inj h))]
    exact value

/-! ## Lists -/

/-- The first of some values that is not decoded. -/
theorem mapM_eq_error {f : α → Except Problem β} {xs : List α} {p : Problem}
    (h : xs.mapM f = .error p) : ∃ good bad others ys, xs = good ++ bad :: others ∧
      good.mapM f = .ok ys ∧ f bad = .error p := by
  induction xs with
  | nil => cases h
  | cons x xs ih =>
    rw [List.mapM_cons] at h
    rcases bind_eq_error.1 h with here | ⟨y, here, h⟩
    · exact ⟨[], x, xs, [], rfl, rfl, here⟩
    · rcases bind_eq_error.1 h with there | ⟨ys, -, done⟩
      · obtain ⟨good, bad, others, ys, rfl, eq, stop⟩ := ih there
        exact ⟨x :: good, bad, others, y :: ys, rfl, by rw [List.mapM_cons, here, eq]; rfl, stop⟩
      · cases done

/-- A list is decided as its items are. -/
theorem settles_readItems {item : Reader α} {f : Json → Except Problem α} {items : List Json}
    (h : ∀ j, SettlesValue item j (f j)) (spells : SpellsItems true items inner)
    (rest : List Char) : Settles (readItems item) (inner ++ rest) (items.mapM f) rest := by
  have good : ∀ {items as}, items.mapM f = .ok as → List.Forall₂ (ReadsValue item) items as := by
    refine fun eq => forall₂_of_mapM (fun j _ a here => ?_) eq
    have reads := h j
    rwa [here] at reads
  cases eq : items.mapM f with
  | ok as => exact reads_readItems (good eq) spells rest
  | error p =>
    obtain ⟨before, bad, others, as, rfl, eq, stop⟩ := mapM_eq_error eq
    have refuses := h bad
    rw [stop] at refuses
    exact refuses_readItems (good eq) refuses spells rest

theorem Schema.Decides.list {schema : Schema α} (h : schema.Decides depth) :
    (Schema.list schema).Decides (depth + 1) := by
  intro origin j gap text rest hg spells ends
  unfold Schema.decode
  split
  · rw [Spells] at spells
    obtain ⟨inner, spells, rfl⟩ := spells
    refine .after (reads_peekToken hg (by decide) _) ?_
    rw [if_pos rfl]
    exact .after (reads_advance '[' _) (settles_readItems (h origin) spells rest)
  · rename_i other
    refine settles_failType (fun opens => ?_) hg spells .sequence _
    obtain ⟨items, rfl⟩ := opens.eq_array
    exact other items rfl

/-! ## Objects -/

/-- The first of some members that is not decoded. -/
theorem decodeMembers_eq_error {member : String → π → Json → Option (Except Problem π)}
    {members : List (String × Json)} {slots : π} {p : Problem}
    (h : decodeMembers member members slots = .error p) :
    ∃ good key bad others slots', members = good ++ (key, bad) :: others ∧
      decodeMembers member good slots = .ok slots' ∧
      (member key slots' bad).getD (.ok slots') = .error p := by
  induction members generalizing slots with
  | nil => cases h
  | cons x members ih =>
    obtain ⟨key, j⟩ := x
    rw [decodeMembers_cons_eq] at h
    rcases bind_eq_error.1 h with here | ⟨slots₁, here, there⟩
    · exact ⟨[], key, j, members, slots, rfl, rfl, here⟩
    · obtain ⟨good, key', bad, others, slots', rfl, eq, stop⟩ := ih there
      refine ⟨(key, j) :: good, key', bad, others, slots', rfl, ?_, stop⟩
      rw [decodeMembers_cons_eq, here]
      exact eq

/-- An object is decided as its members are, one after the other. -/
theorem settles_readMembers {member : String → π → Json → Option (Except Problem π)}
    {reader : String → π → Reader π} {members : List (String × Json)} {slots : π}
    (h : ∀ key slots j, SettlesMember (reader key slots) j ((member key slots j).getD (.ok slots)))
    (spells : SpellsMembers true members inner) (rest : List Char) :
    Settles (readMembers reader slots) (inner ++ rest) (decodeMembers member members slots)
      ('\x7d' :: rest) := by
  have good : ∀ {members slots'}, decodeMembers member members slots = .ok slots' →
      FoldsMembers reader members slots slots' := by
    refine fun eq => foldsMembers_of_decodeMembers (fun x _ slots slots' here => ?_) eq
    have reads := h x.1 slots x.2
    rwa [here] at reads
  cases eq : decodeMembers member members slots with
  | ok slots' => exact reads_readMembers (good eq) spells rest
  | error p =>
    obtain ⟨before, key, bad, others, slots', rfl, eq, stop⟩ := decodeMembers_eq_error eq
    have refuses := h key slots' bad
    rw [stop] at refuses
    exact refuses_readMembers (good eq) refuses spells rest

theorem map_reverse_reverse (e : Except Problem (List α)) :
    (e.map fun as => as.reverse ++ []).map List.reverse = e := by
  cases e with
  | error p => rfl
  | ok as => simp [Except.map]

theorem Schema.Decides.table {schema : Schema α} (h : schema.Decides depth) :
    (Schema.table schema).Decides (depth + 1) := by
  intro origin j gap text rest hg spells ends
  unfold Schema.decode
  split
  · rename_i members
    rw [Spells] at spells
    obtain ⟨inner, spells, rfl⟩ := spells
    have entries : Settles (readMembers (fun key entries => do
        readColon; return (key, ← schema.read depth) :: entries) []) (inner ++ rest)
        (decodeMembers (fun key entries j =>
          some ((schema.decode origin j).map fun a => (key, a) :: entries)) members [])
        ('\x7d' :: rest) :=
      settles_readMembers (fun key entries j =>
        ((h origin j).map fun a => (key, a) :: entries).member) spells rest
    have reversed : Settles (do
        let entries ← readMembers (fun key entries => do
          readColon; return (key, ← schema.read depth) :: entries) []
        endObject
        return entries.reverse) (inner ++ rest) _ rest :=
      entries.before fun entries => (reads_endObject .nil rest).bind (Takes.pure _ _)
    rw [decodeMembers_entries, map_reverse_reverse] at reversed
    refine .after (reads_peekToken hg (by decide) _) ?_
    rw [if_pos rfl]
    exact .after (reads_advance '\x7b' _) reversed
  · rename_i other
    refine settles_failType (fun opens => ?_) hg spells .map _
    obtain ⟨members, rfl⟩ := opens.eq_object
    exact other members rfl

/-! ## Fields -/

/-- What fields do with the text of items comes out as it was decided: they take it up to the items
beyond them, or they fail. -/
def SettlesItems (r : Reader σ) (before : List Char) (e : Except Problem (σ × List Json))
    (after : List Char) : Prop :=
  match e with
  | .ok (a, others) => ∃ first inner, SpellsItems first others inner ∧
      Reads r before a (inner ++ after)
  | .error _ => Refuses Cursor.rest (fun _ => True) r (Text.ofChars before)

/-- The second reader decides. -/
theorem SettlesItems.after {r : Reader α} {f : α → Reader σ} {a : α}
    {e : Except Problem (σ × List Json)} (h : Reads r cs a mid)
    (h' : SettlesItems (f a) mid e rest) : SettlesItems (r >>= f) cs e rest := by
  cases e with
  | error p => exact Refuses.after h h'
  | ok out =>
    obtain ⟨first, inner, spells, reads⟩ := h'
    exact ⟨first, inner, spells, Takes.bind h reads⟩

/-- A field in front of others. -/
theorem SettlesItems.pair {r : Reader σ} {e : Except Problem (σ × List Json)}
    (h : SettlesItems r cs e rest) (a : α) :
    SettlesItems (do return (a, ← r)) cs (do let (b, others) ← e; .ok ((a, b), others)) rest := by
  cases e with
  | error p => exact Refuses.bind h
  | ok out =>
    obtain ⟨first, inner, spells, reads⟩ := h
    exact ⟨first, inner, spells, reads.map⟩

/-- What the fields decide of members and items, their readers decide of the text of these. -/
structure Fields.Decides (fields : Fields π σ) (depth : Nat) : Prop where
  member : ∀ {origin key slots j e}, fields.decodeMember origin key slots j = some e →
    ∃ r, fields.readMember depth key slots = some r ∧ SettlesMember r j e
  items : ∀ {origin title total index items inner}, SpellsItems (index = 0) items inner →
    ∀ rest, SettlesItems (fields.readItems title total index depth) (inner ++ rest)
      (fields.decodeItems origin title total index items) rest

theorem Fields.decides_nil : Fields.nil.Decides depth where
  member := by
    intro origin key slots j e eq
    cases eq
  items := by
    intro origin title total index items inner spells rest
    exact ⟨_, inner, spells, Takes.pure _ _⟩

/-- The first field settles a member with its key, unless its slot is taken, and the others settle
the rest. -/
theorem Fields.Decides.member_cons {schema : Schema α} (h : schema.Decides depth)
    {fields : Fields π σ} (hs : fields.Decides depth) {key : String} {missing short : Option α}
    {origin : Origin} {k : String} {slots : Option α × π} {j : Json}
    {e : Except Problem (Option α × π)}
    (eq : (Fields.cons key schema missing short fields).decodeMember origin k slots j = some e) :
    ∃ r, (Fields.cons key schema missing short fields).readMember depth k slots = some r ∧
      SettlesMember r j e := by
  obtain ⟨slot, slots⟩ := slots
  unfold Fields.decodeMember at eq
  unfold Fields.readMember
  split at eq
  · rename_i same
    refine ⟨_, by rw [if_pos same], ?_⟩
    split at eq
    · rename_i taken
      obtain rfl := Option.some.inj eq
      rw [if_pos taken]
      exact fun _ _ _ _ _ _ _ _ => (fails_failAfterObject _).refuses _
    · rename_i free
      obtain rfl := Option.some.inj eq
      rw [if_neg free]
      exact ((h origin j).map _).member
  · rename_i other
    obtain ⟨e, here, rfl⟩ := Option.map_eq_some_iff.1 eq
    obtain ⟨r, there, settles⟩ := hs.member here
    refine ⟨_, by rw [if_neg other, there], ?_⟩
    exact fun gap gap' text rest hg hg' spells ends =>
      (settles gap gap' text rest hg hg' spells ends).map _

/-- The first field settles the item that stands next, and the others settle those behind it. -/
theorem Fields.Decides.items_cons {schema : Schema α} (h : schema.Decides depth)
    {fields : Fields π σ} (hs : fields.Decides depth) {key : String} {missing short : Option α}
    {origin : Origin} {title : String} {total index : Nat} {items : List Json}
    (spells : SpellsItems (index = 0) items inner) (rest : List Char) :
    SettlesItems
      ((Fields.cons key schema missing short fields).readItems title total index depth)
      (inner ++ rest)
      ((Fields.cons key schema missing short fields).decodeItems origin title total index items)
      rest := by
  unfold Fields.readItems
  cases items with
  | nil =>
    rw [SpellsItems] at spells
    obtain ⟨gap, hg, rfl⟩ := spells
    rw [List.append_assoc]
    refine .after (reads_nextItem_end _ hg rest) ?_
    rw [if_neg (by decide)]
    unfold Fields.decodeItems
    cases short with
    | none => exact (fails_failAfterList _).refuses _
    | some a => exact (hs.items (spellsItems_end _) rest).pair a
  | cons j items =>
    rw [SpellsItems] at spells
    obtain ⟨before, item, others, sep, one, all, rfl⟩ := spells
    have here := h origin j [] item (others ++ rest) .nil one (all.ends rest)
    obtain ⟨c, text, rfl, opens⟩ := one.opens
    rw [List.append_assoc, List.append_assoc]
    refine .after (reads_nextItem sep opens.begins _) ?_
    rw [if_pos rfl]
    unfold Fields.decodeItems
    cases eq : schema.decode origin j with
    | error p =>
      rw [eq] at here
      exact Refuses.bind here
    | ok a =>
      rw [eq] at here
      exact .after here ((hs.items (by simpa using all) rest).pair a)

theorem Fields.Decides.cons {schema : Schema α} (h : schema.Decides depth) {fields : Fields π σ}
    (hs : fields.Decides depth) (key : String) (missing short : Option α) :
    (Fields.cons key schema missing short fields).Decides depth where
  member := hs.member_cons h
  items := hs.items_cons h

/-! ## Records -/

/-- A list does not end where an item stands. -/
theorem refuses_endList {first : Bool} {j : Json} {items : List Json}
    (spells : SpellsItems first (j :: items) inner) (rest : List Char) :
    Refuses Cursor.rest (fun _ => True) endList (Text.ofChars (inner ++ rest)) := by
  rw [SpellsItems] at spells
  obtain ⟨before, item, others, sep, one, -, rfl⟩ := spells
  obtain ⟨c, text, rfl, opens⟩ := one.opens
  have begins := opens.begins
  rw [List.append_assoc, List.append_assoc]
  cases first with
  | true =>
    refine .after (reads_peekToken sep begins.noSpace _) ?_
    dsimp only
    rw [if_neg fun same => begins.noBracket (Option.some.inj same),
      if_neg fun same => begins.noComma (Option.some.inj same)]
    exact (fails_failNext _).refuses _
  | false =>
    obtain ⟨gap, gap', hg, -, rfl⟩ := sep
    rw [List.append_assoc]
    refine .after (reads_peekToken hg (by decide) _) ?_
    dsimp only
    rw [if_neg (by decide), if_pos rfl]
    refine .after (reads_advance ',' _) (Fails.refuses (.after fun g => ?_) _)
    split
    · exact fails_failNext _
    · exact fails_failNext _

theorem settles_orFailAfterObject (e : Except Problem α) (cs : List Char) :
    Settles (orFailAfterObject e) cs e cs := by
  cases e with
  | error p => exact (fails_failAfterObject p).refuses _
  | ok a => exact Takes.pure _ _

/-- A member that no field knows is passed. -/
theorem Fields.Decides.takeMember {fields : Fields π σ} (h : fields.Decides depth)
    (origin : Origin) (key : String) (slots : π) (j : Json) :
    SettlesMember (fields.takeMember depth key slots) j
      ((fields.decodeMember origin key slots j).getD (.ok slots)) := by
  unfold Fields.takeMember
  cases known : fields.decodeMember origin key slots j with
  | none =>
    rw [fields.readMember_eq_none known depth]
    exact readsMember_skipValue j slots
  | some e =>
    obtain ⟨r, eq, settles⟩ := h.member known
    rw [eq]
    exact settles

/-- An object is read by the keys of its members. -/
theorem Fields.Decides.record_object {fields : Fields π σ} (h : fields.Decides depth)
    (title : String) (build : σ → α) (origin : Origin) (members : List (String × Json)) :
    SettlesValue ((Schema.record title fields build).read (depth + 1)) (.object members)
      ((Schema.record title fields build).decode origin (.object members)) := by
  intro gap text rest hg spells ends
  unfold Schema.decode
  rw [Spells] at spells
  obtain ⟨inner, spells, rfl⟩ := spells
  refine .after (reads_peekToken hg (by decide) _) (.after (reads_advance '\x7b' _) ?_)
  refine (settles_readMembers (h.takeMember origin) spells rest).bind fun slots _ => ?_
  exact (settles_orFailAfterObject (fields.finish slots) _).before fun a =>
    (reads_endObject .nil rest).bind (Takes.pure _ _)

/-- A list is read by the places of its items, of which there may be no more than fields. -/
theorem Fields.Decides.record_list {fields : Fields π σ} (h : fields.Decides depth)
    (title : String) (build : σ → α) (origin : Origin) (items : List Json) :
    SettlesValue ((Schema.record title fields build).read (depth + 1)) (.array items)
      ((Schema.record title fields build).decode origin (.array items)) := by
  intro gap text rest hg spells ends
  unfold Schema.decode
  dsimp only
  rw [Spells] at spells
  obtain ⟨inner, spells, rfl⟩ := spells
  refine .after (reads_peekToken hg (by decide) _) (.after (reads_advance '[' _) ?_)
  have spells : SpellsItems (decide (0 = 0)) items inner := spells
  have fields_ : SettlesItems _ _ (fields.decodeItems origin title fields.size 0 items) _ :=
    h.items spells rest
  cases eq : fields.decodeItems origin title fields.size 0 items with
  | error p =>
    rw [eq] at fields_
    exact Refuses.bind fields_
  | ok out =>
    obtain ⟨a, others⟩ := out
    rw [eq] at fields_
    obtain ⟨first, inner', spells', reads⟩ := fields_
    refine .after reads ?_
    cases others with
    | nil =>
      rw [SpellsItems] at spells'
      obtain ⟨gap', hg', rfl⟩ := spells'
      rw [List.append_assoc]
      exact (reads_endList hg' rest).bind (Takes.pure _ _)
    | cons j others => exact (refuses_endList spells' rest).bind

theorem Fields.Decides.record {fields : Fields π σ} (h : fields.Decides depth) (title : String)
    (build : σ → α) : (Schema.record title fields build).Decides (depth + 1) := by
  intro origin j
  by_cases isObject : ∃ members, j = .object members
  · obtain ⟨members, rfl⟩ := isObject
    exact h.record_object title build origin members
  by_cases isList : ∃ items, j = .array items
  · obtain ⟨items, rfl⟩ := isList
    exact h.record_list title build origin items
  -- what is neither does not begin as either does
  intro gap text rest hg spells ends
  obtain ⟨c, text, rfl, opens⟩ := spells.opens
  unfold Schema.decode
  refine .after (reads_peekToken hg opens.begins.noSpace _) ?_
  split
  · rename_i same
    obtain rfl := Option.some.inj (Option.some.inj same)
    exact absurd opens.eq_array isList
  · rename_i same
    obtain rfl := Option.some.inj (Option.some.inj same)
    exact absurd opens.eq_object isObject
  · split
    · exact absurd ⟨_, rfl⟩ isObject
    · exact absurd ⟨_, rfl⟩ isList
    · exact (fails_failType _).refuses _

/-! ## Whole texts -/

/-- What is decoded from a value is read from every text that spells it, and nothing else is. -/
theorem Schema.Decides.ofText {schema : Schema α} (h : schema.Decides depthLimit) {origin : Origin}
    {j : Json} {text : List Char} (spells : Spells j text) {a : α} :
    schema.ofText (Text.ofChars text) = .ok a ↔ schema.decode origin j = .ok a := by
  have settles := h origin j [] text [] .nil spells .nil
  rw [List.nil_append, List.append_nil] at settles
  unfold Schema.ofText
  cases eq : schema.decode origin j with
  | ok b =>
    rw [eq] at settles
    rw [parseAll_of_reads settles .nil, Except.ok.injEq, Except.ok.injEq]
  | error p =>
    rw [eq] at settles
    obtain ⟨e, stop, -⟩ := parseAll_of_refuses settles
    rw [stop]
    exact ⟨nofun, nofun⟩

end Signoff.Json
