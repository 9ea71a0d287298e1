import Mathlib.Data.List.Nodup
import Signoff.Proofs.Json.Members
import Signoff.Proofs.Json.Soundness

/-!
# Records in other words

A record can be written in many ways. A `Wording` says of one of its fields which values say no more
than leaving the field out would, the blank ones, and which values say the same, those that are
alike. Two records are alike (`AlikeRecords`) if they agree on every field in this sense: then they
may differ in the order of their members, in members that are none of the fields, and in blank
members.

* `AlikeMembers.of_perm`, `AlikeMembers.cons`: members in another order, and members that say
  nothing.
* `Schema.Equates`: what is alike is decoded as the same; `Fields.Worded.record`, `Equates.list`: so
  it is for records if it is for each of their fields, and for lists if it is for the items.
-/

namespace Signoff.Json

variable {α β π σ : Type} {origin : Origin}

/-- The value is null. -/
def isNull : Json → Bool
  | .null => true
  | _ => false

/-- How one field of a record may be written: blank values say what leaving the field out says, and
values that are alike say the same. -/
structure Wording where
  key : String
  blank : Json → Bool
  alike : Json → Json → Prop

namespace Wording

/-- Those of some values that are not blank. -/
def said (w : Wording) (js : List Json) : List Json := js.filter fun j => !w.blank j

/-- Values that say the same for a field, blank ones apart. -/
def Agree (w : Wording) (js js' : List Json) : Prop := List.Forall₂ w.alike (w.said js) (w.said js')

/-- A field that is written in one way. -/
def exact (key : String) : Wording := ⟨key, fun _ => false, Eq⟩

/-- A flag that need not be written if it is not set. -/
def flag (key : String) : Wording where
  key
  blank
    | .bool false => true
    | _ => false
  alike := Eq

/-- A value that need not be written if it is null. -/
def nullable (key : String) (alike : Json → Json → Prop) : Wording := ⟨key, isNull, alike⟩

/-- A collection that need not be written if it is empty, and for which null will do then. -/
def collection (key : String) (alike : Json → Json → Prop) : Wording where
  key
  blank
    | .null | .array [] | .object [] => true
    | _ => false
  alike

end Wording

/-- The values of the members under a key, in their order. -/
def valuesUnder (key : String) (members : List (String × Json)) : List Json :=
  (members.filter fun x => x.1 == key).map (·.2)

/-- The members say the same for every field. -/
def AlikeMembers (ws : List Wording) (members members' : List (String × Json)) : Prop :=
  ∀ w ∈ ws, w.Agree (valuesUnder w.key members) (valuesUnder w.key members')

/-- The items, one for each field, say the same; a list may be too short to have the last ones. -/
def AlikeItems : List Wording → List Json → List Json → Prop
  | [], _, _ => True
  | w :: ws, items, items' =>
    w.Agree items.head?.toList items'.head?.toList ∧ AlikeItems ws items.tail items'.tail

/-- Two records, written as objects or as lists of their fields, say the same. -/
def AlikeRecords (ws : List Wording) : Json → Json → Prop
  | .object members, .object members' => AlikeMembers ws members members'
  | .array items, .array items' => AlikeItems ws items items'
  | _, _ => False

/-- Two lists have items that are alike, in the same order. -/
def AlikeLists (alike : Json → Json → Prop) : Json → Json → Prop
  | .array items, .array items' => List.Forall₂ alike items items'
  | _, _ => False

/-- Two lists have the same items, in any order and any number of times each. -/
def AlikeSets : Json → Json → Prop
  | .array items, .array items' => ∀ j, j ∈ items ↔ j ∈ items'
  | _, _ => False

/-- Two objects have the same values under each key, in the same order; members of different keys
may stand in any order. -/
def AlikeTables : Json → Json → Prop
  | .object members, .object members' => ∀ key, valuesUnder key members = valuesUnder key members'
  | _, _ => False

/-! ## What alike members may differ in -/

theorem valuesUnder_cons (key k : String) (j : Json) (members : List (String × Json)) :
    valuesUnder key ((k, j) :: members) =
      if k = key then j :: valuesUnder key members else valuesUnder key members := by
  unfold valuesUnder
  by_cases same : k = key
  · rw [List.filter_cons_of_pos (by simpa using same), if_pos same, List.map_cons]
  · rw [List.filter_cons_of_neg (by simpa using same), if_neg same]

/-- A member that is none of the fields, or a blank one, says nothing. -/
theorem AlikeMembers.cons {ws : List Wording} {key : String} {j : Json}
    {members members' : List (String × Json)} (h : AlikeMembers ws members members')
    (empty : ∀ w ∈ ws, w.key = key → w.blank j = true) :
    AlikeMembers ws ((key, j) :: members) members' := by
  intro w hw
  unfold Wording.Agree
  rw [valuesUnder_cons]
  by_cases same : key = w.key
  · rw [if_pos same, Wording.said, List.filter_cons_of_neg (by simp [empty w hw same.symm])]
    exact h w hw
  · rw [if_neg same]
    exact h w hw

/-- Of members with different keys at most one has a given key, in whichever order they stand. -/
theorem valuesUnder_of_perm {members members' : List (String × Json)}
    (nodup : (members.map (·.1)).Nodup) (perm : members.Perm members') (key : String) :
    valuesUnder key members = valuesUnder key members' := by
  have values : (valuesUnder key members).Perm (valuesUnder key members') :=
    (perm.filter _).map _
  have count := List.nodup_iff_count_le_one.1 nodup key
  rw [List.count_eq_countP, List.countP_map, List.countP_eq_length_filter] at count
  have one : (valuesUnder key members).length ≤ 1 := (List.length_map _).trans_le count
  rcases eq : valuesUnder key members with _ | ⟨j, _ | ⟨j', js⟩⟩
  · exact (List.nil_perm.1 (eq ▸ values)).symm
  · exact List.singleton_perm.1 (eq ▸ values)
  · rw [eq, List.length_cons, List.length_cons] at one
    omega

/-- Members with different keys may stand in any order. -/
theorem AlikeMembers.of_perm {ws : List Wording} (refl : ∀ w ∈ ws, ∀ j, w.alike j j)
    {members members' : List (String × Json)} (nodup : (members.map (·.1)).Nodup)
    (perm : members.Perm members') : AlikeMembers ws members members' := by
  intro w hw
  unfold Wording.Agree
  rw [← valuesUnder_of_perm nodup perm]
  exact List.forall₂_same.2 fun j _ => refl w hw j

theorem AlikeTables.of_perm {members members' : List (String × Json)}
    (nodup : (members.map (·.1)).Nodup) (perm : members.Perm members') :
    AlikeTables (.object members) (.object members') :=
  valuesUnder_of_perm nodup perm

/-! ## Fields -/

/-- Values that are alike are decoded as the same. -/
def Schema.Equates (schema : Schema α) (alike : Json → Json → Prop) : Prop :=
  ∀ ⦃origin j j' a a'⦄, alike j j' → schema.decode origin j = .ok a →
    schema.decode origin j' = .ok a' → a = a'

/-- A field that is decoded with the schema may be written so: blank values are decoded as what
stands in for a field that is absent. -/
structure Wording.Fits (w : Wording) (schema : Schema α) (absent : Option α) : Prop where
  blank : ∀ {origin j a}, w.blank j = true → schema.decode origin j = .ok a → absent = some a
  equates : schema.Equates fun j j' => w.blank j = false ∧ w.blank j' = false ∧ w.alike j j'

/-- A field is decoded from its only value, or it has none and something stands in for it. -/
def DecodedFrom (origin : Origin) (schema : Schema α) (absent : Option α) (js : List Json) (a : α) :
    Prop :=
  js = [] ∧ absent = some a ∨ ∃ j, js = [j] ∧ schema.decode origin j = .ok a

namespace Wording.Fits

variable {w : Wording} {schema : Schema α} {absent : Option α} {js js' : List Json} {a a' : α}

/-- Blank values make no difference. -/
theorem decodedFrom_said (fits : w.Fits schema absent)
    (h : DecodedFrom origin schema absent js a) :
    DecodedFrom origin schema absent (w.said js) a := by
  rcases h with ⟨rfl, known⟩ | ⟨j, rfl, eq⟩
  · exact .inl ⟨rfl, known⟩
  · cases blank : w.blank j with
    | true => exact .inl ⟨by simp [said, blank], fits.blank blank eq⟩
    | false => exact .inr ⟨j, by simp [said, blank], eq⟩

/-- Values that agree are decoded as the same. -/
theorem unique (fits : w.Fits schema absent) (agree : w.Agree js js')
    (h : DecodedFrom origin schema absent js a) (h' : DecodedFrom origin schema absent js' a') :
    a = a' := by
  have unblank {js : List Json} {j : Json} (only : w.said js = [j]) : w.blank j = false := by
    have mem : j ∈ w.said js := only ▸ List.mem_singleton_self j
    simpa using (List.mem_filter.1 mem).2
  unfold Agree at agree
  rcases fits.decodedFrom_said h with ⟨none_, known⟩ | ⟨j, only, eq⟩ <;>
    rcases fits.decodedFrom_said h' with ⟨none_', known'⟩ | ⟨j', only', eq'⟩
  · exact Option.some.inj (known.symm.trans known')
  · rw [none_, only'] at agree
    cases agree
  · rw [only, none_'] at agree
    cases agree
  · rw [only, only'] at agree
    cases agree with
    | cons alike => exact fits.equates ⟨unblank only, unblank only', alike⟩ eq eq'

end Wording.Fits

/-- The fields may be written as the wordings say, one for each in their order. -/
def Fields.Worded : {π σ : Type} → Fields π σ → List Wording → Prop
  | _, _, .nil, _ => True
  | _, _, .cons key schema missing short rest, w :: ws =>
    w.key = key ∧ w.Fits schema missing ∧ w.Fits schema short ∧ rest.Worded ws
  | _, _, .cons .., [] => False

theorem Fields.told_cons_iff {key : String} {schema : Schema α} {missing short : Option α}
    {rest : Fields π σ} {members : List (String × Json)} {a : α} {b : σ} :
    (Fields.cons key schema missing short rest).Told origin members (a, b) ↔
      DecodedFrom origin schema missing (valuesUnder key members) a ∧
        rest.Told origin members b := by
  rw [Fields.Told]
  unfold DecodedFrom valuesUnder Lacks Only
  refine and_congr_left fun _ => or_congr ?_ ?_
  · rw [List.map_eq_nil_iff]
  · refine exists_congr fun j => and_congr_left fun _ => ?_
    constructor
    · intro only
      rw [only]
      rfl
    · intro only
      obtain ⟨⟨k, j'⟩, here, rfl⟩ := List.map_eq_singleton_iff.1 only
      have mem : (k, j') ∈ members.filter fun x => x.1 == key := here ▸ List.mem_singleton_self _
      obtain rfl : k = key := eq_of_beq (List.mem_filter.1 mem).2
      exact here

theorem Fields.listed_cons_iff {key : String} {schema : Schema α} {missing short : Option α}
    {rest : Fields π σ} {items : List Json} {a : α} {b : σ} :
    (Fields.cons key schema missing short rest).Listed origin items (a, b) ↔
      DecodedFrom origin schema short items.head?.toList a ∧ rest.Listed origin items.tail b := by
  unfold DecodedFrom
  cases items with
  | nil => simp [Fields.Listed]
  | cons j items => simp [Fields.Listed]

namespace Fields.Worded

theorem told_unique : {π σ : Type} → {fields : Fields π σ} → {ws : List Wording} →
    fields.Worded ws → {members members' : List (String × Json)} → {b b' : σ} →
    AlikeMembers ws members members' → fields.Told origin members b →
    fields.Told origin members' b' → b = b'
  | _, _, .nil, _, _, _, _, _, _, _, _, _ => rfl
  | _, _, .cons .., w :: ws, worded, _, _, (a, b), (a', b'), alike, told, told' => by
    obtain ⟨rfl, fits, -, rest⟩ := worded
    obtain ⟨here, told⟩ := Fields.told_cons_iff.1 told
    obtain ⟨here', told'⟩ := Fields.told_cons_iff.1 told'
    rw [fits.unique (alike w List.mem_cons_self) here here',
      told_unique rest (fun w hw => alike w (List.mem_cons_of_mem _ hw)) told told']

theorem listed_unique : {π σ : Type} → {fields : Fields π σ} → {ws : List Wording} →
    fields.Worded ws → {items items' : List Json} → {b b' : σ} → AlikeItems ws items items' →
    fields.Listed origin items b → fields.Listed origin items' b' → b = b'
  | _, _, .nil, _, _, _, _, _, _, _, _, _ => rfl
  | _, _, .cons .., w :: ws, worded, _, _, (a, b), (a', b'), alike, listed, listed' => by
    obtain ⟨-, -, fits, rest⟩ := worded
    obtain ⟨here, listed⟩ := Fields.listed_cons_iff.1 listed
    obtain ⟨here', listed'⟩ := Fields.listed_cons_iff.1 listed'
    rw [fits.unique alike.1 here here', listed_unique rest alike.2 listed listed']

/-- Records that say the same are decoded as the same. -/
theorem record {fields : Fields π σ} {ws : List Wording} (worded : fields.Worded ws)
    (differ : fields.distinct = true) (title : String) (build : σ → α) :
    (Schema.record title fields build).Equates (AlikeRecords ws) := by
  intro origin j j' a a' alike eq eq'
  obtain ⟨b, rfl, ⟨members, rfl, told⟩ | ⟨items, rfl, listed⟩⟩ :=
      (Schema.decode_record_iff differ).1 eq <;>
    obtain ⟨b', rfl, ⟨members', rfl, told'⟩ | ⟨items', rfl, listed'⟩⟩ :=
      (Schema.decode_record_iff differ).1 eq'
  · exact congrArg build (worded.told_unique alike told told')
  · exact alike.elim
  · exact alike.elim
  · exact congrArg build (worded.listed_unique alike listed listed')

end Fields.Worded

/-! ## Schemas -/

theorem Schema.decode_list_iff {schema : Schema α} {j : Json} {as : List α} :
    (Schema.list schema).decode origin j = .ok as ↔ ∃ items, j = .array items ∧
      List.Forall₂ (fun a j => schema.decode origin j = .ok a) as items := by
  cases j
  case array items =>
    rw [Schema.decode]
    exact mapM_eq_ok_iff.trans (by simp)
  all_goals simp [Schema.decode]

theorem Schema.decode_optional_iff {schema : Schema α} {j : Json} {o : Option α} :
    (Schema.optional schema).decode origin j = .ok o ↔
      j.isNull = true ∧ o = none ∨
        j.isNull = false ∧ ∃ a, schema.decode origin j = .ok a ∧ o = some a := by
  cases j
  case null => simp [Schema.decode, isNull, eq_comm]
  all_goals
    rw [Schema.decode, map_eq_ok]
    · simp [isNull, eq_comm]
    · intro null
      cases null

theorem Schema.decode_orNull_iff {schema : Schema α} {default : α} {j : Json} {a : α} :
    (schema.orNull default).decode origin j = .ok a ↔
      j.isNull = true ∧ a = default ∨ j.isNull = false ∧ schema.decode origin j = .ok a := by
  unfold Schema.orNull
  rw [Schema.decode, map_eq_ok]
  simp only [decode_optional_iff]
  constructor
  · rintro ⟨o, ⟨null, rfl⟩ | ⟨some_, a', eq, rfl⟩, rfl⟩
    · exact .inl ⟨null, rfl⟩
    · exact .inr ⟨some_, eq⟩
  · rintro (⟨null, rfl⟩ | ⟨some_, eq⟩)
    · exact ⟨none, .inl ⟨null, rfl⟩, rfl⟩
    · exact ⟨some a, .inr ⟨some_, a, eq, rfl⟩, rfl⟩

namespace Schema.Equates

variable {schema : Schema α} {alike : Json → Json → Prop}

theorem items (h : schema.Equates alike) {items items' : List Json} {as as' : List α}
    (similar : List.Forall₂ alike items items')
    (decoded : List.Forall₂ (fun a j => schema.decode origin j = .ok a) as items)
    (decoded' : List.Forall₂ (fun a j => schema.decode origin j = .ok a) as' items') :
    as = as' := by
  induction similar generalizing as as' with
  | nil =>
    cases decoded
    cases decoded'
    rfl
  | cons first others ih =>
    cases decoded with | cons here there => ?_
    cases decoded' with | cons here' there' => ?_
    rw [h first here here', ih there there']

/-- Lists of items that are alike, one by one, are decoded as the same. -/
theorem list (h : schema.Equates alike) : (Schema.list schema).Equates (AlikeLists alike) := by
  intro origin j j' as as' similar eq eq'
  obtain ⟨items, rfl, decoded⟩ := decode_list_iff.1 eq
  obtain ⟨items', rfl, decoded'⟩ := decode_list_iff.1 eq'
  exact h.items similar decoded decoded'

/-- What is made of the decoded value is the same, too. -/
theorem map (h : schema.Equates alike) (f : α → β) : (Schema.map f schema).Equates alike := by
  intro origin j j' b b' similar eq eq'
  rw [Schema.decode, map_eq_ok] at eq eq'
  obtain ⟨a, eq, rfl⟩ := eq
  obtain ⟨a', eq', rfl⟩ := eq'
  rw [h similar eq eq']

end Schema.Equates

/-! ## Usual fields -/

namespace Wording

variable {schema : Schema α} {alike : Json → Json → Prop} {key : String}

theorem fits_exact (absent : Option α) : (exact key).Fits schema absent where
  blank := nofun
  equates := by
    rintro origin j _ a a' ⟨-, -, rfl⟩ eq eq'
    exact Except.ok.inj (eq.symm.trans eq')

theorem fits_flag : (flag key).Fits .flag (some false) where
  blank {origin j a} unset eq := by
    unfold flag at unset
    dsimp only at unset
    split at unset
    · rw [Schema.decode, Except.ok.injEq] at eq
      rw [eq]
    · cases unset
  equates := by
    rintro origin j _ a a' ⟨-, -, rfl⟩ eq eq'
    exact Except.ok.inj (eq.symm.trans eq')

theorem fits_nullable (key : String) (h : schema.Equates alike) :
    (nullable key alike).Fits (.optional schema) (some none) where
  blank {origin j o} null eq := by
    rcases Schema.decode_optional_iff.1 eq with ⟨-, rfl⟩ | ⟨some_, -⟩
    · rfl
    · cases null.symm.trans some_
  equates := by
    rintro origin j j' o o' ⟨some_, some_', similar⟩ eq eq'
    obtain ⟨null, -⟩ | ⟨-, a, here, rfl⟩ := Schema.decode_optional_iff.1 eq
    · cases null.symm.trans some_
    obtain ⟨null, -⟩ | ⟨-, a', here', rfl⟩ := Schema.decode_optional_iff.1 eq'
    · cases null.symm.trans some_'
    rw [h similar here here']

theorem isNull_of_collection {j : Json} (h : (collection key alike).blank j = false) :
    j.isNull = false := by
  cases j with
  | null => cases h
  | _ => rfl

theorem fits_collection (h : schema.Equates alike) {default : α}
    (list : ∀ {origin a}, schema.decode origin (.array []) = .ok a → a = default)
    (table : ∀ {origin a}, schema.decode origin (.object []) = .ok a → a = default) :
    (collection key alike).Fits (schema.orNull default) (some default) where
  blank {origin j a} empty eq := by
    unfold collection at empty
    dsimp only at empty
    rcases Schema.decode_orNull_iff.1 eq with ⟨-, rfl⟩ | ⟨some_, eq⟩
    · rfl
    split at empty
    · cases some_
    · rw [list eq]
    · rw [table eq]
    · cases empty
  equates := by
    rintro origin j j' a a' ⟨full, full', similar⟩ eq eq'
    obtain ⟨null, -⟩ | ⟨-, eq⟩ := Schema.decode_orNull_iff.1 eq
    · cases null.symm.trans (isNull_of_collection full)
    obtain ⟨null, -⟩ | ⟨-, eq'⟩ := Schema.decode_orNull_iff.1 eq'
    · cases null.symm.trans (isNull_of_collection full')
    exact h similar eq eq'

end Wording

/-- One more field, with what stands in for it where it is absent. -/
theorem Fields.Worded.cons {fields : Fields π σ} {ws : List Wording} (rest : fields.Worded ws)
    {w : Wording} {schema : Schema α} {absent : Option α} (fits : w.Fits schema absent) :
    (Fields.cons w.key schema absent absent fields).Worded (w :: ws) :=
  ⟨rfl, fits, fits, rest⟩

theorem Fields.worded_nil : Fields.nil.Worded [] := trivial

/-! ## Sets and tables -/

theorem Schema.decode_texts_iff {j : Json} {texts : List String} :
    (Schema.list .text).decode origin j = .ok texts ↔ j = .array (texts.map .string) := by
  have each (items : List Json) :
      List.Forall₂ (fun s j => Schema.text.decode origin j = .ok s) texts items ↔
        texts.map .string = items := by
    simp only [decode_text_iff, @eq_comm Json _ (.string _)]
    rw [← List.forall₂_map_left_iff, List.forall₂_eq_eq_eq]
  simp only [decode_list_iff, each, exists_eq_right']

theorem Schema.decode_table_iff {j : Json} {entries : List (String × String)} :
    (Schema.table .text).decode origin j = .ok entries ↔
      j = .object (entries.map fun x => (x.1, .string x.2)) := by
  have each (members : List (String × Json)) :
      members.mapM (fun x => (Schema.text.decode origin x.2).map fun a => (x.1, a)) =
          Except.ok entries ↔ (entries.map fun x => (x.1, Json.string x.2)) = members := by
    have one (x : String × String) (y : String × Json) :
        ((Schema.text.decode origin y.2).map fun a => (y.1, a)) = Except.ok x ↔
          (x.1, Json.string x.2) = y := by
      rw [map_eq_ok]
      simp only [decode_text_iff]
      constructor
      · rintro ⟨s, there, rfl⟩
        exact Prod.ext rfl there.symm
      · rintro rfl
        exact ⟨x.2, rfl, rfl⟩
    rw [mapM_eq_ok_iff]
    simp only [one]
    rw [← List.forall₂_map_left_iff, List.forall₂_eq_eq_eq]
  cases j
  case object members =>
    rw [Schema.decode, each, Json.object.injEq, eq_comm]
  all_goals simp [Schema.decode]

/-- Sets of texts do not depend on order and number. -/
theorem equates_set {f : List String → α}
    (same : ∀ {texts texts' : List String}, (∀ s, s ∈ texts ↔ s ∈ texts') → f texts = f texts') :
    (Schema.map f (.list .text)).Equates AlikeSets := by
  intro origin j j' a a' similar eq eq'
  rw [Schema.decode, map_eq_ok] at eq eq'
  obtain ⟨texts, eq, rfl⟩ := eq
  obtain ⟨texts', eq', rfl⟩ := eq'
  rw [Schema.decode_texts_iff] at eq eq'
  subst eq eq'
  refine same fun s => ?_
  simpa using similar (.string s)

theorem valuesUnder_entries (key : String) (entries : List (String × String)) :
    valuesUnder key (entries.map fun x => (x.1, .string x.2)) =
      ((entries.filter fun x => x.1 == key).map (·.2)).map .string := by
  rw [valuesUnder, List.filter_map, List.map_map, List.map_map]
  rfl

theorem findEntry_eq_head? {κ : Type} [Ord κ] [Std.LawfulEqOrd κ] [BEq κ] [LawfulBEq κ] (key : κ)
    (entries : List (κ × α)) :
    findEntry key entries = ((entries.filter fun x => x.1 == key).map (·.2)).head? := by
  induction entries with
  | nil => rfl
  | cons x entries ih =>
    obtain ⟨k, a⟩ := x
    rw [findEntry]
    by_cases same : key = k
    · subst same
      rw [if_pos Std.ReflOrd.compare_self, List.filter_cons_of_pos (by simp)]
      rfl
    · rw [if_neg (mt Std.LawfulEqOrd.eq_of_compare same),
        List.filter_cons_of_neg (by simpa using Ne.symm same), ih]

/-- Tables of texts only depend on the texts under each key, and on the order of these. -/
theorem equates_table : (Schema.map Table.ofList (.table .text)).Equates AlikeTables := by
  intro origin j j' a a' similar eq eq'
  rw [Schema.decode, map_eq_ok] at eq eq'
  obtain ⟨entries, eq, rfl⟩ := eq
  obtain ⟨entries', eq', rfl⟩ := eq'
  rw [Schema.decode_table_iff] at eq eq'
  subst eq eq'
  refine Table.ext_get? fun key => ?_
  have values := similar key
  rw [valuesUnder_entries, valuesUnder_entries] at values
  have texts := List.map_injective_iff.2 (fun _ _ => Json.string.inj) values
  rw [Table.get?_ofList, Table.get?_ofList, findEntry_eq_head?, findEntry_eq_head?,
    List.filter_reverse, List.filter_reverse, List.map_reverse, List.map_reverse, texts]

end Signoff.Json
