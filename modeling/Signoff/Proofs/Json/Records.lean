import Signoff.Proofs.Json.Members
import Signoff.Proofs.Json.Shape

/-!
# Records decoded from their members

A record is decoded from an object whose keys differ if every field fits what stands under its key
(`Fields.Fits`), so the order of the members does not matter (`Schema.decode_record`,
`Schema.decode_flattened`).

`Rewrites` says of a function that it may put the members of objects in another order, and changes
nothing else. A value that is kept is rewritten in this sense (`rewrites_canonical`).
-/

namespace Signoff.Json

/-- The keys of the members differ. -/
abbrev DistinctKeys (members : List (String × Json)) : Prop := (members.map (·.1)).Nodup

/-! ## Members by their keys -/

theorem lookup_eq_some_iff_mem {members : List (String × Json)} (distinct : DistinctKeys members)
    {key : String} {j : Json} : members.lookup key = some j ↔ (key, j) ∈ members := by
  induction members with
  | nil => simp
  | cons x members ih =>
    obtain ⟨k, v⟩ := x
    obtain ⟨fresh, distinct⟩ := List.nodup_cons.1 distinct
    rw [List.lookup_cons, List.mem_cons]
    by_cases same : key = k
    · subst same
      have absent : (key, j) ∉ members := fun h => fresh (List.mem_map.2 ⟨_, h, rfl⟩)
      simp [absent, eq_comm]
    · have other : (key == k) = false := by simpa using same
      rw [other]
      simp [same, ih distinct]

theorem lacks_of_lookup {members : List (String × Json)} {key : String}
    (h : members.lookup key = none) : Lacks members key := by
  rw [Lacks, List.filter_eq_nil_iff]
  intro x mem same
  have other := List.lookup_eq_none_iff.1 h x mem
  rw [eq_of_beq same] at other
  simp at other

/-- Where keys differ, what stands under a key is the only member with it. -/
theorem only_of_lookup {members : List (String × Json)} (distinct : DistinctKeys members)
    {key : String} {j : Json} (h : members.lookup key = some j) : Only members key j := by
  induction members with
  | nil => cases h
  | cons x members ih =>
    obtain ⟨k, v⟩ := x
    obtain ⟨fresh, distinct⟩ := List.nodup_cons.1 distinct
    rw [List.lookup_cons] at h
    unfold Only
    by_cases same : key = k
    · subst same
      obtain rfl : v = j := by simpa using h
      have absent : Lacks members key := by
        rw [Lacks, List.filter_eq_nil_iff]
        intro x mem same
        exact fresh (List.mem_map.2 ⟨x, mem, eq_of_beq same⟩)
      rw [List.filter_cons_of_pos (by simp), absent]
    · have other : (key == k) = false := beq_eq_false_iff_ne.2 same
      rw [other] at h
      rw [List.filter_cons_of_neg (by simpa using Ne.symm same)]
      exact ih distinct h

theorem lookup_reverse {members : List (String × Json)} (distinct : DistinctKeys members)
    (key : String) : members.reverse.lookup key = members.lookup key := by
  have distinct' : DistinctKeys members.reverse := by
    rw [DistinctKeys, List.map_reverse]
    exact List.pairwise_reverse.2 (distinct.imp fun h => h.symm)
  ext j
  rw [lookup_eq_some_iff_mem distinct', lookup_eq_some_iff_mem distinct, List.mem_reverse]

theorem findEntry_eq_lookup (key : String) (members : List (String × Json)) :
    findEntry key members = members.lookup key := by
  induction members with
  | nil => rfl
  | cons x members ih =>
    obtain ⟨k, v⟩ := x
    rw [findEntry, List.lookup_cons, ih]
    by_cases same : key = k
    · subst same
      simp [Std.ReflOrd.compare_self]
    · have ne : ¬ compare key k = .eq := mt Std.LawfulEqOrd.eq_of_compare same
      have other : (key == k) = false := by simpa using same
      rw [if_neg ne, other]

theorem lookup_sortEntries {members : List (String × Json)} (distinct : DistinctKeys members)
    (key : String) : (sortEntries members).lookup key = members.lookup key := by
  have sorted := Table.get?_ofList members key
  rw [findEntry_eq_lookup, lookup_reverse distinct] at sorted
  rw [← sorted, ← findEntry_eq_lookup]
  rfl

theorem distinctKeys_sortEntries (members : List (String × Json)) :
    DistinctKeys (sortEntries members) := (Table.ofList members).keys_nodup

theorem lookup_map (f : Json → Json) (key : String) (members : List (String × Json)) :
    (members.map fun x => (x.1, f x.2)).lookup key = (members.lookup key).map f := by
  induction members with
  | nil => rfl
  | cons x members ih =>
    rw [List.map_cons, List.lookup_cons, List.lookup_cons, ih]
    cases key == x.1 <;> rfl

@[simp] theorem lookup_memberIf (condition : Bool) (key key' : String) (j : Json) :
    (memberIf condition key j).lookup key' = if condition && key' == key then some j else none := by
  cases condition
  · rfl
  · simp only [memberIf, if_true, List.lookup_cons, Bool.true_and]
    cases key' == key <;> rfl

@[simp] theorem lookup_memberOf? {α : Type} (key key' : String) (toJson : α → Json) (a : Option α) :
    (memberOf? key toJson a).lookup key' = if key' == key then a.map toJson else none := by
  cases a
  · simp [memberOf?]
  · simp only [memberOf?, List.lookup_cons, Option.map_some]
    cases key' == key <;> rfl

/-! ## Fields that fit -/

variable {α π σ π' σ' : Type} {origin : Origin}

/-- What stands under the key of each field is decoded as the field; a field under whose key nothing
stands may be missing. -/
def Fields.Fits (origin : Origin) :
    {π σ : Type} → Fields π σ → List (String × Json) → σ → Prop
  | _, _, .nil, _, _ => True
  | _, _, .cons key schema missing _ rest, members, (a, b) =>
    (members.lookup key).elim (missing = some a) (fun j => schema.decode origin j = .ok a) ∧
      rest.Fits origin members b

/-- Only the members under keys of fields matter. -/
theorem Fields.Fits.congr : {π σ : Type} → {fields : Fields π σ} →
    {members members' : List (String × Json)} → {a : σ} → fields.Fits origin members a →
    (∀ key, fields.hasKey key = true → members.lookup key = members'.lookup key) →
    fields.Fits origin members' a
  | _, _, .nil, _, _, _, _, _ => trivial
  | _, _, .cons key _ _ _ rest, _, _, (_, _), h, eq => by
    obtain ⟨here, there⟩ := h
    refine ⟨?_, there.congr fun k hk => eq k ?_⟩
    · rwa [← eq key (by unfold Fields.hasKey; simp)]
    · unfold Fields.hasKey
      rw [hk, Bool.or_true]

/-- Members that fit the fields say what the fields are. -/
theorem Fields.Fits.told : {π σ : Type} → {fields : Fields π σ} → {a : σ} →
    {members : List (String × Json)} → fields.Fits origin members a → DistinctKeys members →
    fields.Told origin members a
  | _, _, .nil, _, _, _, _ => trivial
  | _, _, .cons key _ _ _ _, (_, _), members, h, distinct => by
    obtain ⟨here, there⟩ := h
    refine ⟨?_, there.told distinct⟩
    cases found : members.lookup key with
    | none =>
      rw [found] at here
      exact .inl ⟨lacks_of_lookup found, here⟩
    | some j =>
      rw [found] at here
      exact .inr ⟨j, only_of_lookup distinct found, here⟩

/-- Members that fit the fields are decoded as they say. -/
theorem Fields.Fits.decode {fields : Fields π σ} {a : σ} {members : List (String × Json)}
    (h : fields.Fits origin members a) (differ : fields.distinct = true)
    (distinct : DistinctKeys members) :
    ∃ slots, decodeMembers (fields.decodeMember origin) members fields.empty = .ok slots ∧
      fields.finish slots = .ok a :=
  (Fields.told_iff differ).2 (h.told distinct)

theorem Schema.decode_record {fields : Fields π σ} {a : σ} {members : List (String × Json)}
    (h : fields.Fits origin members a) (differ : fields.distinct = true)
    (distinct : DistinctKeys members) (title : String) (build : σ → α) :
    (Schema.record title fields build).decode origin (.object members) = .ok (build a) := by
  obtain ⟨slots, eq, done⟩ := h.decode differ distinct
  simp only [Schema.decode, eq]
  show (fields.finish slots).map build = _
  rw [done]
  rfl

/-- A kept value is decoded as it is. -/
theorem Schema.decode_value (v : Value) : Schema.value.decode origin v.json = .ok v := by
  show Except.ok (Value.ofJson v.json) = _
  rw [Value.ofJson_json]

/-- An object with any keys is decoded if its values are. -/
theorem Schema.decode_table {schema : Schema α} {toJson : α → Json}
    (h : ∀ a, schema.decode origin (toJson a) = .ok a) (entries : List (String × α)) :
    (Schema.table schema).decode origin (.object (entries.map fun x => (x.1, toJson x.2))) =
      .ok entries := by
  show (entries.map fun x => (x.1, toJson x.2)).mapM (fun x : String × Json =>
    (schema.decode origin x.2).map fun a => (x.1, a)) = .ok entries
  induction entries with
  | nil => rfl
  | cons x entries ih =>
    rw [List.map_cons, List.mapM_cons, h, ih]
    rfl

theorem lookup_filter {p : String → Bool} {key : String} (h : p key = true)
    (members : List (String × Json)) :
    (members.filter fun x => p x.1).lookup key = members.lookup key := by
  induction members with
  | nil => rfl
  | cons x members ih =>
    rw [List.filter_cons, List.lookup_cons]
    by_cases same : key = x.1
    · rw [if_pos (by rw [← same]; exact h), List.lookup_cons, ih]
    · have other : (key == x.1) = false := by simpa using same
      rw [other]
      split
      · rw [List.lookup_cons, other, ih]
      · exact ih

theorem Schema.decode_flattened {own : Fields π σ} {a : σ} {inner : Fields π' σ'} {b : σ'}
    {members : List (String × Json)} (h : own.Fits origin members a)
    (h' : inner.Fits .buffered members b) (differ : own.distinct = true)
    (differ' : inner.distinct = true)
    (apart : ∀ key, inner.hasKey key = true → own.hasKey key = false)
    (distinct : DistinctKeys members) (title : String) (build : σ → σ' → α) :
    (Schema.flattened title own inner build).decode origin (.object members) =
      .ok (build a b) := by
  obtain ⟨slots, eq, done⟩ := h.decode differ distinct
  have others : inner.Fits .buffered (members.filter fun x => !own.hasKey x.1) b :=
    h'.congr fun key hk =>
      (lookup_filter (p := fun key => !own.hasKey key) (by rw [apart key hk]; rfl) members).symm
  obtain ⟨slots', eq', done'⟩ := others.decode differ'
    (distinct.sublist (List.filter_sublist.map _))
  simp only [Schema.decode, eq]
  show (own.finish slots >>= _) = _
  rw [done]
  show (decodeMembers _ _ _ >>= _) = _
  rw [eq']
  show (inner.finish slots').map _ = _
  rw [done']
  rfl

/-! ## Values in another order -/

/-- The function puts the members of objects whose keys differ in some order, at every level, and
leaves everything else as it is. -/
structure Rewrites (f : Json → Json) : Prop where
  string : ∀ s, f (.string s) = .string s
  bool : ∀ b, f (.bool b) = .bool b
  array : ∀ items, f (.array items) = .array (items.map f)
  object : ∀ members, DistinctKeys members → ∃ members', f (.object members) = .object members' ∧
    DistinctKeys members' ∧ ∀ key, members'.lookup key = (members.lookup key).map f
  table : ∀ members, Increasing members →
    f (.object members) = .object (members.map fun x => (x.1, f x.2))

/-- A list does not become null. -/
theorem Rewrites.array_ne_null {f : Json → Json} (rewrites : Rewrites f) (items : List Json) :
    f (.array items) ≠ .null := by
  simp [rewrites.array]

theorem rewrites_id : Rewrites id where
  string _ := rfl
  bool _ := rfl
  array items := by rw [List.map_id]; rfl
  object members distinct := ⟨members, rfl, distinct, fun key => by rw [Option.map_id]; rfl⟩
  table members _ := by
    have same : (fun x : String × Json => (x.1, id x.2)) = id := rfl
    rw [same, List.map_id]
    rfl

theorem canonicalItems_eq_map (items : List Json) : canonicalItems items = items.map canonical := by
  induction items with
  | nil => rw [canonicalItems, List.map_nil]
  | cons j items ih => rw [canonicalItems, List.map_cons, ih]

theorem canonicalMembers_eq_map (members : List (String × Json)) :
    canonicalMembers members = members.map fun x => (x.1, canonical x.2) := by
  induction members with
  | nil => rw [canonicalMembers, List.map_nil]
  | cons x members ih => rw [canonicalMembers, List.map_cons, ih]

/-- A value that is kept has its members in increasing order. -/
theorem rewrites_canonical : Rewrites canonical where
  string _ := canonical_scalar rfl
  bool _ := canonical_scalar rfl
  array items := by rw [canonical, canonicalItems_eq_map]
  object members distinct := by
    have distinct' : DistinctKeys (members.map fun x => (x.1, canonical x.2)) := by
      rw [DistinctKeys, List.map_map]
      exact distinct
    refine ⟨_, by rw [canonical], distinctKeys_sortEntries _, fun key => ?_⟩
    rw [canonicalMembers_eq_map, lookup_sortEntries distinct', lookup_map]
  table members increasing := by
    rw [canonical, canonicalMembers_eq_map, sortEntries_eq_self]
    exact List.pairwise_map.2 increasing

variable {f : Json → Json}

/-- The members in their new order fit the fields that they fit in the old one. -/
theorem Rewrites.fits (rewrites : Rewrites f) {members : List (String × Json)}
    (distinct : DistinctKeys members) : ∃ members', f (.object members) = .object members' ∧
    DistinctKeys members' ∧ ∀ {π σ : Type} {fields : Fields π σ} {origin : Origin} {a : σ},
      fields.Fits origin (members.map fun x => (x.1, f x.2)) a → fields.Fits origin members' a := by
  obtain ⟨members', eq, distinct', lookup⟩ := rewrites.object members distinct
  exact ⟨members', eq, distinct', fun h => h.congr fun key _ => by rw [lookup, lookup_map]⟩

theorem Rewrites.decode_record (rewrites : Rewrites f) {members : List (String × Json)}
    (distinct : DistinctKeys members) {fields : Fields π σ} (differ : fields.distinct = true)
    {a : σ} (h : fields.Fits origin (members.map fun x => (x.1, f x.2)) a) {title : String}
    {build : σ → α} :
    (Schema.record title fields build).decode origin (f (.object members)) = .ok (build a) := by
  obtain ⟨members', eq, distinct', fits⟩ := rewrites.fits distinct
  rw [eq]
  exact Schema.decode_record (fits h) differ distinct' title build

/-- A list of records is decoded if each of them is. -/
theorem Rewrites.decode_list (rewrites : Rewrites f) {schema : Schema α} {toJson : α → Json}
    (h : ∀ a, schema.decode origin (f (toJson a)) = .ok a) (as : List α) :
    (Schema.list schema).decode origin (f (.array (as.map toJson))) = .ok as := by
  rw [rewrites.array]
  show (List.map f (as.map toJson)).mapM (fun j => schema.decode origin j) = .ok as
  induction as with
  | nil => rfl
  | cons a as ih =>
    rw [List.map_cons, List.map_cons, List.mapM_cons, h, ih]
    rfl

end Signoff.Json
