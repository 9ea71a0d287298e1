import Signoff.Document
import Signoff.Json.Schema.Reader
import Signoff.Proofs.Action
import Signoff.Proofs.Json.Shape
import Signoff.Proofs.Reader

/-!
# How deep values are that were read

Lists and objects that were read from a text nest at most as deep as the reader allows
(`gives_readTree`). The fields of a record that was read have what their schemas read one level
further inside, or what stands in for them (`gives_readRecord`). So the data of a document that was
read leaves room for the object around it (`Document.depth_of_ofText`).
-/

namespace Signoff

namespace Json

variable {α β σ π : Type} {P : α → Prop}

theorem gives_failHere (problem : Problem) : Gives P (failHere problem : Reader α) :=
  Gives.after fun _ => Gives.throw _

theorem gives_failNext (problem : Problem) : Gives P (failNext problem : Reader α) :=
  Gives.after fun _ => Gives.throw _

theorem gives_failType (wanted : Wanted) : Gives P (failType wanted : Reader α) :=
  Gives.after fun _ => gives_failHere _

theorem gives_failAfterObject (problem : Problem) :
    Gives P (failAfterObject problem : Reader α) := by
  refine Gives.after fun token => ?_
  split
  · exact Gives.after fun _ => gives_failHere _
  · exact gives_failHere _

theorem gives_failAfterList (problem : Problem) : Gives P (failAfterList problem : Reader α) := by
  refine Gives.after fun token => ?_
  split
  · exact Gives.after fun _ => gives_failHere _
  · exact Gives.after fun _ => Gives.after fun _ => gives_failHere _
  · exact gives_failHere _

theorem gives_orFailAfterObject {e : Except Problem α} (h : ∀ a, e = .ok a → P a) :
    Gives P (orFailAfterObject e) := by
  cases e with
  | ok a => exact Gives.pure (h a rfl)
  | error p => exact gives_failAfterObject p

/-- A list or object is entered one level further inside. -/
theorem gives_enter {depth : Nat} {inside : Nat → Reader α}
    (h : ∀ n, depth = n + 1 → Gives P (inside n)) : Gives P (enter depth inside) := by
  cases depth with
  | zero => exact gives_failNext _
  | succ n => exact Gives.after fun _ => h n rfl

/-! ## Lists and objects -/

theorem gives_readItemsFrom {item : Reader α} (h : Gives P item) (bound : Text) {before : List α}
    (good : ∀ a ∈ before, P a) :
    Gives (fun as => ∀ a ∈ as, P a) (readItemsFrom item bound before) := by
  induction bound generalizing before with
  | nil => exact gives_failHere _
  | cons g bound ih =>
    refine Gives.after fun more => ?_
    split
    · exact h.bind fun a here => ih (List.forall_mem_cons.2 ⟨here, good⟩)
    · exact Gives.pure fun a mem => good a (List.mem_reverse.1 mem)

theorem gives_readItems {item : Reader α} (h : Gives P item) :
    Gives (fun as => ∀ a ∈ as, P a) (readItems item) :=
  Gives.after fun _ => (gives_readItemsFrom h _ (List.forall_mem_nil _)).bind fun _ all =>
    Gives.after fun _ => Gives.pure all

theorem gives_readMembersFrom {I : σ → Prop} {member : String → σ → Reader σ}
    (h : ∀ key state, I state → Gives I (member key state)) (bound : Text) (first : Bool)
    {state : σ} (good : I state) : Gives I (readMembersFrom member bound first state) := by
  induction bound generalizing first state with
  | nil => exact gives_failHere _
  | cons g bound ih =>
    refine Gives.after fun more => ?_
    split
    · exact Gives.after fun key => (h key state good).bind fun _ good => ih false good
    · exact Gives.pure good

/-- What every member keeps, the members of an object keep. -/
theorem gives_readMembers {I : σ → Prop} {member : String → σ → Reader σ}
    (h : ∀ key state, I state → Gives I (member key state)) {state : σ} (good : I state) :
    Gives I (readMembers member state) :=
  Gives.after fun _ => gives_readMembersFrom h _ true good

/-! ## Any value -/

theorem gives_readAny {scalar : Json → α} {list object : Reader α}
    (h : ∀ j : Json, j.isScalar = true → P (scalar j)) (hl : Gives P list) (ho : Gives P object) :
    Gives P (readAny scalar list object) := by
  refine Gives.after fun token => ?_
  split
  · exact gives_failHere _
  · exact gives_failNext _
  · repeat' split
    · exact Gives.after fun _ => Gives.pure (h _ rfl)
    · exact Gives.after fun _ => Gives.pure (h _ rfl)
    · exact Gives.after fun _ => Gives.pure (h _ rfl)
    · exact Gives.after fun _ => Gives.pure (h _ rfl)
    · exact Gives.after fun _ => Gives.after fun _ => Gives.pure (h _ rfl)
    · exact hl
    · exact ho
    · exact gives_failNext _

theorem depth_scalar {j : Json} (h : j.isScalar = true) : j.depth = 0 := by
  cases j with
  | array | object => cases h
  | _ => rfl

/-- Lists and objects nest at most as deep as the reader allows. -/
theorem gives_readTree (depth : Nat) : Gives (fun j => j.depth ≤ depth) (readTree depth) := by
  have scalar {depth : Nat} (j : Json) (h : j.isScalar = true) : (id j).depth ≤ depth :=
    Nat.le_trans (Nat.le_of_eq (depth_scalar h)) (Nat.zero_le _)
  induction depth with
  | zero => exact gives_readAny scalar (gives_failNext _) (gives_failNext _)
  | succ depth ih =>
    refine gives_readAny scalar (Gives.after fun _ => ?_) (Gives.after fun _ => ?_)
    · refine (gives_readItems ih).bind fun items all => Gives.pure ?_
      rw [Json.depth]
      exact Nat.succ_le_succ (depthItems_le_iff.2 all)
    · refine (gives_readMembers (I := fun members => ∀ x ∈ members, x.2.depth ≤ depth)
        (fun key members all => Gives.after fun _ => ih.bind fun j le => Gives.pure ?_)
        (List.forall_mem_nil _)).bind fun members all => Gives.after fun _ => Gives.pure ?_
      · exact List.forall_mem_cons.2 ⟨le, all⟩
      · rw [Json.depth]
        exact Nat.succ_le_succ (depthMembers_le_iff.2 fun x mem => all x (List.mem_reverse.1 mem))

/-! ## Records -/

/-- The schema reads the value from some text. -/
def Schema.Yields (schema : Schema α) (depth : Nat) (a : α) : Prop :=
  ∃ s s', schema.read depth s = .ok (a, s')

/-- Each field has what its schema reads from some text, or what stands in for it. -/
def Fields.Yield : {π σ : Type} → Fields π σ → (depth : Nat) → σ → Prop
  | _, _, .nil, _, _ => True
  | _, _, .cons _ schema missing short rest, depth, (a, b) =>
    (schema.Yields depth a ∨ missing = some a ∨ short = some a) ∧ rest.Yield depth b

/-- Each slot that is filled has what the schema of its field reads from some text. -/
def Fields.Filled : {π σ : Type} → Fields π σ → (depth : Nat) → π → Prop
  | _, _, .nil, _, _ => True
  | _, _, .cons _ schema _ _ rest, depth, (slot, slots) =>
    (∀ a, slot = some a → schema.Yields depth a) ∧ rest.Filled depth slots

theorem Fields.filled_empty : {π σ : Type} → (fields : Fields π σ) → (depth : Nat) →
    fields.Filled depth fields.empty
  | _, _, .nil, _ => trivial
  | _, _, .cons _ _ _ _ rest, depth => ⟨nofun, rest.filled_empty depth⟩

theorem Fields.gives_readMember : {π σ : Type} → (fields : Fields π σ) → {depth : Nat} →
    {key : String} → {slots : π} → {r : Reader π} → fields.Filled depth slots →
    fields.readMember depth key slots = some r → Gives (fields.Filled depth) r
  | _, _, .nil, _, _, _, _, _, eq => nomatch eq
  | _, _, .cons key' schema _ _ rest, depth, key, (slot, slots), r, filled, eq => by
    obtain ⟨here, there⟩ := filled
    unfold Fields.readMember at eq
    split at eq
    · obtain rfl := Option.some.inj eq
      split
      · exact gives_failAfterObject _
      · refine Gives.after fun _ => ?_
        have read : Gives (schema.Yields depth) (schema.read depth) := fun s a s' h => ⟨s, s', h⟩
        refine read.bind fun a yields => Gives.pure ⟨fun a' eq => ?_, there⟩
        obtain rfl := Option.some.inj eq
        exact yields
    · split at eq
      · cases eq
      · rename_i inner known
        obtain rfl := Option.some.inj eq
        exact (rest.gives_readMember there known).bind fun slots there => Gives.pure ⟨here, there⟩

theorem Fields.yield_of_finish : {π σ : Type} → (fields : Fields π σ) → {depth : Nat} →
    {slots : π} → {b : σ} → fields.Filled depth slots → fields.finish slots = .ok b →
    fields.Yield depth b
  | _, _, .nil, _, _, _, _, _ => trivial
  | _, _, .cons _ schema missing _ rest, depth, (slot, slots), (a, b), filled, eq => by
    obtain ⟨here, there⟩ := filled
    unfold Fields.finish at eq
    split at eq
    · rename_i a' known
      obtain ⟨b', done, same⟩ := map_eq_ok.1 eq
      cases same
      refine ⟨?_, rest.yield_of_finish there done⟩
      cases slot with
      | some a => exact .inl (here _ (by simpa using known))
      | none => exact .inr (.inl (by simpa using known))
    · cases eq

theorem Fields.gives_readItems : {π σ : Type} → (fields : Fields π σ) → (title : String) →
    (total index depth : Nat) →
    Gives (fields.Yield depth) (fields.readItems title total index depth)
  | _, _, .nil, _, _, _, _ => Gives.pure trivial
  | _, _, .cons _ schema _ short rest, title, total, index, depth => by
    have others := rest.gives_readItems title total (index + 1) depth
    unfold Fields.readItems
    refine Gives.after fun more => ?_
    split
    · have read : Gives (schema.Yields depth) (schema.read depth) := fun s a s' h => ⟨s, s', h⟩
      exact read.bind fun a yields => others.bind fun b there => Gives.pure ⟨.inl yields, there⟩
    · split
      · exact others.bind fun b there => Gives.pure ⟨.inr (.inr rfl), there⟩
      · exact gives_failAfterList _

/-- A record that was read has fields that were read one level further inside. -/
theorem gives_readRecord (title : String) (fields : Fields π σ) (build : σ → α) (depth : Nat) :
    Gives (fun a => ∃ n b, depth = n + 1 ∧ fields.Yield n b ∧ a = build b)
      ((Schema.record title fields build).read depth) := by
  rw [Schema.read]
  refine Gives.after fun token => ?_
  split
  · refine gives_enter fun n eq => ?_
    exact (fields.gives_readItems ..).bind fun b yields =>
      Gives.after fun _ => Gives.pure ⟨n, b, eq, yields, rfl⟩
  · refine gives_enter fun n eq => ?_
    refine (gives_readMembers (I := fields.Filled n) (fun key slots filled => ?_)
      (fields.filled_empty n)).bind fun slots filled => ?_
    · split
      · rename_i known
        exact fields.gives_readMember filled known
      · exact Gives.after fun _ => Gives.after fun _ => Gives.pure filled
    · refine (gives_orFailAfterObject (P := fields.Yield n) fun b done =>
        fields.yield_of_finish filled done).bind fun b yields => ?_
      exact Gives.after fun _ => Gives.pure ⟨n, b, eq, yields, rfl⟩
  · exact gives_failType _

/-- What is read from a whole text has the properties of what its reader takes. -/
theorem parseAll_gives {r : Reader α} {text : Text} {a : α} (h : Gives P r)
    (eq : parseAll r text = .ok a) : P a := by
  rw [parseAll] at eq
  obtain ⟨⟨a', s⟩, run, same⟩ := bind_eq_ok.1 eq
  cases same
  have all : Gives P (do
      let a ← r
      if (← peekToken).isSome then failNext .trailingCharacters else return a) := by
    refine h.bind fun a good => Gives.after fun token => ?_
    split
    · exact gives_failNext _
    · exact Gives.pure good
  exact all run

end Json

/-- The data of a document that was read leaves room for the object around it. -/
theorem Document.depth_of_ofText {text : Text} {d : Document} (h : schema.ofText text = .ok d) :
    d.data.json.depth < Json.depthLimit := by
  obtain ⟨n, ⟨_, _, _, data, _⟩, limit, yields, rfl⟩ :=
    Json.parseAll_gives (Json.gives_readRecord ..) h
  obtain ⟨-, -, -, field, -⟩ := yields
  have value : Gives (fun v : Value => v.json.depth ≤ n) (Json.Schema.value.read n) :=
    (Json.gives_readTree n).bind fun j le =>
      Gives.pure (Nat.le_trans (Json.depth_canonical_le j) le)
  show data.json.depth < Json.depthLimit
  rw [limit]
  refine Nat.lt_succ_of_le ?_
  obtain ⟨s, s', read⟩ | stands | stands := field
  · exact value read
  · obtain rfl := Option.some.inj stands
    exact Nat.zero_le _
  · obtain rfl := Option.some.inj stands
    exact Nat.zero_le _

end Signoff
