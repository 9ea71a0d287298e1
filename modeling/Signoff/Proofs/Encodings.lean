import Mathlib.Data.Nat.Digits.Defs
import Mathlib.Tactic.IntervalCases
import Signoff.Proofs.Store.Records
import Signoff.Proofs.Text.Utf8
import Signoff.Timer.Intent

/-!
# Records in their three encodings

A record is written as compact text, as pretty text or as a value in memory. A record that is read
from each of them as the record itself reads back (`Json.Schema.ReadsBack`), and every kind of
record does, with whatever it leaves out (`records_read_back`).

So a definition can be told from its canonical text. A checksum is written so that it can be told
from its digits (`Crc32c.hex_inj`), and two definitions have the same checksum only where the
checksum of two texts that differ is the same.
-/

namespace Signoff

open Json

variable {f : Json → Json} {origin : Origin}

/-- The compact text of the record, its pretty text and its value are all read as the record. -/
structure Json.Schema.ReadsBack {α : Type} (schema : Schema α) (toJson : α → Json) (a : α) :
    Prop where
  compact : schema.ofText (.ofString (toJson a).compact) = .ok a
  pretty : schema.ofText (.ofString (toJson a).pretty) = .ok a
  value : schema.ofValue (.ofJson (toJson a)) = .ok a

/-- A record reads back if it is decoded with its members as they are written and with its members
in order, and if the text of it can be read at all. -/
theorem Json.Schema.readsBack {α : Type} {schema : Schema α} {toJson : α → Json} {a : α}
    (written : schema.decode .given (toJson a) = .ok a)
    (kept : schema.decode .given (toJson a).canonical = .ok a) (whole : (toJson a).Whole)
    (le : (toJson a).depth ≤ depthLimit) : schema.ReadsBack toJson a where
  compact := by
    rw [Text.ofString, Json.compact, String.toList_ofList]
    exact schema.ofText_ofChars written whole le (spells_render _)
  pretty := by
    rw [← Text.ofBytes_encode]
    exact schema.ofText_pretty written whole le
  value := by
    show (schema.decode .given (toJson a).canonical).mapError _ = _
    rw [kept]
    rfl

/-! ## Intents -/

namespace Intent

theorem decode_kind (rewrites : Rewrites f) (kind : TimerKind) :
    (Schema.choice TimerKind.names).decode origin (f (.string (nameOf TimerKind.names kind))) =
      .ok kind := by
  rw [rewrites.string]
  cases kind <;> rfl

/-- An intent is decoded from what is written for it, in whatever order its members stand. -/
theorem decode_toJson (rewrites : Rewrites f) (i : Intent) :
    schema.decode origin (f i.toJson) = .ok i := by
  refine rewrites.decode_record
    (a := (i.documentId, i.workflowId, i.kind, i.fireAt, i.state, i.target, ())) ?_ rfl ?_
  · cases i.target <;> simp [DistinctKeys, memberOf?]
  · have target (s : String) :
        (Schema.optional .text).decode origin (f (.string s)) = .ok (some s) := by
      rw [rewrites.string]
      rfl
    simp only [Fields.Fits, Fields.need, Fields.orElse, lookup_map]
    cases i.target <;>
      simp [List.lookup_cons, decode_text rewrites, decode_kind rewrites,
        Instant.decode_toJson rewrites, target]

theorem whole_toJson (i : Intent) : i.toJson.Whole := by
  cases h : i.target <;> simp [toJson, h, memberOf?, Json.Whole, WholeMembers, Instant.toJson]

theorem depth_toJson (i : Intent) : i.toJson.depth = 1 := by
  cases h : i.target <;> simp [toJson, h, memberOf?, depth, depthMembers, Instant.toJson]

theorem readsBack (i : Intent) : schema.ReadsBack toJson i :=
  Schema.readsBack (i.decode_toJson rewrites_id) (i.decode_toJson rewrites_canonical)
    i.whole_toJson (by rw [depth_toJson]; decide)

end Intent

/-! ## Definitions, workflows and documents -/

theorem Definition.readsBack (d : Definition) : schema.ReadsBack toJson d := by
  obtain ⟨whole, le⟩ := Workflow.definition_members d
  refine Schema.readsBack (d.decode_toJson rewrites_id) (d.decode_toJson rewrites_canonical)
    (by rwa [toJson, Json.Whole]) ?_
  rw [toJson, depth, depthLimit]
  omega

theorem Workflow.readsBack (w : Workflow) : schema.ReadsBack toJson w :=
  Schema.readsBack (w.decode_toJson rewrites_id) (w.decode_toJson rewrites_canonical)
    w.whole_toJson w.depth_toJson

theorem Document.readsBack {d : Document} (whole : d.data.json.Whole)
    (le : d.data.json.depth < depthLimit) : schema.ReadsBack toJson d :=
  Schema.readsBack (decode_toJson rewrites_id rfl)
    (decode_toJson rewrites_canonical (canonical_eq_self _ d.data.canonical))
    (whole_toJson.2 whole) (by rw [depth_toJson]; exact le)

/-! ## Checksums -/

namespace Crc32c

/-- The value of a hexadecimal digit; other characters stand for some number too. -/
def digitValue (c : Char) : Nat := if c.toNat < 97 then c.toNat - 48 else c.toNat - 87

/-- The number that hexadecimal digits stand for. -/
def digitsValue (cs : List Char) : Nat := cs.foldl (fun n c => 16 * n + digitValue c) 0

theorem digitValue_digitChar {n : Nat} (h : n < 16) : digitValue n.digitChar = n := by
  interval_cases n <;> rfl

theorem digitsValue_toDigits (n : Nat) : digitsValue (Nat.toDigits 16 n) = n := by
  induction n using Nat.strongRecOn with
  | ind n ih =>
    by_cases small : n < 16
    · rw [Nat.toDigits_of_lt_base small, digitsValue, List.foldl_cons, List.foldl_nil,
        digitValue_digitChar small]
      omega
    · have quotient := ih (n / 16) (by omega)
      rw [digitsValue] at quotient
      rw [Nat.toDigits_of_base_le (by decide) (by omega), digitsValue, List.foldl_append, quotient,
        List.foldl_cons, List.foldl_nil, digitValue_digitChar (Nat.mod_lt n (by decide))]
      omega

/-- Zeros in front do not count. -/
theorem digitsValue_replicate (n : Nat) (cs : List Char) :
    digitsValue (List.replicate n '0' ++ cs) = digitsValue cs := by
  induction n with
  | zero => rfl
  | succ n ih => exact ih

/-- A checksum can be told from its digits. -/
theorem hex_inj {n m : UInt32} (h : hex n = hex m) : n = m := by
  have value (n : UInt32) : digitsValue (hex n).toList = n.toNat := by
    rw [hex, String.toList_ofList, digitsValue_replicate, digitsValue_toDigits]
  exact UInt32.toNat_inj.1 (by rw [← value n, h, value m])

end Crc32c

namespace Definition

/-- The texts of the definitions differ, and have the same checksum all the same. -/
def Collides (d d' : Definition) : Prop :=
  encode d.canonical ≠ encode d'.canonical ∧
    Crc32c.checksum (encode d.canonical) = Crc32c.checksum (encode d'.canonical)

/-- A definition can be told from its canonical text. -/
theorem canonical_inj {d d' : Definition} (h : d.canonical = d'.canonical) : d = d' := by
  have read := d.readsBack.compact
  have read' := d'.readsBack.compact
  rw [show d.toJson.compact = d'.toJson.compact from h, read'] at read
  exact (Except.ok.inj read).symm

/-- Two definitions have the same checksum only if they are the same or their texts collide. -/
theorem checksum_eq_iff (d d' : Definition) :
    d.checksum = d'.checksum ↔ d = d' ∨ d.Collides d' := by
  constructor
  · intro h
    by_cases same : encode d.canonical = encode d'.canonical
    · refine .inl (canonical_inj (Option.some.inj ?_))
      rw [← decode?_encode, same, decode?_encode]
    · exact .inr ⟨same, Crc32c.hex_inj h⟩
  · rintro (rfl | ⟨-, collide⟩)
    · rfl
    · exact congrArg Crc32c.hex collide

end Definition

/-- Definitions, workflows and intents read back, and so do documents whose data has integers only
and nests at most 126 deep. Definitions with the same canonical text are the same, so the checksums
of two definitions are the same only if the checksum collides on their texts. -/
theorem records_read_back :
    (∀ d : Definition, Definition.schema.ReadsBack Definition.toJson d) ∧
    (∀ w : Workflow, Workflow.schema.ReadsBack Workflow.toJson w) ∧
    (∀ d : Document, d.data.json.Whole → d.data.json.depth ≤ 126 →
      Document.schema.ReadsBack Document.toJson d) ∧
    (∀ i : Intent, Intent.schema.ReadsBack Intent.toJson i) ∧
    (∀ d d' : Definition, d.canonical = d'.canonical ↔ d = d') ∧
    ∀ d d' : Definition, d.checksum = d'.checksum ↔ d = d' ∨ d.Collides d' :=
  ⟨Definition.readsBack, Workflow.readsBack,
    fun _ whole le => Document.readsBack whole (Nat.lt_succ_of_le le), Intent.readsBack,
    fun _ _ => ⟨Definition.canonical_inj, congrArg Definition.canonical⟩,
    Definition.checksum_eq_iff⟩

/-- A document with nested data that is due reads back. -/
theorem nested_document_reads_back :
    let page : Json := .object [("page", .array [.number (.whole (-2) (by decide)), .null])]
    let sorted : page.Canonical := by
      simp [page, Canonical, MembersCanonical, AllCanonical, Increasing]
    let d : Document :=
      { Document.create "w" "Open" ⟨page, sorted⟩ .epoch with dueAt := some .epoch }
    Document.schema.ReadsBack Document.toJson d :=
  records_read_back.2.2.1 _ (by simp [Document.create, Json.Whole, WholeItems, WholeMembers])
    (by simp [Document.create, depth, depthItems, depthMembers])

end Signoff
