import Signoff.Engine
import Signoff.Proofs.Json.Wording
import Signoff.Proofs.Json.Schema
import Signoff.Proofs.RoleSet

/-!
# The content of a definition

A definition can be written in many ways, but its checksum sees its content only
(`Definition.content_alone_counts`). The members of its objects may stand in any order among members
that are not known; lists, deadlines and a re-approval policy that are empty may be written or left
out, and so may flags that are not set; roles may be listed in any order and more than once. All
this may vary in as many places as one likes (`Definition.wordings`).

Only members with one name keep their order. Of two deadlines for one state the later one holds, so
exchanging them makes another definition (`Definition.repeated_deadline_exchanged`).
-/

namespace Signoff

open Json

/-! ## How definitions may be written -/

/-- How a state may be written. -/
def State.wordings : List Wording := [.exact "name", .flag "initial", .flag "terminal"]

/-- How a transition may be written: its roles in any order and any number of times each. -/
def Transition.wordings : List Wording :=
  [.exact "from", .exact "to", .exact "event", .collection "roles" AlikeSets]

/-- How a re-approval policy may be written. -/
def Reapproval.wordings : List Wording := [.exact "after", .exact "toState"]

/-- How a definition may be written: its states and transitions in their order, each in any of its
own ways. -/
def Definition.wordings : List Wording :=
  [.exact "name",
    .collection "states" (AlikeLists (AlikeRecords State.wordings)),
    .collection "transitions" (AlikeLists (AlikeRecords Transition.wordings)),
    .collection "sla" AlikeTables,
    .nullable "reapproval" (AlikeRecords Reapproval.wordings)]

/-! ## What they are read as -/

theorem State.schema_equates : State.schema.Equates (AlikeRecords State.wordings) :=
  Fields.Worded.record (((Fields.worded_nil.cons Wording.fits_flag).cons Wording.fits_flag).cons
    (Wording.fits_exact none)) rfl _ _

theorem RoleSet.schema_equates : RoleSet.schema.Equates AlikeSets :=
  equates_set RoleSet.ofList_congr

theorem Transition.schema_equates :
    Transition.schema.Equates (AlikeRecords Transition.wordings) := by
  have roles : (Wording.collection "roles" AlikeSets).Fits (RoleSet.schema.orNull .empty)
      (some .empty) :=
    Wording.fits_collection RoleSet.schema_equates (fun eq => (Except.ok.inj eq).symm) nofun
  exact Fields.Worded.record ((((Fields.worded_nil.cons roles).cons (Wording.fits_exact none)).cons
    (Wording.fits_exact none)).cons (Wording.fits_exact none)) rfl _ _

theorem Reapproval.schema_equates :
    Reapproval.schema.Equates (AlikeRecords Reapproval.wordings) :=
  Fields.Worded.record ((Fields.worded_nil.cons (Wording.fits_exact none)).cons
    (Wording.fits_exact none)) rfl _ _

/-- Lists of records that may be empty. -/
theorem fits_records {α : Type} {schema : Schema α} {alike : Json → Json → Prop} (key : String)
    (h : schema.Equates alike) : (Wording.collection key (AlikeLists alike)).Fits
      ((Schema.list schema).orNull []) (some []) :=
  Wording.fits_collection h.list (fun eq => (Except.ok.inj eq).symm) nofun

theorem Definition.schema_equates :
    Definition.schema.Equates (AlikeRecords Definition.wordings) := by
  have deadlines : (Wording.collection "sla" AlikeTables).Fits
      ((Schema.map Table.ofList (.table .text)).orNull .empty) (some .empty) :=
    Wording.fits_collection equates_table nofun fun eq => (Except.ok.inj eq).symm
  have reapproval := Wording.fits_nullable "reapproval" Reapproval.schema_equates
  exact Fields.Worded.record (((((Fields.worded_nil.cons reapproval).cons deadlines).cons
    (fits_records "transitions" Transition.schema_equates)).cons
    (fits_records "states" State.schema_equates)).cons (Wording.fits_exact (some ""))) rfl _ _

/-! ## Texts -/

theorem State.sound_schema : State.schema.Sound :=
  ((Fields.sound_nil.cons sound_flag _ _ _).cons sound_flag _ _ _).cons sound_text _ _ _
    |>.record _ _

theorem Transition.sound_schema : Transition.schema.Sound :=
  (((Fields.sound_nil.cons (((sound_text.list.map _).optional nofun).map _) _ _ _).cons sound_text
    _ _ _).cons sound_text _ _ _).cons sound_text _ _ _ |>.record _ _

theorem Reapproval.sound_schema : Reapproval.schema.Sound :=
  (Fields.sound_nil.cons sound_text _ _ _).cons sound_text _ _ _ |>.record _ _

namespace Definition

theorem sound_schema : schema.Sound :=
  ((((Fields.sound_nil.cons (Reapproval.sound_schema.optional nofun) _ _ _).cons
    (((sound_text.table.map _).optional nofun).map _) _ _ _).cons
    ((Transition.sound_schema.list.optional nofun).map _) _ _ _).cons
    ((State.sound_schema.list.optional nofun).map _) _ _ _).cons sound_text _ _ _ |>.record _ _

/-- The definition is read from the JSON, as a value or as any text that holds it. -/
def ReadFrom (j : Json) (d : Definition) : Prop :=
  (∃ v : Value, v.json = j ∧ ofValue v = .ok d) ∨
    ∃ bytes depth, parseAll (readTree depth) (.ofBytes bytes) = .ok j ∧ ofBytes bytes = .ok d

theorem ReadFrom.decode {j : Json} {d : Definition} (h : ReadFrom j d) :
    schema.decode .given j = .ok d := by
  rcases h with ⟨v, rfl, read⟩ | ⟨bytes, depth, tree, read⟩
  · exact mapError_eq_ok.1 (mapError_eq_ok.1 read)
  · exact sound_schema.ofText (mapError_eq_ok.1 read) tree .given

/-- What is decoded from a value can be read from a text that holds it. -/
theorem readFrom_of_decode {j : Json} {d : Definition} (decoded : schema.decode .given j = .ok d)
    (whole : j.Whole) (le : j.depth ≤ depthLimit) : ReadFrom j d := by
  have text : Text.ofBytes (encode j.compact) = Text.ofChars j.render := by
    rw [Text.ofBytes_encode, Text.ofString, compact, String.toList_ofList]
  have same : Schema.any.decode .given j = .ok j := rfl
  refine .inr ⟨encode j.compact, depthLimit, ?_, mapError_eq_ok.2 ?_⟩
  · rw [text]
    exact Schema.any.ofText_ofChars same whole le (spells_render j)
  · rw [text]
    exact schema.ofText_ofChars decoded whole le (spells_render j)

/-! ## The content -/

/-- Only the content of a definition counts. If two definitions are read and what they are read from
says the same, they are one: they have the same canonical text and checksum, the same defects are
found in them, and they have the same machine. -/
theorem content_alone_counts {j j' : Json} {d d' : Definition} (read : ReadFrom j d)
    (read' : ReadFrom j' d') (alike : AlikeRecords wordings j j') :
    d = d' ∧ d.canonical = d'.canonical ∧ d.checksum = d'.checksum ∧
      (∀ now, d.accept now = d'.accept now) ∧
      ∀ id now, Machine.ofWorkflow ⟨id, d, now⟩ = Machine.ofWorkflow ⟨id, d', now⟩ := by
  obtain rfl : d = d' := schema_equates alike read.decode read'.decode
  exact ⟨rfl, rfl, rfl, fun _ => rfl, fun _ _ => rfl⟩

/-- A definition as it is usually written. -/
def plainlyWritten : Json :=
  .object [("name", .string "order"),
    ("states", .array [.object [("name", .string "Draft"), ("initial", .bool true)],
      .object [("name", .string "Done"), ("terminal", .bool true)]]),
    ("transitions", .array [.object [("from", .string "Draft"), ("to", .string "Done"),
      ("event", .string "approve"), ("roles", .array [.string "clerk", .string "manager"])]]),
    ("sla", .object [("Draft", .string "72h"), ("Done", .string "1h")])]

/-- The same definition, with everything in another place and all that may be written or left out
written in another way. -/
def oddlyWritten : Json :=
  .object [("sla", .object [("Done", .string "1h"), ("Draft", .string "72h")]),
    ("reapproval", .null),
    ("transitions", .array [.object [
      ("roles", .array [.string "manager", .string "clerk", .string "manager"]),
      ("event", .string "approve"), ("to", .string "Done"), ("comment", .null),
      ("from", .string "Draft")]]),
    ("version", .object []),
    ("states", .array [
      .object [("initial", .bool true), ("name", .string "Draft"), ("terminal", .bool false)],
      .object [("terminal", .bool true), ("name", .string "Done")]]),
    ("name", .string "order"), ("version", .string "2")]

theorem oddly_written_counts_the_same :
    AlikeRecords wordings plainlyWritten oddlyWritten ∧
      ∃ d d', ReadFrom plainlyWritten d ∧ ReadFrom oddlyWritten d' ∧ d.checksum = d'.checksum := by
  have deadlines : AlikeTables
      (.object [("Draft", .string "72h"), ("Done", .string "1h")])
      (.object [("Done", .string "1h"), ("Draft", .string "72h")]) :=
    .of_perm (by decide) (.swap ..)
  have alike : AlikeRecords wordings plainlyWritten oddlyWritten := by
    simp [plainlyWritten, oddlyWritten, AlikeRecords, AlikeMembers, wordings, State.wordings,
      Transition.wordings, Wording.Agree, Wording.said, Wording.exact, Wording.flag,
      Wording.nullable, Wording.collection, valuesUnder, AlikeLists, AlikeSets, deadlines, isNull]
  have whole : plainlyWritten.Whole ∧ oddlyWritten.Whole := by
    simp [plainlyWritten, oddlyWritten, Whole, WholeMembers, WholeItems]
  obtain ⟨d, decoded⟩ : ∃ d, schema.decode .given plainlyWritten = .ok d := ⟨_, rfl⟩
  obtain ⟨d', decoded'⟩ : ∃ d', schema.decode .given oddlyWritten = .ok d' := ⟨_, rfl⟩
  have read := readFrom_of_decode decoded whole.1 (by decide)
  have read' := readFrom_of_decode decoded' whole.2 (by decide)
  exact ⟨alike, d, d', read, read', (content_alone_counts read read' alike).2.2.1⟩

/-- A definition with one deadline after the other for its state. -/
def timedTwice (first second : String) : Json :=
  .object [("name", .string "order"),
    ("states", .array [.object [("name", .string "Draft"), ("initial", .bool true)]]),
    ("sla", .object [("Draft", .string first), ("Draft", .string second)])]

/-- The definition with a deadline for its state. -/
def timedOnce (after : String) : Definition :=
  ⟨"order", [⟨"Draft", true, false⟩], [], .ofList [("Draft", after)], none⟩

/-- Members of one name may not change places: the later deadline holds. -/
theorem repeated_deadline_exchanged :
    [("Draft", Json.string "1h"), ("Draft", .string "2h")].Perm
      [("Draft", .string "2h"), ("Draft", .string "1h")] ∧
    ReadFrom (timedTwice "1h" "2h") (timedOnce "2h") ∧
    ReadFrom (timedTwice "2h" "1h") (timedOnce "1h") ∧
    (timedOnce "2h").canonical ≠ (timedOnce "1h").canonical := by
  have whole (first second : String) : (timedTwice first second).Whole := by
    simp [timedTwice, Whole, WholeMembers, WholeItems]
  exact ⟨.swap .., readFrom_of_decode rfl (whole ..) (by decide),
    readFrom_of_decode rfl (whole ..) (by decide), by decide +kernel⟩

end Definition

end Signoff
