import Mathlib.Algebra.Group.Nat.Defs
import Mathlib.Control.Monad.Basic
import Signoff.Settings.Environment

/-!
# What decides over settings

A setting is what the environment says, else what the file says, and else the usual value
(`Settings.Decided`), whatever the other settings are. The four settings differ in what their
variable must be to say anything: `Settings.Merged` tells what it is for each of them.

* `numberOfVariable?_eq_some`: the variables that are read as numbers.
* `merged_iff`: one value of each setting is decided on, and it is the value of the settled layers.
* `check_cases`: settings are refused just if they cannot be served.
* `loads_merged_settings`: what is loaded, from whatever file and environment.
-/

namespace Signoff

theorem Backend.ofName?_eq_some {name : String} {b : Backend} :
    ofName? name = some b ↔ name = b.name := by
  constructor
  · unfold ofName?
    split <;> rintro ⟨⟩ <;> rfl
  · rintro rfl
    exact b.ofName?_name

namespace Settings

variable {text : String} {n : Nat} {e : Environment} {l : Layer} {s : Settings}

/-! ## Numbers in variables -/

/-- The text is the decimal form of a number that takes at most 64 bits. Zeros may stand in front,
and in front of them a plus sign. -/
def Reads (text : String) (n : Nat) : Prop :=
  ∃ ds, (text.toList = ds ∨ text.toList = '+' :: ds) ∧ ds ≠ [] ∧
    (∀ c ∈ ds, c.isDigit = true) ∧ Nat.ofDigitChars 10 ds 0 = n ∧ n < 2 ^ 64

theorem decimalValue?_eq (c : Char) : (Yaml.hexValue? c).filter (· < 10) =
    if c.isDigit then some (c.toNat - '0'.toNat) else none := by
  unfold Yaml.hexValue?
  by_cases digit : c.isDigit = true
  · have small : c.toNat - '0'.toNat < 10 := by
      obtain ⟨first, last⟩ := Char.isDigit_iff_toNat.1 digit
      have span : '9'.toNat = '0'.toNat + 9 := rfl
      omega
    rw [if_pos digit, if_pos digit, Option.filter_some, if_pos (decide_eq_true small)]
  · rw [if_neg digit, if_neg digit]
    -- a letter is a digit of a larger base only
    split
    · simp
    · split <;> simp

theorem digits?_eq_some {cs : List Char} {ds : List Nat} : digits? 10 cs = some ds ↔
    (∀ c ∈ cs, c.isDigit = true) ∧ cs.map (fun c => c.toNat - '0'.toNat) = ds := by
  simp only [digits?, decimalValue?_eq]
  induction cs generalizing ds with
  | nil => simp
  | cons c cs ih =>
    rw [List.mapM_cons]
    by_cases digit : c.isDigit = true
    · rw [if_pos digit, List.forall_mem_cons, List.map_cons]
      simp only [bind, Option.bind_some, Option.bind_eq_some_iff, ih, pure, Option.some.injEq]
      constructor
      · rintro ⟨_, ⟨digits, rfl⟩, rfl⟩
        exact ⟨⟨digit, digits⟩, rfl⟩
      · rintro ⟨⟨-, digits⟩, rfl⟩
        exact ⟨_, ⟨digits, rfl⟩, rfl⟩
    · simp [digit]

theorem numberInBase?_eq_some {cs : List Char} : numberInBase? 10 cs = some n ↔
    cs ≠ [] ∧ (∀ c ∈ cs, c.isDigit = true) ∧ Nat.ofDigitChars 10 cs 0 = n ∧ n < 2 ^ 64 := by
  have value : (cs.map (fun c => c.toNat - '0'.toNat)).foldl (10 * · + ·) 0 =
      Nat.ofDigitChars 10 cs 0 := by
    rw [List.foldl_map]
    rfl
  have fits : n ≤ maxNumber ↔ n < 2 ^ 64 := Nat.lt_succ_iff.symm
  have some_ : (!(cs.map (fun c => c.toNat - '0'.toNat)).isEmpty) = true ↔ cs ≠ [] := by simp
  simp only [numberInBase?, bind, Option.bind_eq_some_iff, digits?_eq_some, failure, pure,
    Option.ite_none_right_eq_some, Bool.and_eq_true, decide_eq_true_eq, Option.some.injEq]
  constructor
  · rintro ⟨_, ⟨digits, rfl⟩, ⟨any, small⟩, is⟩
    rw [value] at small is
    subst is
    exact ⟨some_.1 any, digits, rfl, fits.1 small⟩
  · rintro ⟨any, digits, is, small⟩
    rw [← value] at is
    exact ⟨_, ⟨digits, rfl⟩, ⟨some_.2 any, is ▸ fits.2 small⟩, is⟩

/-- Nothing but one plus sign is dropped in front of digits. -/
theorem dropPlus_eq_iff {cs ds : List Char} (digits : ∀ c ∈ ds, c.isDigit = true) :
    dropPlus cs = ds ↔ cs = ds ∨ cs = '+' :: ds := by
  cases cs with
  | nil => simp [dropPlus]
  | cons c cs =>
    by_cases plus : c = '+'
    · subst plus
      have noDigit : '+' :: cs ≠ ds := fun eq =>
        absurd (digits '+' (eq ▸ List.mem_cons_self)) (by decide)
      simp [dropPlus, noDigit]
    · simp [dropPlus, plus]

theorem numberOfVariable?_eq_some : numberOfVariable? text = some n ↔ Reads text n := by
  rw [numberOfVariable?, numberInBase?_eq_some]
  constructor
  · rintro ⟨some_, digits, value, small⟩
    exact ⟨_, (dropPlus_eq_iff digits).1 rfl, some_, digits, value, small⟩
  · rintro ⟨ds, given, some_, digits, value, small⟩
    rw [(dropPlus_eq_iff digits).2 given]
    exact ⟨some_, digits, value, small⟩

/-! ## One setting -/

/-- What is decided for a setting by the variable and the file that may give it, if a text of the
variable that says nothing is passed over. -/
inductive Decided {α : Type} (gives : String → α → Prop) (given : Option String) (file : Option α)
    (usual : α) : α → Prop where
  | byVariable {text : String} {a : α} (is : given = some text) (said : gives text a) :
      Decided gives given file usual a
  | byFile {a : α} (silent : ∀ text a, given = some text → ¬ gives text a) (is : file = some a) :
      Decided gives given file usual a
  | byNobody (silent : ∀ text a, given = some text → ¬ gives text a) (open_ : file = none) :
      Decided gives given file usual usual

variable {α : Type} {gives : String → α → Prop} {read : String → Option α} {given : Option String}
  {file : Option α} {usual a : α}

theorem decided_iff (reads : ∀ text a, read text = some a ↔ gives text a) :
    Decided gives given file usual a ↔ (given.bind read <|> file).getD usual = a := by
  cases said : given.bind read with
  | some b =>
    obtain ⟨text, is, read_⟩ := Option.bind_eq_some_iff.1 said
    have gives_ := (reads text b).1 read_
    constructor
    · rintro (⟨is', said'⟩ | ⟨silent, -⟩ | ⟨silent, -⟩)
      · obtain rfl := Option.some.inj (is.symm.trans is')
        exact Option.some.inj (read_.symm.trans ((reads _ _).2 said'))
      · exact absurd gives_ (silent text b is)
      · exact absurd gives_ (silent text b is)
    · rintro rfl
      exact .byVariable is gives_
  | none =>
    have silent : ∀ text a, given = some text → ¬ gives text a := fun text a is said' => by
      rw [is, Option.bind_some, (reads text a).2 said'] at said
      cases said
    constructor
    · rintro (⟨is', said'⟩ | ⟨-, rfl⟩ | ⟨-, rfl⟩)
      · exact absurd said' (silent _ _ is')
      · rfl
      · rfl
    · rintro rfl
      cases file with
      | none => exact .byNobody silent rfl
      | some b => exact .byFile silent rfl

/-! ## All settings -/

/-- The settings are what an environment and then a layer decide on. A variable names a backend in
lower case or in capitals, gives any folder and a number of at most 64 bits, and turns the timers
off unless it is 1 or true. -/
structure Merged (e : Environment) (l : Layer) (s : Settings) : Prop where
  backend : Decided (fun text b => lowercase text = b.name) (e "DOCFLOW_STORAGE") l.backend .memory
    s.backend
  dataFolder : Decided (fun text folder => text = folder) (e "DOCFLOW_DATA") l.dataFolder "./data"
    s.dataFolder
  maxDefinitionBytes : Decided Reads (e "DOCFLOW_MAX_DEFINITION_BYTES") l.maxDefinitionBytes 1048576
    s.maxDefinitionBytes
  timersEnabled : Decided (fun text on => on = true ↔ text = "1" ∨ lowercase text = "true")
    (e "DOCFLOW_TIMERS_ENABLED") l.timersEnabled true s.timersEnabled

theorem flagOfVariable_eq {on : Bool} :
    flagOfVariable text = on ↔ (on = true ↔ text = "1" ∨ lowercase text = "true") := by
  have true_ : flagOfVariable text = true ↔ text = "1" ∨ lowercase text = "true" := by
    rw [flagOfVariable, Bool.or_eq_true, beq_iff_eq, beq_iff_eq]
  rw [← true_, Bool.eq_iff_iff]
  exact ⟨Iff.symm, Iff.symm⟩

/-- Each setting has one value that is decided on, and it is that of the settled layers. -/
theorem merged_iff : Merged e l s ↔ s = ((Layer.ofEnvironment e).above l).settle := by
  have backend : Decided (fun text b => lowercase text = b.name) (e "DOCFLOW_STORAGE") l.backend
      .memory s.backend ↔ ((Layer.ofEnvironment e).above l).settle.backend = s.backend :=
    decided_iff fun _ _ => Backend.ofName?_eq_some
  have dataFolder : Decided (fun text folder => text = folder) (e "DOCFLOW_DATA") l.dataFolder
      "./data" s.dataFolder ↔
        ((Layer.ofEnvironment e).above l).settle.dataFolder = s.dataFolder := by
    rw [decided_iff fun _ _ => Option.some_inj, Option.bind_fun_some]
    rfl
  have maxDefinitionBytes : Decided Reads (e "DOCFLOW_MAX_DEFINITION_BYTES") l.maxDefinitionBytes
      1048576 s.maxDefinitionBytes ↔
        ((Layer.ofEnvironment e).above l).settle.maxDefinitionBytes = s.maxDefinitionBytes :=
    decided_iff fun _ _ => numberOfVariable?_eq_some
  have timersEnabled : Decided (fun text on => on = true ↔ text = "1" ∨ lowercase text = "true")
      (e "DOCFLOW_TIMERS_ENABLED") l.timersEnabled true s.timersEnabled ↔
        ((Layer.ofEnvironment e).above l).settle.timersEnabled = s.timersEnabled := by
    rw [decided_iff fun _ _ => Option.some_inj.trans flagOfVariable_eq]
    simp only [Layer.settle, Layer.above, Layer.ofEnvironment, Option.map_eq_bind, usual]
    rfl
  constructor
  · intro merged
    have backend := backend.1 merged.backend
    have dataFolder := dataFolder.1 merged.dataFolder
    have maxDefinitionBytes := maxDefinitionBytes.1 merged.maxDefinitionBytes
    have timersEnabled := timersEnabled.1 merged.timersEnabled
    cases s
    subst backend dataFolder maxDefinitionBytes timersEnabled
    rfl
  · intro is
    rw [← is] at backend dataFolder maxDefinitionBytes timersEnabled
    exact ⟨backend.2 rfl, dataFolder.2 rfl, maxDefinitionBytes.2 rfl, timersEnabled.2 rfl⟩

/-- A service can be run with the settings. -/
def Servable (s : Settings) : Prop :=
  s.maxDefinitionBytes ≠ 0 ∧ ¬ (s.backend = .file ∧ s.dataFolder = "")

theorem check_cases (s : Settings) : s.check = .ok s ∧ s.Servable ∨
    (∃ reason, s.check = .error (.invalid reason)) ∧ ¬ s.Servable := by
  rw [check]
  split
  · rename_i zero
    exact .inr ⟨⟨_, rfl⟩, fun can => can.1 zero⟩
  · rename_i some_
    split
    · rename_i nowhere
      exact .inr ⟨⟨_, rfl⟩, fun can => can.2 ⟨nowhere.1, String.isEmpty_iff.1 nowhere.2⟩⟩
    · rename_i placed
      exact .inl ⟨rfl, some_, fun ⟨file, empty⟩ => placed ⟨file, String.isEmpty_iff.2 empty⟩⟩

/-! ## What is loaded -/

variable {path : Option String} {disk : Disk}

theorem load_eq (readable : (fileLayer path e disk).1 = .ok l) :
    (load path e disk).1 = ((Layer.ofEnvironment e).above l).settle.check := by
  rw [load]
  split
  · rename_i read
    rw [read] at readable
    cases readable
  · rename_i read
    rw [read] at readable
    obtain rfl := Except.ok.inj readable
    rfl

/-- From a file that can be read, or without one, there is one value for each setting. These values
are loaded just if they can be served, and loading fails with a complaint about them just if they
cannot. -/
theorem loads_merged_settings (readable : (fileLayer path e disk).1 = .ok l) :
    ∃ s, (∀ s', Merged e l s' ↔ s' = s) ∧
      (∀ s', (load path e disk).1 = .ok s' ↔ s' = s ∧ s.Servable) ∧
      ((∃ reason, (load path e disk).1 = .error (.invalid reason)) ↔ ¬ s.Servable) := by
  refine ⟨_, fun _ => merged_iff, ?_⟩
  rw [load_eq readable]
  rcases check_cases ((Layer.ofEnvironment e).above l).settle with
    ⟨ok, can⟩ | ⟨⟨reason, refused⟩, cannot⟩
  · rw [ok]
    refine ⟨fun s' => ?_, fun ⟨_, refused⟩ => ?_, fun cannot => absurd can cannot⟩
    · rw [Except.ok.injEq, eq_comm]
      exact (and_iff_left can).symm
    · cases refused
  · rw [refused]
    refine ⟨fun s' => ⟨fun ok => ?_, fun ⟨_, can⟩ => absurd can cannot⟩, fun _ => cannot,
      fun _ => ⟨reason, rfl⟩⟩
    cases ok

/-- A file whose settings cannot be served. -/
def emptyLimit : Disk :=
  Disk.empty.setNode "docflow.yaml" <| .file <| encode
    "storage:\n  backend: file\nlimits:\n  max_definition_bytes: 0\n"

/-- An environment that makes up for it. -/
def raisedLimit : Environment := fun name =>
  if name = "DOCFLOW_MAX_DEFINITION_BYTES" then some "+4096"
  else if name = "DOCFLOW_STORAGE" then some "MEMORY"
  else if name = "DOCFLOW_TIMERS_ENABLED" then some "yes"
  else none

theorem raised_limit_is_loaded :
    (fileLayer (some "docflow.yaml") raisedLimit emptyLimit).1 =
        .ok ⟨some .file, none, some 0, none⟩ ∧
      (load (some "docflow.yaml") raisedLimit emptyLimit).1 =
        .ok ⟨.memory, "./data", 4096, false⟩ := by
  have readable : (fileLayer (some "docflow.yaml") raisedLimit emptyLimit).1 =
      .ok ⟨some .file, none, some 0, none⟩ := by decide +kernel
  obtain ⟨s, unique, loads, -⟩ := loads_merged_settings readable
  have merged : Merged raisedLimit ⟨some .file, none, some 0, none⟩
      ⟨.memory, "./data", 4096, false⟩ :=
    merged_iff.2 (by decide +kernel)
  obtain rfl := (unique _).1 merged
  exact ⟨readable, (loads _).2 ⟨rfl, by decide, by decide⟩⟩

end Settings

end Signoff
