import Signoff.Settings.Error
/-!
# Settings

What the host of the service decides: where records are kept, how large a definition may be, and
whether there is a timer queue. Settings come in layers that leave open what they do not decide.

- `Layer.above` puts a layer over another; `Layer.settle` fills the rest with the usual values.
- `Settings.check` rules out what cannot be served.
-/

namespace Signoff

/-- Where records are kept. -/
inductive Backend where
  | memory
  | file
deriving DecidableEq, Repr

/-- The name of a backend. -/
def Backend.name : Backend → String
  | .memory => "memory"
  | .file => "file"

/-- The backend with a name. -/
def Backend.ofName? : String → Option Backend
  | "memory" => some .memory
  | "file" => some .file
  | _ => none

theorem Backend.ofName?_name (b : Backend) : ofName? b.name = some b := by
  cases b <;> rfl

/-- Settings for a service. The data folder matters to the file backend only. -/
structure Settings where
  backend : Backend
  dataFolder : String
  maxDefinitionBytes : Nat
  timersEnabled : Bool
deriving DecidableEq, Repr

namespace Settings

/-- The settings that nobody has decided on. -/
def usual : Settings := ⟨.memory, "./data", 1048576, true⟩

/-- Some of the settings. -/
structure Layer where
  backend : Option Backend
  dataFolder : Option String
  maxDefinitionBytes : Option Nat
  timersEnabled : Option Bool
deriving DecidableEq, Repr

namespace Layer

/-- No settings. -/
def blank : Layer := ⟨none, none, none, none⟩

/-- What the upper layer decides, and else what the lower one does. -/
def above (upper lower : Layer) : Layer where
  backend := upper.backend <|> lower.backend
  dataFolder := upper.dataFolder <|> lower.dataFolder
  maxDefinitionBytes := upper.maxDefinitionBytes <|> lower.maxDefinitionBytes
  timersEnabled := upper.timersEnabled <|> lower.timersEnabled

/-- The settings of a layer, and the usual ones for what it leaves open. -/
def settle (l : Layer) : Settings where
  backend := l.backend.getD usual.backend
  dataFolder := l.dataFolder.getD usual.dataFolder
  maxDefinitionBytes := l.maxDefinitionBytes.getD usual.maxDefinitionBytes
  timersEnabled := l.timersEnabled.getD usual.timersEnabled

@[simp] theorem above_blank (l : Layer) : l.above blank = l := by
  cases l
  simp [above, blank]

@[simp] theorem blank_above (l : Layer) : blank.above l = l := by
  cases l
  simp [above, blank]

@[simp] theorem settle_blank : blank.settle = usual := rfl

end Layer

/-- The settings, unless they cannot be served. -/
def check (s : Settings) : Except SettingsError Settings :=
  if s.maxDefinitionBytes = 0 then
    .error (.invalid "limits.max_definition_bytes must be greater than zero")
  else if s.backend = .file ∧ s.dataFolder.isEmpty then
    .error (.invalid "file storage requires storage.data_dir")
  else .ok s

end Settings

end Signoff
