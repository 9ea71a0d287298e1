import Signoff.Log
import Signoff.Settings.Reader
import Signoff.Text.Lowercase
/-!
# Loading settings

The environment decides over the file of settings, and the file over the usual settings. An
environment variable that makes no sense is passed over, but one for the timers turns them off.

- `Layer.ofEnvironment` are the settings of an environment.
- `Settings.load` gives the settings of a service.
-/

namespace Signoff

/-- The values of the variables that are set. -/
abbrev Environment := String → Option String

namespace Settings

/-- The number that a variable gives: decimal digits, perhaps after a plus sign. -/
def numberOfVariable? (text : String) : Option Nat := numberInBase? 10 (dropPlus text.toList)

/-- The truth value that a variable gives. -/
def flagOfVariable (text : String) : Bool := text == "1" || lowercase text == "true"

/-- The settings that an environment decides on. -/
def Layer.ofEnvironment (e : Environment) : Layer where
  backend := (e "DOCFLOW_STORAGE").bind fun name => Backend.ofName? (lowercase name)
  dataFolder := e "DOCFLOW_DATA"
  maxDefinitionBytes := (e "DOCFLOW_MAX_DEFINITION_BYTES").bind numberOfVariable?
  timersEnabled := (e "DOCFLOW_TIMERS_ENABLED").map flagOfVariable

/-- What there is to say about an environment. -/
def warnings (e : Environment) : List LogLine :=
  match (e "DOCFLOW_STORAGE").map lowercase with
  | some name =>
    if (Backend.ofName? name).isSome then []
    else [⟨.warning, s!"Ignoring unknown DOCFLOW_STORAGE '{name}'"⟩]
  | none => []

/-- Reads the settings in a file. -/
def readFile (path : String) (disk : Disk) : Except SettingsError Layer × Disk :=
  let (content, disk) := Disk.read path disk
  let layer := do
    let bytes ← content.mapError (SettingsError.disk path)
    match decode? bytes with
    | none => .error (.disk path .notUtf8)
    | some text =>
      match Layer.ofText? text with
      | none => .error (.malformed path)
      | some l => .ok l
  (layer, disk)

/-- The settings in the file that was asked for, or that the environment names. -/
def fileLayer (path : Option String) (e : Environment) (disk : Disk) :
    Except SettingsError Layer × Disk :=
  match path <|> e "DOCFLOW_CONFIG" with
  | some path => readFile path disk
  | none => (.ok .blank, disk)

/-- The settings of a service, what there is to say about them, and the disk. -/
def load (path : Option String) (e : Environment) (disk : Disk) :
    Except SettingsError Settings × List LogLine × Disk :=
  match fileLayer path e disk with
  | (.error err, disk) => (.error err, [], disk)
  | (.ok l, disk) => (((Layer.ofEnvironment e).above l).settle.check, warnings e, disk)

end Settings

end Signoff
