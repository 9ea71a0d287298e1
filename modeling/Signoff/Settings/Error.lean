import Signoff.Disk
/-!
# What is wrong with settings

Settings cannot be loaded because their file cannot be read, because the file does not hold
settings, or because a value cannot be served.
-/

namespace Signoff

/-- Why settings cannot be loaded. -/
inductive SettingsError where
  | disk (path : String) (e : Disk.Error)
  | malformed (path : String)
  | invalid (reason : String)
deriving DecidableEq

/-- The wording of an error. -/
def SettingsError.message : SettingsError → String
  | .disk path e => s!"failed to read config file '{path}': {e.message}"
  | .malformed path => s!"failed to parse config file '{path}'"
  | .invalid reason => s!"configuration validation failed: {reason}"

/-- An error in the words of a diagnostic for whoever runs the service. -/
def SettingsError.diagnosis : SettingsError → String
  | .disk path e => s!"IoError({quoted path}, {e.diagnosis})"
  | .malformed path => s!"ParseError({quoted path})"
  | .invalid reason => s!"ValidationError({quoted reason})"

end Signoff
