import Signoff.Text.Utf8
/-!
# Tokens of YAML

What a YAML text consists of, comments and spaces left out. The nesting that a text shows by
indentation is made plain by tokens of its own. Tags are bytes, which need not be characters.
-/

namespace Signoff.Yaml

/-- How a scalar is written. -/
inductive Style where
  | plain
  | singleQuoted
  | doubleQuoted
  | literal
  | folded
deriving DecidableEq, Repr

/-- A token. -/
inductive Token where
  | version (major minor : Nat)
  | handle (name : String) (stem : Bytes)
  | documentStart
  | documentEnd
  | blockSequenceStart
  | blockMappingStart
  | blockEnd
  | flowSequenceStart
  | flowSequenceEnd
  | flowMappingStart
  | flowMappingEnd
  | blockEntry
  | flowEntry
  | key
  | value
  | reference (name : String)
  | anchor (name : String)
  | tag (handle : String) (suffix : Bytes)
  | scalar (style : Style) (text : String)
deriving DecidableEq, Repr

end Signoff.Yaml
