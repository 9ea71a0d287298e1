import Signoff.Json.Shortest
import Signoff.Json.Basic
import Signoff.Instant.Parser
import Signoff.Text.Quoted
/-!
# What is wrong with a JSON text or value

A `Problem` is a cause: a fault in the form of a text, or a value that is not of the wanted shape.
An `Error` is a problem at a position of a text, or at none when a value in memory was read.
-/

namespace Signoff.Json

/-- The value a reader met, as far as messages tell it. -/
inductive Seen where
  | null
  | bool (b : Bool)
  | number (n : Number)
  | string (s : String)
  | sequence
  | map
deriving DecidableEq

/-- The wording of a value that was met. -/
def Seen.message : Seen → String
  | .null => "null"
  | .bool b => s!"boolean `{b}`"
  | .number (.whole n _) => s!"integer `{n}`"
  | .number (.real x) => s!"floating point `{x.format}`"
  | .string s => s!"string {quoted s}"
  | .sequence => "sequence"
  | .map => "map"

/-- What a reader sees of a value. -/
def seen : Json → Seen
  | .null => .null
  | .bool b => .bool b
  | .number n => .number n
  | .string s => .string s
  | .array _ => .sequence
  | .object _ => .map

/-- What a reader wants. -/
inductive Wanted where
  | string
  | boolean
  | natural (typeName : String)
  | sequence
  | map
  | unit
  | variantName
  | timestamp
  | record (title : String)
  | stringOrMap
  | singleKey
  | elements (title : String) (count : Nat)
  | bufferedElements (count : Nat)
  | fewerElements
deriving DecidableEq

/-- A number of elements in words. -/
def countElements (n : Nat) : String := if n = 1 then "1 element" else s!"{n} elements"

/-- The wording of what is wanted. -/
def Wanted.message : Wanted → String
  | .string => "a string"
  | .boolean => "a boolean"
  | .natural typeName => typeName
  | .sequence => "a sequence"
  | .map => "a map"
  | .unit => "unit"
  | .variantName => "variant identifier"
  | .timestamp => "an RFC 3339 formatted date and time string"
  | .record title => s!"struct {title}"
  | .stringOrMap => "string or map"
  | .singleKey => "map with a single key"
  | .elements title count => s!"struct {title} with {countElements count}"
  | .bufferedElements count => s!"{countElements count} in sequence"
  | .fewerElements => "fewer elements in array"

/-- The cause of an error. -/
inductive Problem where
  | endOfValue
  | endOfList
  | endOfObject
  | endOfString
  | expectedColon
  | expectedListEnd
  | expectedObjectEnd
  | expectedWord
  | expectedValue
  | invalidEscape
  | invalidNumber
  | numberOutOfRange
  | invalidCharacter
  | controlCharacter
  | keyNotString
  | loneSurrogate
  | unfinishedSurrogate
  | trailingComma
  | trailingCharacters
  | tooDeep
  | wrongType (seen : Seen) (wanted : Wanted)
  | wrongValue (seen : Seen) (wanted : Wanted)
  | wrongLength (length : Nat) (wanted : Wanted)
  | missingField (name : String)
  | duplicateField (name : String)
  | unknownName (name : String) (names : List String)
  | timestamp (error : Instant.ParseError)
deriving DecidableEq

/-- Names in backquotes: two joined by a word, more in a list. -/
def oneOf : List String → String
  | [] => "there are no variants"
  | [a] => s!"expected `{a}`"
  | [a, b] => s!"expected `{a}` or `{b}`"
  | names => "expected one of " ++ ", ".intercalate (names.map fun a => s!"`{a}`")

/-- The wording of a problem. -/
def Problem.message : Problem → String
  | .endOfValue => "EOF while parsing a value"
  | .endOfList => "EOF while parsing a list"
  | .endOfObject => "EOF while parsing an object"
  | .endOfString => "EOF while parsing a string"
  | .expectedColon => "expected `:`"
  | .expectedListEnd => "expected `,` or `]`"
  | .expectedObjectEnd => "expected `,` or `\x7d`"
  | .expectedWord => "expected ident"
  | .expectedValue => "expected value"
  | .invalidEscape => "invalid escape"
  | .invalidNumber => "invalid number"
  | .numberOutOfRange => "number out of range"
  | .invalidCharacter => "invalid unicode code point"
  | .controlCharacter => "control character (\\u0000-\\u001F) found while parsing a string"
  | .keyNotString => "key must be a string"
  | .loneSurrogate => "lone leading surrogate in hex escape"
  | .unfinishedSurrogate => "unexpected end of hex escape"
  | .trailingComma => "trailing comma"
  | .trailingCharacters => "trailing characters"
  | .tooDeep => "recursion limit exceeded"
  | .wrongType seen wanted => s!"invalid type: {seen.message}, expected {wanted.message}"
  | .wrongValue seen wanted => s!"invalid value: {seen.message}, expected {wanted.message}"
  | .wrongLength length wanted => s!"invalid length {length}, expected {wanted.message}"
  | .missingField name => s!"missing field `{name}`"
  | .duplicateField name => s!"duplicate field `{name}`"
  | .unknownName name names => s!"unknown variant `{name}`, {oneOf names}"
  | .timestamp error => error.message

/-- A place in a text: lines are counted from 1, and columns are bytes after the line's start. -/
structure Position where
  line : Nat
  column : Nat
deriving DecidableEq, Repr

/-- A problem and, in a text, its position. -/
structure Error where
  problem : Problem
  position : Option Position
deriving DecidableEq

/-- The wording of an error. -/
def Error.message (e : Error) : String :=
  match e.position with
  | some p => s!"{e.problem.message} at line {p.line} column {p.column}"
  | none => e.problem.message

end Signoff.Json
