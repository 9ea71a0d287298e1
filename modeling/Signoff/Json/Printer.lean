import Signoff.Json.Basic
import Signoff.Json.Shortest
/-!
# Writing JSON

The compact text of a value has no white space; the pretty text has one item or member a line, with
two spaces for each level. In a string only quotes, backslashes and control characters are escaped.

- `Json.compact` and `Json.pretty` write a value.
-/

namespace Signoff

/-- The characters of a whole number. -/
def renderInt (n : Int) : List Char :=
  if n < 0 then '-' :: Nat.toDigits 10 n.natAbs else Nat.toDigits 10 n.toNat

/-- The characters of a number. -/
def Number.render : Number → List Char
  | .whole n _ => renderInt n
  | .real x => x.render

namespace Json

/-- The character of a hexadecimal digit. -/
def hexDigit (n : Nat) : Char := if n < 10 then Char.ofNat (n + 48) else Char.ofNat (n + 87)

/-- A character inside a string. -/
def renderChar (c : Char) : List Char :=
  if c = '"' ∨ c = '\\' then ['\\', c]
  else if 0x20 ≤ c.toNat then [c]
  else if c = '\x08' then ['\\', 'b']
  else if c = '\t' then ['\\', 't']
  else if c = '\n' then ['\\', 'n']
  else if c = '\x0c' then ['\\', 'f']
  else if c = '\r' then ['\\', 'r']
  else ['\\', 'u', '0', '0', hexDigit (c.toNat / 16), hexDigit (c.toNat % 16)]

/-- The characters of a string with its quotes. -/
def renderString (s : String) : List Char := '"' :: s.toList.flatMap renderChar ++ ['"']

/-- A value with no inner values, and the empty list and object. -/
def renderScalar : Json → List Char
  | .null => ['n', 'u', 'l', 'l']
  | .bool true => ['t', 'r', 'u', 'e']
  | .bool false => ['f', 'a', 'l', 's', 'e']
  | .number n => n.render
  | .string s => renderString s
  | .array _ => ['[', ']']
  | .object _ => ['\x7b', '\x7d']

mutual

/-- The compact characters of a value. -/
def render : Json → List Char
  | .array [] => ['[', ']']
  | .array (j :: rest) => '[' :: render j ++ renderItems rest
  | .object [] => ['\x7b', '\x7d']
  | .object ((k, j) :: rest) => '\x7b' :: renderString k ++ ':' :: render j ++ renderMembers rest
  | j => renderScalar j

/-- The characters of further items and the end of their list. -/
def renderItems : List Json → List Char
  | [] => [']']
  | j :: rest => ',' :: render j ++ renderItems rest

/-- The characters of further members and the end of their object. -/
def renderMembers : List (String × Json) → List Char
  | [] => ['\x7d']
  | (k, j) :: rest => ',' :: renderString k ++ ':' :: render j ++ renderMembers rest

end

/-- The compact text of a value. -/
def compact (j : Json) : String := String.ofList j.render

/-- The start of a line at a level. -/
def newLine (level : Nat) : List Char := '\n' :: List.replicate (2 * level) ' '

mutual

/-- The pretty characters of a value that stands at a level. -/
def renderPretty (level : Nat) : Json → List Char
  | .array [] => ['[', ']']
  | .array (j :: rest) =>
    '[' :: newLine (level + 1) ++ renderPretty (level + 1) j ++ renderPrettyItems level rest
  | .object [] => ['\x7b', '\x7d']
  | .object ((k, j) :: rest) =>
    '\x7b' :: newLine (level + 1) ++ renderString k ++ ':' :: ' ' :: renderPretty (level + 1) j ++
      renderPrettyMembers level rest
  | j => renderScalar j

/-- The characters of further items and the end of their list, which started at a level. -/
def renderPrettyItems (level : Nat) : List Json → List Char
  | [] => newLine level ++ [']']
  | j :: rest =>
    ',' :: newLine (level + 1) ++ renderPretty (level + 1) j ++ renderPrettyItems level rest

/-- The characters of further members and the end of their object, which started at a level. -/
def renderPrettyMembers (level : Nat) : List (String × Json) → List Char
  | [] => newLine level ++ ['\x7d']
  | (k, j) :: rest =>
    ',' :: newLine (level + 1) ++ renderString k ++ ':' :: ' ' :: renderPretty (level + 1) j ++
      renderPrettyMembers level rest

end

/-- The pretty text of a value. -/
def pretty (j : Json) : String := String.ofList (renderPretty 0 j)

end Json

end Signoff
