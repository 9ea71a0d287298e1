import Signoff.Text.Utf8
import Signoff.Yaml.Scalar
/-!
# Properties and directives of YAML

A node may be given a name by an anchor, and a tag. Directives before a document say which version
of YAML it is written in and what the handles of its tags stand for.

- `anchorName`, `tag`, `directive` split these off the marks; the sign in front is gone.
-/

namespace Signoff.Yaml

/-- The characters that may follow a name without a space. -/
def nameEnds : List Char := ['?', ':', ',', ']', '\x7d', '%', '@', '\x60']

/-- Splits the name of an anchor off. -/
def anchorName (marks : List Mark) : Option (String × List Mark) :=
  let (name, rest) := splitName marks
  if !name.isEmpty && (endsWord rest || (rest.take 1).all (nameEnds.contains ·.char)) then
    some (textOf name, rest)
  else none

/-- The signs that may stand in the suffix of a tag. -/
def suffixSigns : List Char :=
  [';', '/', '?', ':', '@', '&', '=', '+', '$', '.', '!', '~', '*', '\x27', '(', ')']

/-- The signs that may stand in a whole tag besides. -/
def wholeSigns : List Char := [',', '[', ']']

/-- The character may stand in a tag as it is. -/
def isTagChar (whole : Bool) (c : Char) : Bool :=
  isNameChar c || suffixSigns.contains c || (whole && wholeSigns.contains c)

/-- How many bytes follow the first byte of a character. -/
def bytesAfter? (first : Nat) : Option Nat :=
  if first < 0x80 then some 0
  else if 0xC0 ≤ first ∧ first < 0xE0 then some 1
  else if 0xE0 ≤ first ∧ first < 0xF0 then some 2
  else if 0xF0 ≤ first ∧ first < 0xF8 then some 3
  else none

/-- The bytes still due after a byte, if `due` were due before it. -/
def bytesDue? (due byte : Nat) : Option Nat :=
  if due = 0 then bytesAfter? byte
  else if 0x80 ≤ byte ∧ byte < 0xC0 then some (due - 1)
  else none

/-- Splits the characters of a tag off, as bytes. A byte may be written as a percent sign and its
two digits, and `due` such bytes have to follow. -/
def tagBytes (whole : Bool) (due : Nat) : List Mark → Option (Bytes × List Mark)
  | [] => if due = 0 then some ([], []) else none
  | m :: rest =>
    if m.char == '%' then
      match rest with
      | a :: b :: rest => do
        let byte := 16 * (← hexValue? a.char) + (← hexValue? b.char)
        let (bytes, rest) ← tagBytes whole (← bytesDue? due byte) rest
        return (UInt8.ofNat byte :: bytes, rest)
      | _ => none
    else if due ≠ 0 then none
    else if isTagChar whole m.char then do
      let (bytes, rest) ← tagBytes whole 0 rest
      return (UInt8.ofNat m.char.toNat :: bytes, rest)
    else some ([], m :: rest)

/-- Splits the characters of a tag off, which ends at a zero byte even if more is written. -/
def tagText (whole : Bool) (marks : List Mark) : Option (Bytes × List Mark) := do
  let (bytes, rest) ← tagBytes whole 0 marks
  return (bytes.takeWhile (· != 0), rest)

/-- A character of a tag comes first in these marks. -/
def startsTag (whole : Bool) (marks : List Mark) : Bool :=
  ((next? marks).map fun c => c == '%' || isTagChar whole c).getD false

/-- Splits a handle off, which is an exclamation mark, or a name between two. Tells whether it has
its second one. -/
def tagHandle (marks : List Mark) : Option (String × Bool × List Mark) :=
  match marks with
  | [] => none
  | m :: rest =>
    if m.char == '!' then
      let (name, rest) := splitName rest
      if next? rest == some '!' then some (textOf (m :: name ++ rest.take 1), true, rest.tail)
      else some (textOf (m :: name), false, rest)
    else none

/-- Splits a tag off that is written out between angle brackets, of which the first is gone. -/
def wholeTag (marks : List Mark) : Option (Token × List Mark) := do
  let (suffix, rest) ← tagText true marks
  if startsTag true marks && next? rest == some '>' then
    return (.tag "" suffix, rest.tail)
  else failure

/-- The tag that is an exclamation mark and nothing else. -/
def bareTag : Bytes := encode "!"

/-- Splits a tag off that starts with a handle. A lone exclamation mark is a suffix without one. -/
def shortTag (marks : List Mark) : Option (Token × List Mark) := do
  let (handle, closed, afterHandle) ← tagHandle marks
  if closed then
    let (suffix, rest) ← tagText false afterHandle
    if startsTag false afterHandle then return (.tag handle suffix, rest) else failure
  else
    let (suffix, rest) ← tagText false marks.tail
    return (if suffix.isEmpty then .tag "" bareTag else .tag "!" suffix, rest)

/-- Splits a tag off. A space has to follow, or in a flow collection a comma. -/
def tag (inFlow : Bool) (marks : List Mark) : Option (Token × List Mark) := do
  let (token, rest) ←
    if next? marks.tail == some '<' then wholeTag (marks.drop 2) else shortTag marks
  if endsWord rest || (inFlow && next? rest == some ',') then return (token, rest) else failure

/-- The longest number of a version. -/
def maxVersionDigits : Nat := 9

/-- Splits a number of a version off. -/
def versionNumber (marks : List Mark) : Option (Nat × List Mark) :=
  let (digits, rest) := marks.span (·.char.isDigit)
  if 0 < digits.length ∧ digits.length ≤ maxVersionDigits then
    some (digits.foldl (fun n m => 10 * n + (m.char.toNat - '0'.toNat)) 0, rest)
  else none

/-- Splits the rest of a version directive off. -/
def versionDirective (marks : List Mark) : Option (Token × List Mark) := do
  let (major, rest) ← versionNumber (dropSpaces marks)
  if next? rest == some '.' then
    let (minor, rest) ← versionNumber rest.tail
    return (.version major minor, rest)
  else failure

/-- Splits the rest of a handle directive off. -/
def handleDirective (marks : List Mark) : Option (Token × List Mark) := do
  let (handle, closed, rest) ← tagHandle (dropSpaces marks)
  if (closed || handle == "!") && ((next? rest).map isSpace).getD false then
    let marks := dropSpaces rest
    let (stem, rest) ← tagText true marks
    if startsTag true marks && endsWord rest then return (.handle handle stem, rest) else failure
  else failure

/-- Splits a directive and its line off. -/
def directive (marks : List Mark) : Option (Token × List Mark) := do
  let (name, rest) := splitName marks
  if endsWord rest then
    let (token, rest) ←
      match textOf name with
      | "YAML" => versionDirective rest
      | "TAG" => handleDirective rest
      | _ => none
    return (token, ← endLine? rest)
  else failure

end Signoff.Yaml
