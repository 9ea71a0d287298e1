import Signoff.Settings.Basic
import Signoff.Yaml.Reader
/-!
# Settings in a file

A file of settings is a YAML document with the sections `storage`, `limits` and `timers`. What it
leaves out it leaves open, and members it need not have are passed over; a member may not come
twice.

- `Layer.ofText?` reads the text of a file.
-/

namespace Signoff.Settings

open Yaml (Node)

/-- The largest number that a setting can have. -/
def maxNumber : Nat := 18446744073709551615

/-- The digits of a number in a base, or none if one of them is no digit there. -/
def digits? (base : Nat) (cs : List Char) : Option (List Nat) :=
  cs.mapM fun c => (Yaml.hexValue? c).filter (· < base)

/-- The number that digits of a base write, if it is not too large. -/
def numberInBase? (base : Nat) (cs : List Char) : Option Nat := do
  let digits ← digits? base cs
  let n := digits.foldl (base * · + ·) 0
  if !digits.isEmpty && n ≤ maxNumber then return n else failure

/-- A plus sign in front of a number says nothing. -/
def dropPlus (cs : List Char) : List Char := if cs.head? == some '+' then cs.tail else cs

/-- The number in a scalar: decimal without leading zeros, or with a prefix that tells its base. -/
def numberOfScalar? (text : String) : Option Nat :=
  let cs := dropPlus text.toList
  let based :=
    match cs with
    | '0' :: 'x' :: rest => numberInBase? 16 rest
    | '0' :: 'o' :: rest => numberInBase? 8 rest
    | '0' :: 'b' :: rest => numberInBase? 2 rest
    | _ => none
  if based.isSome then based
  else if 1 < cs.length && cs.head? == some '0' then none
  else numberInBase? 10 cs

/-- The truth value in a scalar. -/
def flagOfScalar? (text : String) : Option Bool :=
  if ["true", "True", "TRUE"].contains text then some true
  else if ["false", "False", "FALSE"].contains text then some false
  else none

/-- The scalar says nothing. -/
def isNull (text : String) : Bool := ["", "null", "Null", "NULL", "~"].contains text

/-- The text of a scalar that may be of a type other than text, which is a plain one, or a literal
one with the tag of the type. -/
def typedText? (d : Yaml.Document) (type : String) (n : Node) : Option String := do
  match ← d.follow n with
  | .scalar _ .plain text => some text
  | .scalar tag .literal text =>
    if tag == some (encode ("tag:yaml.org,2002:" ++ type)) then some text else none
  | _ => none

/-- The number that a node gives. -/
def number? (d : Yaml.Document) (n : Node) : Option Nat := do
  numberOfScalar? (← typedText? d "int" n)

/-- The truth value that a node gives. -/
def flag? (d : Yaml.Document) (n : Node) : Option Bool := do
  flagOfScalar? (← typedText? d "bool" n)

/-- The name that a tag of one's own gives, if it is text. -/
def ownTag? (tag : Option Bytes) : Option String := do
  match ← tag with
  | 0x21 :: rest => decode? rest
  | _ => none

/-- The backend that a node gives, by its text, or by its tag if there is no text. -/
def backend? (d : Yaml.Document) (n : Node) : Option Backend := do
  let n ← d.follow n
  match ownTag? n.tag?, n with
  | some name, .scalar _ .plain text => if isNull text then Backend.ofName? name else none
  | none, .scalar _ _ text => Backend.ofName? text
  | _, _ => none

/-- The member with a key, if there is one, read by `read`; fails if there are more. -/
def member? {α : Type} (members : List (String × Node)) (key : String) (read : Node → Option α) :
    Option (Option α) :=
  match members.filter (·.1 == key) with
  | [] => some none
  | [(_, n)] => (read n).map some
  | _ => none

/-- Reads a section, if there is one. -/
def section? {α : Type} (d : Yaml.Document) (members : List (String × Node)) (key : String)
    (default : α) (read : List (String × Node) → Option α) : Option α := do
  return (← member? members key fun n => do read (← d.members? n)).getD default

/-- Reads where records are kept. -/
def storageOf? (d : Yaml.Document) (members : List (String × Node)) :
    Option (Option Backend × Option String) := do
  return (← member? members "backend" (backend? d), ← member? members "data_dir" d.text?)

/-- The settings in a document. -/
def Layer.ofDocument? (d : Yaml.Document) : Option Layer := do
  match d.root with
  | none => return .blank
  | some root =>
    let members ← d.members? root
    let (backend, dataFolder) ← section? d members "storage" (none, none) (storageOf? d)
    let maxDefinitionBytes ← section? d members "limits" none fun members =>
      member? members "max_definition_bytes" (number? d)
    let timersEnabled ← section? d members "timers" none fun members =>
      member? members "enabled" (flag? d)
    return ⟨backend, dataFolder, maxDefinitionBytes, timersEnabled⟩

/-- The settings in the text of a file. -/
def Layer.ofText? (text : String) : Option Layer := do
  Layer.ofDocument? (← Yaml.Document.ofText? text)

end Signoff.Settings
