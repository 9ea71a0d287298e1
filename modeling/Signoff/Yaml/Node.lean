import Signoff.Table.Basic
import Signoff.Yaml.Token
/-!
# Documents of YAML

A document is a tree of scalars, sequences and mappings, in which a reference may stand for a node
elsewhere, even one that it is a part of. References are numbered; the document knows their nodes.

- `Document.follow` is the node itself or the one it refers to.
- `Document.members?` are the members of a mapping with keys that are scalars.
-/

namespace Signoff.Yaml

/-- A node of a document. -/
inductive Node where
  | scalar (tag : Option Bytes) (style : Style) (text : String)
  | sequence (tag : Option Bytes) (items : List Node)
  | mapping (tag : Option Bytes) (members : List (Node × Node))
  | reference (number : Nat)

/-- A document: its root, unless there is nothing in the text, and the nodes that are referred
to. -/
structure Document where
  root : Option Node
  targets : Table Nat Node

namespace Node

/-- The scalar that stands where nothing is written. -/
def nothing : Node := .scalar none .plain ""

/-- Nothing is written here, or only a tag. -/
def isNothing : Node → Bool
  | .scalar _ .plain "" => true
  | _ => false

/-- The tag of a node. -/
def tag? : Node → Option Bytes
  | .scalar tag _ _ => tag
  | .sequence tag _ => tag
  | .mapping tag _ => tag
  | .reference _ => none

end Node

namespace Document

/-- The node itself, or the one it refers to. -/
def follow (d : Document) : Node → Option Node
  | .reference number => d.targets.get? number
  | n => some n

/-- The text of a scalar. -/
def text? (d : Document) (n : Node) : Option String := do
  match ← d.follow n with
  | .scalar _ _ text => some text
  | _ => none

/-- The members of a mapping, whose keys are scalars. Where nothing is written there are none. -/
def members? (d : Document) (n : Node) : Option (List (String × Node)) := do
  match ← d.follow n with
  | .mapping _ members => members.mapM fun (key, value) => do return (← d.text? key, value)
  | n => if n.isNothing then some [] else none

end Document

end Signoff.Yaml
