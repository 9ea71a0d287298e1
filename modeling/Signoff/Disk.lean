import Signoff.Table.Lemmas
import Signoff.Text.Quoted
import Signoff.Text.Split
import Signoff.Text.Utf8
/-!
# A disk

A tree of folders and files, and the operations on it that record stores need. An operation fails
for the reasons of the tree, or because a fault is scheduled for it.

- `Disk.read`, `create`, `write`, `sync`, `rename`, `makeFolders` are the operations.
- `Disk.node?` is what a path leads to; `Disk.entriesIn` lists a folder.
- A path that does not lead anywhere fails at its first name that does not. Paths that do not begin
  with a slash start at the home folder.
-/

namespace Signoff

namespace Disk

/-- Why an operation on a disk fails. -/
inductive Error where
  | notFound
  | exists_
  | notFolder
  | isFolder
  | nameTooLong
  | noSpace
  | faulty
  | notUtf8
  | nulInName
  | other (text : String)
deriving DecidableEq, Repr

/-- The text and the number of a system error. -/
def Error.system? : Error → Option (String × Nat)
  | .notFound => some ("No such file or directory", 2)
  | .exists_ => some ("File exists", 17)
  | .notFolder => some ("Not a directory", 20)
  | .isFolder => some ("Is a directory", 21)
  | .nameTooLong => some ("File name too long", 36)
  | .noSpace => some ("No space left on device", 28)
  | .faulty => some ("Input/output error", 5)
  | .notUtf8 => none
  | .nulInName => none
  | .other _ => none

/-- The kind of an error. -/
def Error.kind : Error → String
  | .notFound => "NotFound"
  | .exists_ => "AlreadyExists"
  | .notFolder => "NotADirectory"
  | .isFolder => "IsADirectory"
  | .nameTooLong => "InvalidFilename"
  | .noSpace => "StorageFull"
  | .faulty => "Uncategorized"
  | .notUtf8 => "InvalidData"
  | .nulInName => "InvalidInput"
  | .other _ => "Other"

/-- The wording of an error. -/
def Error.message (e : Error) : String :=
  match e.system? with
  | some (text, number) => s!"{text} (os error {number})"
  | none =>
    match e with
    | .other text => text
    | .nulInName => "file name contained an unexpected NUL byte"
    | _ => "stream did not contain valid UTF-8"

/-- An error in the words of a diagnostic for whoever runs the service. -/
def Error.diagnosis (e : Error) : String :=
  match e.system? with
  | some (text, number) =>
    s!"Os \x7b code: {number}, kind: {e.kind}, message: {quoted text} \x7d"
  | none =>
    match e with
    | .other text => s!"Custom \x7b kind: {e.kind}, error: {quoted text} \x7d"
    | _ => s!"Error \x7b kind: {e.kind}, message: {quoted e.message} \x7d"

/-- What a path leads to. -/
inductive Node where
  | file (content : Bytes)
  | folder
deriving DecidableEq

end Disk

/-- Files and folders by their paths from the root, which itself is not listed, the names that lead
to the home folder, and the faults that are scheduled for the next operations. -/
structure Disk where
  nodes : Table String Disk.Node
  home : List String
  faults : List (Option Disk.Error)
deriving DecidableEq

namespace Disk

/-- An empty disk without faults whose home folder is the root. -/
def empty : Disk := ⟨.empty, [], []⟩

instance : Inhabited Disk := ⟨empty⟩

/-- An operation on a disk. -/
abbrev Io (α : Type) := ExceptT Error (StateM Disk) α

/-- The names along a path, in reverse, without those that stay in place. -/
def namesAlong (before : List String) : List String → List String
  | [] => before
  | name :: rest =>
    if name = "" ∨ name = "." then namesAlong before rest
    else if name = ".." then namesAlong before.tail rest
    else namesAlong (name :: before) rest

/-- The names that lead to where a path starts, in reverse. -/
def start (d : Disk) (path : String) : List String :=
  if path.startsWith "/" then [] else d.home.reverse

/-- The names that lead from the root to where a path leads. -/
def names (d : Disk) (path : String) : List String :=
  (namesAlong (d.start path) (splitText '/' path)).reverse

/-- The path with some names. -/
def pathOf (names : List String) : String := "/".intercalate names

/-- The longest name of a file or folder, in bytes. -/
def maxNameBytes : Nat := 255

/-- No path takes as many bytes. -/
def maxPathBytes : Nat := 4096

/-- The node behind the parts of a path, if the disk has it, from a folder with the names `above` in
reverse. Fails at a name that is too long or does not stand in a folder. -/
def walk (d : Disk) (above : List String) : List String → Except Error (Option Node)
  | [] => .ok (some .folder)
  | name :: rest =>
    if name = "" ∨ name = "." then walk d above rest
    else if name = ".." then walk d above.tail rest
    else if maxNameBytes < name.utf8ByteSize then .error .nameTooLong
    else
      match d.nodes.get? (pathOf (name :: above).reverse) with
      | some .folder => walk d (name :: above) rest
      | some (.file content) =>
        if rest.isEmpty then .ok (some (.file content)) else .error .notFolder
      | none => if rest.isEmpty then .ok none else .error .notFound

/-- Why no operation takes a path, whatever the disk holds: it has a zero character or is too
long. -/
def pathFault? (path : String) : Option Error :=
  if path.toList.contains '\x00' then some .nulInName
  else if maxPathBytes ≤ path.utf8ByteSize then some .nameTooLong
  else none

/-- The node at a path, if the disk has it. The empty path leads nowhere. -/
def node? (d : Disk) (path : String) : Except Error (Option Node) :=
  match pathFault? path with
  | some e => .error e
  | none =>
    if path.isEmpty then .error .notFound else d.walk (d.start path) (splitText '/' path)

/-- The disk with a node at a path. -/
def setNode (d : Disk) (path : String) (node : Node) : Disk :=
  { d with nodes := d.nodes.insert (pathOf (d.names path)) node }

/-- Fails if a fault is scheduled for this operation. -/
def step : Io Unit := do
  match (← get).faults with
  | [] => pure ()
  | fault :: rest =>
    modify fun d => { d with faults := rest }
    match fault with
    | some e => throw e
    | none => pure ()

/-- Gives the content of a file. -/
def read (path : String) : Io Bytes := do
  step
  match (← get).node? path with
  | .error e => throw e
  | .ok none => throw .notFound
  | .ok (some .folder) => throw .isFolder
  | .ok (some (.file content)) => pure content

/-- Makes an empty file or empties the one there is. -/
def create (path : String) : Io Unit := do
  step
  match (← get).node? path with
  | .error e => throw e
  | .ok (some .folder) => throw .isFolder
  | .ok _ => modify (·.setNode path (.file []))

/-- Fills a file that was just made. -/
def write (path : String) (content : Bytes) : Io Unit := do
  step
  modify (·.setNode path (.file content))

/-- Waits until a file has reached the medium. -/
def sync : Io Unit := step

/-- Moves a file over another. -/
def rename (source target : String) : Io Unit := do
  step
  match (← get).node? target with
  | .error e => throw e
  | .ok (some .folder) => throw .isFolder
  | .ok _ =>
    match (← get).node? source with
    | .error e => throw e
    | .ok none => throw .notFound
    | .ok (some n) =>
      modify fun d => { d with nodes := d.nodes.erase (pathOf (d.names source)) }
      modify (·.setNode target n)

/-- Makes the folders along the parts of a path, from a folder with the names `above` in reverse. -/
def makeFrom (above : List String) : List String → Io Unit
  | [] => pure ()
  | name :: rest => do
    if name = "" ∨ name = "." then makeFrom above rest
    else if name = ".." then makeFrom above.tail rest
    else
      if maxNameBytes < name.utf8ByteSize then throw .nameTooLong
      let path := pathOf (name :: above).reverse
      match (← get).nodes.get? path with
      | some (.file _) => throw (if rest.isEmpty then .exists_ else .notFolder)
      | some .folder => makeFrom (name :: above) rest
      | none =>
        modify fun d => { d with nodes := d.nodes.insert path .folder }
        makeFrom (name :: above) rest

/-- Makes a folder and those above it, as far as they do not exist. A path that no operation takes
makes none of them. -/
def makeFolders (path : String) : Io Unit := do
  step
  if let some e := pathFault? path then throw e
  makeFrom ((← get).start path) (splitText '/' path)

/-- The disk without a file or folder and what it holds. -/
def remove (d : Disk) (path : String) : Disk :=
  let path := pathOf (d.names path)
  let kept := d.nodes.entries.filter fun x => x.1 != path && !(path ++ "/").isPrefixOf x.1
  { d with nodes := ⟨kept, d.nodes.increasing.sublist List.filter_sublist⟩ }

/-- The names of the files and folders that stand right in a folder, increasing. -/
def entriesIn (d : Disk) (folder : String) : List String :=
  let above := d.names folder
  d.nodes.entries.filterMap fun x =>
    let names := splitText '/' x.1
    if names.dropLast = above then names.getLast? else none

end Disk

end Signoff
