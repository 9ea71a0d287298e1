import Signoff.Yaml.Lexer
import Signoff.Yaml.Node
/-!
# Reading documents of YAML

The tokens of a text are read as a single document.

- `Document.ofTokens?` reads tokens, `Document.ofText?` a text.
-/

namespace Signoff.Yaml

/-- The tokens to come, what the handles of tags stand for, and the anchors so far: the number of
each name, and for each number the node it belongs to by its place among the anchored nodes. The
node is known once it has been read. -/
structure Reading where
  tokens : List Token
  handles : List (String × Bytes)
  numbers : Table String Nat
  anchored : Table Nat (Nat × Option Node)
  places : Nat

/-- Reads a part of a document. -/
abbrev Reader := StateT Reading Option

namespace Reader

/-- The next token. -/
def peek : Reader (Option Token) := return (← get).tokens.head?

/-- Skips a token. -/
def skip : Reader Unit := modify fun r => { r with tokens := r.tokens.tail }

/-- Skips the token if it is the next one, and tells whether it was. -/
def accept (t : Token) : Reader Bool := do
  if (← peek) == some t then
    skip
    return true
  else return false

/-- Fails unless the token is next, and skips it. -/
def expect (t : Token) : Reader Unit := do
  if ← accept t then return () else failure

/-- The next token is one of these, or there is none. -/
def atAny (ts : List Token) : Reader Bool := return (← peek).all ts.contains

/-- What the handles of tags stand for if no directive says otherwise. -/
def usualHandles : List (String × Bytes) := [("!", bareTag), ("!!", encode "tag:yaml.org,2002:")]

/-- The tag that a handle and a suffix make. -/
def resolveTag (handle : String) (suffix : Bytes) : Reader Bytes := do
  if handle.isEmpty then return suffix
  else
    match ((← get).handles ++ usualHandles).lookup handle with
    | some stem => return stem ++ suffix
    | none => failure

/-- Reads an anchor, if there is one. -/
def anchor? : Reader (Option String) := do
  match ← peek with
  | some (.anchor name) =>
    skip
    return some name
  | _ => return none

/-- Reads a tag, if there is one. -/
def tag? : Reader (Option Bytes) := do
  match ← peek with
  | some (.tag handle suffix) =>
    skip
    return some (← resolveTag handle suffix)
  | _ => return none

/-- Reads the anchor and the tag of a node, in either order. -/
def properties : Reader (Option String × Option Bytes) := do
  match ← anchor? with
  | some name => return (some name, ← tag?)
  | none =>
    let tag ← tag?
    return (← anchor?, tag)

/-- Reads a node that has an anchor. The number of a name is the number of names before it; the last
of the nodes with a number counts. -/
def anchored (name : String) (read : Reader Node) : Reader Node := do
  let r ← get
  let number := r.numbers.size
  set { r with
    numbers := r.numbers.insert name number
    anchored := r.anchored.insert number (r.places, none)
    places := r.places + 1 }
  let n ← read
  modify fun now =>
    match now.anchored.get? number with
    | some (place, _) =>
      if place = r.places then
        { now with anchored := now.anchored.insert number (place, some n) }
      else now
    | none => now
  return n

/-- Reads a reference. -/
def reference (name : String) : Reader Node := do
  match (← get).numbers.get? name with
  | some number => return .reference number
  | none => failure

/-- Nothing is written before these tokens. -/
def orNothing (ends : List Token) (read : Reader Node) : Reader Node := do
  if ← atAny ends then return .nothing else read

mutual

/-- Reads a node. Block collections may be ruled out, and a sequence without indentation may be
allowed for. `fuel` is four for each token, here and in what follows. -/
def node (block bare : Bool) : Nat → Reader Node
  | 0 => failure
  | fuel + 1 => do
    match ← peek with
    | some (.reference name) =>
      skip
      reference name
    | _ =>
      let (name, tag) ← properties
      match name with
      | some name => anchored name (content block bare tag true fuel)
      | none => content block bare tag tag.isSome fuel

/-- Reads what a node is after its anchor and tag. With one of them, nothing more is needed. -/
def content (block bare : Bool) (tag : Option Bytes) (marked : Bool) : Nat → Reader Node
  | 0 => failure
  | fuel + 1 => do
    match ← peek, block, bare with
    | some (.scalar style text), _, _ =>
      skip
      return .scalar tag style text
    | some .flowSequenceStart, _, _ =>
      skip
      return .sequence tag (← flowItems true fuel)
    | some .flowMappingStart, _, _ =>
      skip
      return .mapping tag (← flowMembers true fuel)
    | some .blockSequenceStart, true, _ =>
      skip
      return .sequence tag (← blockItems fuel)
    | some .blockMappingStart, true, _ =>
      skip
      return .mapping tag (← blockMembers fuel)
    | some .blockEntry, _, true => return .sequence tag (← bareItems fuel)
    | _, _, _ => if marked then return .scalar tag .plain "" else failure

/-- Reads the items of a block sequence and its end. -/
def blockItems : Nat → Reader (List Node)
  | 0 => failure
  | fuel + 1 => do
    if ← accept .blockEntry then
      let item ← orNothing [.blockEntry, .blockEnd] (node true false fuel)
      return item :: (← blockItems fuel)
    else
      expect .blockEnd
      return []

/-- Reads the items of a sequence that is not indented and has no end of its own. -/
def bareItems : Nat → Reader (List Node)
  | 0 => failure
  | fuel + 1 => do
    if ← accept .blockEntry then
      let item ← orNothing [.blockEntry, .key, .value, .blockEnd] (node true false fuel)
      return item :: (← bareItems fuel)
    else return []

/-- Reads the members of a block mapping and its end. -/
def blockMembers : Nat → Reader (List (Node × Node))
  | 0 => failure
  | fuel + 1 => do
    let ends := [.key, .value, .blockEnd]
    if ← accept .key then
      let key ← orNothing ends (node true true fuel)
      let value ←
        if ← accept .value then orNothing ends (node true true fuel) else pure .nothing
      return (key, value) :: (← blockMembers fuel)
    else
      expect .blockEnd
      return []

/-- Reads the items of a flow sequence and its end. A member of a mapping may stand for a mapping of
its own. -/
def flowItems (first : Bool) : Nat → Reader (List Node)
  | 0 => failure
  | fuel + 1 => do
    if ← accept .flowSequenceEnd then return []
    else
      if !first then expect .flowEntry
      if ← accept .key then
        let key ← keyOfItem fuel
        let value ← flowValue .flowSequenceEnd fuel
        return .mapping none [(key, value)] :: (← flowItems false fuel)
      else if ← accept .flowSequenceEnd then return []
      else
        let item ← node false false fuel
        return item :: (← flowItems false fuel)

/-- Reads the key of a member in a flow sequence. Where it is missing, the token in its place is
passed over. -/
def keyOfItem : Nat → Reader Node
  | 0 => failure
  | fuel + 1 => do
    if ← atAny [.value, .flowEntry, .flowSequenceEnd] then
      skip
      return .nothing
    else node false false fuel

/-- Reads the value of a member, if there is one. -/
def flowValue (ending : Token) : Nat → Reader Node
  | 0 => failure
  | fuel + 1 => do
    if ← accept .value then orNothing [.flowEntry, ending] (node false false fuel)
    else return .nothing

/-- Reads the members of a flow mapping and its end. -/
def flowMembers (first : Bool) : Nat → Reader (List (Node × Node))
  | 0 => failure
  | fuel + 1 => do
    if ← accept .flowMappingEnd then return []
    else
      if !first then expect .flowEntry
      if ← accept .key then
        let key ← orNothing [.value, .flowEntry, .flowMappingEnd] (node false false fuel)
        let value ← flowValue .flowMappingEnd fuel
        return (key, value) :: (← flowMembers false fuel)
      else if ← accept .flowMappingEnd then return []
      else
        let key ← node false false fuel
        return (key, .nothing) :: (← flowMembers false fuel)

end

/-- Reads directives: one version at most, and every handle once. -/
def directives (versioned : Bool) : Nat → Reader Unit
  | 0 => failure
  | fuel + 1 => do
    match ← peek with
    | some (.version major minor) =>
      skip
      if versioned || major != 1 || (minor != 1 && minor != 2) then failure
      directives true fuel
    | some (.handle name stem) =>
      skip
      let r ← get
      if (r.handles.lookup name).isSome then failure
      set { r with handles := (name, stem) :: r.handles }
      directives versioned fuel
    | _ => return ()

/-- The next token is a directive. -/
def atDirective : Reader Bool := do
  match ← peek with
  | some (.version _ _) => return true
  | some (.handle _ _) => return true
  | _ => return false

/-- Reads the root of a document. -/
def root (fuel : Nat) : Reader Node := do
  if (← atDirective) || (← atAny [.documentStart]) then
    directives false fuel
    expect .documentStart
    if (← atDirective) || (← atAny [.documentStart, .documentEnd]) then return .nothing
    else node true false fuel
  else node true false fuel

/-- Passes over the marks behind a document, where nothing else may be. -/
def ending : Reader Unit := do
  if (← get).tokens.all (· == .documentEnd) then return () else failure

/-- Reads a document, of which there may be one only. -/
def document (fuel : Nat) : Reader (Option Node) := do
  if (← peek).isNone then return none
  else
    let n ← root fuel
    ending
    return some n

end Reader

/-- The document that tokens make. -/
def Document.ofTokens? (tokens : List Token) : Option Document := do
  let (root, r) ← (Reader.document (4 * tokens.length + 4)).run ⟨tokens, [], .empty, .empty, 0⟩
  return ⟨root, .ofList (r.anchored.entries.filterMap fun (number, _, n) => n.map (number, ·))⟩

/-- The document that a text holds. -/
def Document.ofText? (text : String) : Option Document := do
  Document.ofTokens? (← tokens? text)

end Signoff.Yaml
