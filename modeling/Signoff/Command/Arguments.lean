import Signoff.Text.Split
/-!
# Commands and their arguments

What the program is asked to do on a command line: an option for all commands, the command, and the
options and operands of the command. Options have a letter and a name, and their values follow them
or are attached to them.

- `Form.read` reads arguments as a form asks for them.
- `Invocation.parse` reads a whole command line.
-/

namespace Signoff

/-- A command that asks the service for one thing. -/
inductive Call where
  | createWorkflow (file : String)
  | getWorkflow (id : String)
  | createDocument (workflow : String) (data : Option String)
  | getDocument (id : String)
  | applyEvent (document event : String) (roles : List String)
  | availableEvents (document : String) (roles : List String)
deriving DecidableEq, Repr

/-- A command. -/
inductive Command where
  | validate (file : String)
  | serve
  | call (c : Call)
deriving DecidableEq, Repr

/-- A command, and the file of settings that was named. -/
structure Invocation where
  settings : Option String
  command : Command
deriving DecidableEq, Repr

namespace Command

/-- What becomes of arguments that do not make a command. -/
inductive Detour where
  | misuse
  | help
  | version
deriving DecidableEq, Repr

/-- An option with a value. A path may not be empty. -/
structure Switch where
  letter : Char
  name : String
  isPath : Bool
  repeats : Bool
deriving DecidableEq, Repr

/-- What arguments may be: the options, for each operand whether it is a path, and whether the
version may be asked for. -/
structure Form where
  switches : List Switch
  operands : List Bool
  versioned : Bool

/-- The options with their values, and the operands. -/
structure Given where
  values : List (String × String)
  operands : List String
deriving DecidableEq, Repr

/-- Nothing is given. -/
def Given.none : Given := ⟨[], []⟩

/-- The value of an option. -/
def Given.value? (g : Given) (name : String) : Option String := g.values.lookup name

/-- The value of an option that must be given. -/
def Given.need (g : Given) (name : String) : Except Detour String :=
  match g.value? name with
  | some value => .ok value
  | Option.none => .error .misuse

/-- The values of an option, each of which may be a list. -/
def Given.all (g : Given) (name : String) : List String :=
  (g.values.filter (·.1 == name)).flatMap fun (_, value) => splitText ',' value

/-- The operand that must be given. -/
def Given.operand (g : Given) : Except Detour String :=
  match g.operands with
  | operand :: _ => .ok operand
  | [] => .error .misuse

/-- What an argument looks like. -/
inductive Shape where
  | word
  | endOfOptions
  | named (name : List Char)
  | letters (first : Char) (rest : List Char)

/-- Tells what an argument looks like. -/
def shapeOf (argument : String) : Shape :=
  match argument.toList with
  | ['-', '-'] => .endOfOptions
  | '-' :: '-' :: name => .named name
  | '-' :: first :: rest => .letters first rest
  | _ => .word

namespace Form

/-- Adds the value of an option, which is given once unless it repeats. -/
def addValue (g : Given) (s : Switch) (value : String) : Except Detour Given :=
  if (s.isPath && value.isEmpty) || (!s.repeats && (g.value? s.name).isSome) then .error .misuse
  else .ok { g with values := g.values ++ [(s.name, value)] }

/-- Adds an operand. -/
def addOperand (f : Form) (g : Given) (value : String) : Except Detour Given :=
  match f.operands[g.operands.length]? with
  | none => .error .misuse
  | some isPath =>
    if isPath && value.isEmpty then .error .misuse
    else .ok { g with operands := g.operands ++ [value] }

/-- Reads an option by its name, with the value behind an equals sign. Gives the option too if its
value is still to come. -/
def readNamed (f : Form) (g : Given) (text : List Char) :
    Except Detour (Given × Option Switch) :=
  let name := String.ofList (text.takeWhile (· != '='))
  let value := (text.dropWhile (· != '=')).tail
  let attached := text.contains '='
  match f.switches.find? (·.name == name) with
  | some s =>
    if attached then return (← addValue g s (String.ofList value), none) else return (g, some s)
  | none =>
    if attached then .error .misuse
    else if name == "help" then .error .help
    else if name == "version" && f.versioned then .error .version
    else .error .misuse

/-- Reads an option by its letter, with the value behind it, perhaps after an equals sign. -/
def readLetter (f : Form) (g : Given) (letter : Char) (rest : List Char) :
    Except Detour (Given × Option Switch) :=
  match f.switches.find? (·.letter == letter) with
  | some s =>
    if rest.isEmpty then return (g, some s)
    else
      let value := if rest.head? == some '=' then rest.tail else rest
      return (← addValue g s (String.ofList value), none)
  | none =>
    if letter == 'h' then .error .help
    else if letter == 'V' && f.versioned then .error .version
    else .error .misuse

/-- Reads arguments, up to one of `commands` that is no value of an option. `waiting` is an option
whose value is still to come; `plain` says that only operands may follow. -/
def read (f : Form) (commands : List String) :
    List String → Given → Option Switch → Bool → Except Detour (Given × List String)
  | [], g, waiting, _ => if waiting.isSome then .error .misuse else .ok (g, [])
  | argument :: rest, g, waiting, plain =>
    if plain then do f.read commands rest (← f.addOperand g argument) waiting true
    else
      match shapeOf argument, waiting with
      | .word, some s => do f.read commands rest (← addValue g s argument) none false
      | .word, none =>
        if commands.contains argument then .ok (g, argument :: rest)
        else do f.read commands rest (← f.addOperand g argument) none false
      | _, some _ => .error .misuse
      | .endOfOptions, none => f.read commands rest g none true
      | .named text, none => do
        let (g, waiting) ← f.readNamed g text
        f.read commands rest g waiting false
      | .letters first others, none => do
        let (g, waiting) ← f.readLetter g first others
        f.read commands rest g waiting false

end Form

/-- The option for all commands. -/
def settingsSwitch : Switch := ⟨'c', "config", true, false⟩

/-- An option for text. -/
def textSwitch (letter : Char) (name : String) : Switch := ⟨letter, name, false, false⟩

/-- The option for the roles of an actor. -/
def rolesSwitch : Switch := ⟨'r', "roles", false, true⟩

/-- What comes before the command. -/
def outerForm : Form := ⟨[settingsSwitch], [], true⟩

/-- A command with its form, and what it is when the form is filled in. -/
structure Entry where
  name : String
  form : Form
  make : Given → Except Detour Command

/-- The commands. -/
def entries : List Entry :=
  [⟨"validate", ⟨[], [true], false⟩, fun g => return .validate (← g.operand)⟩,
    ⟨"serve", ⟨[], [], false⟩, fun _ => return .serve⟩,
    ⟨"create-workflow", ⟨[], [true], false⟩, fun g => return .call (.createWorkflow (← g.operand))⟩,
    ⟨"get-workflow", ⟨[], [false], false⟩, fun g => return .call (.getWorkflow (← g.operand))⟩,
    ⟨"create-document", ⟨[textSwitch 'w' "workflow", textSwitch 'd' "data"], [], false⟩, fun g =>
      return .call (.createDocument (← g.need "workflow") (g.value? "data"))⟩,
    ⟨"get-document", ⟨[], [false], false⟩, fun g => return .call (.getDocument (← g.operand))⟩,
    ⟨"apply-event", ⟨[textSwitch 'd' "document", textSwitch 'e' "event", rolesSwitch], [], false⟩,
      fun g => return .call (.applyEvent (← g.need "document") (← g.need "event") (g.all "roles"))⟩,
    ⟨"available-events", ⟨[textSwitch 'd' "document", rolesSwitch], [], false⟩, fun g =>
      return .call (.availableEvents (← g.need "document") (g.all "roles"))⟩]

/-- The names of the commands. -/
def names : List String := entries.map (·.name)

/-- Reads a command from its name on. The command `help` tells about the program or a command. -/
def parse : List String → Except Detour Command
  | [] => .error .misuse
  | name :: arguments =>
    match entries.find? (·.name == name) with
    | some e => do
      let (g, _) ← e.form.read [] arguments .none none false
      e.make g
    | none =>
      match arguments with
      | [] => .error .help
      | [topic] => .error (if names.contains topic || topic == "help" then .help else .misuse)
      | _ => .error .misuse

end Command

/-- Reads a command line. The environment may name a file of settings too. -/
def Invocation.parse (inEnvironment : Option String) (arguments : List String) :
    Except Command.Detour Invocation := do
  let (g, rest) ← Command.outerForm.read ("help" :: Command.names) arguments .none none false
  let command ← Command.parse rest
  match g.value? "config" with
  | some path => return ⟨some path, command⟩
  | none =>
    if inEnvironment == some "" then throw .misuse
    return ⟨inEnvironment, command⟩

end Signoff
