import WorkFarm.Table
/-!
# Usage of commands

A command has options, which are given by name with a value, and operands, which are given by position. It
may have subcommands; then one of them has to be chosen, and it takes the rest of the arguments.

## Main definitions

* `Parameter`, `Command` — what can be given
* `Command.read` — the commands that arguments choose, with their values
* `UsageError` — why arguments are not accepted
* `Reading` — what was chosen and given

## Design

Arguments are read from left to right. A value that is an argument of its own is looked at only when the
next option or operand is met, or at the end; so an unknown argument that comes right behind it is reported
before it. A value that is joined to its option by an equals sign is looked at at once.

Every command with subcommands has one more, `help`, and every command has the flags for help. Behind two
dashes all arguments are operands.
-/

namespace WorkFarm

/-- Why arguments are not accepted, or what they ask for instead of running. -/
inductive UsageError where
  | help
  | version
  /-- Nothing is given where something is needed. -/
  | nothingGiven
  | missingSubcommand
  | unknownSubcommand
  | missingOperand
  /-- There is no such option, and no place for such an operand. -/
  | unknownArgument
  /-- An option has no value, or an empty one where that means none. -/
  | missingValue
  /-- A value is not of the kind that is wanted. -/
  | badValue
  /-- An option is given twice. -/
  | repeated
  /-- A flag is given a value. -/
  | unwantedValue
deriving DecidableEq, Repr

/-- Something that takes a value. -/
structure Parameter where
  /-- The name; an option is given as two dashes and its name. -/
  name : String
  /-- What the value is called in texts. -/
  placeholder : String
  /-- What it is for. -/
  about : String
  /-- What is wrong with a value, if anything. -/
  check : String → Option UsageError := fun _ => none
  /-- The text of the value that is taken if none is given. -/
  default : Option String := none

structure Command where
  name : String
  about : String
  options : List Parameter := []
  /-- Its operands, all of them required. -/
  operands : List Parameter := []
  /-- The version that it can be asked for. -/
  version : Option String := none
  subcommands : List Command := []

/-- What was chosen and given. -/
structure Reading where
  /-- The names of the subcommands that were chosen, from the outermost one on. -/
  path : List String := []
  /-- The values that were given. Where a command and its subcommand were both given one, the one of the
  subcommand stands. -/
  values : Table String String := ∅
deriving Inhabited

namespace Command

/-- How far the arguments of one command have been read. -/
structure Progress where
  /-- The values that have been looked at. -/
  values : Table String String := ∅
  /-- A parameter that was met, and its value if that was met too. -/
  pending : Option (Parameter × Option String) := none
  /-- The operands that have not been met. -/
  operands : List Parameter
  /-- Whether two dashes have been met. -/
  onlyOperands : Bool := false

namespace Progress

def take (p : Progress) (o : Parameter) (value : String) : Except UsageError Progress :=
  if p.values.contains o.name then .error .repeated
  else match o.check value with
    | some e => .error e
    | none => .ok { p with values := p.values.insert o.name value }

/-- Looks at the value that is pending. -/
def resolve (p : Progress) : Except UsageError Progress :=
  match p.pending with
  | none => .ok p
  | some (_, none) => .error .missingValue
  | some (o, some value) => { p with pending := none }.take o value

/-- The parameter that waits for its value. -/
def awaiting? (p : Progress) : Option Parameter :=
  match p.pending with
  | some (o, none) => some o
  | _ => none

def meet (p : Progress) (o : Parameter) (value : Option String) : Except UsageError Progress := do
  let p ← p.resolve
  match value with
  | some value => p.take o value
  | none => return { p with pending := some (o, none) }

end Progress

/-- The subcommand with a name. -/
def find? (c : Command) (name : String) : Option Command :=
  c.subcommands.find? (·.name == name)

/-- Whether an argument names a subcommand, or help. -/
def isSubcommand (c : Command) (arg : String) : Bool :=
  !c.subcommands.isEmpty && (arg == "help" || (c.find? arg).isSome)

/-- What comes of asking for help on subcommands. -/
def helpOn (c : Command) : List String → UsageError
  | [] => .help
  | name :: rest =>
    match c.find? name with
    | some sub => sub.helpOn rest
    | none => if c.isSubcommand name && rest.isEmpty then .help else .unknownSubcommand

/-- A flag, and what it asks for. -/
def flag? (c : Command) (name : String) : Option UsageError :=
  if name == "help" || name == "h" then some .help
  else if c.version.isSome && (name == "version" || name == "V") then some .version
  else none

/-- What is wrong with an argument for which there is no place. -/
def misplaced (c : Command) (p : Progress) (arg : String) : UsageError :=
  if p.onlyOperands && c.isSubcommand arg then .unknownArgument
  else if c.subcommands.isEmpty then .unknownArgument
  else .unknownSubcommand

def meetOperand (c : Command) (p : Progress) (arg : String) : Except UsageError Progress :=
  match p.operands with
  | [] => .error (c.misplaced p arg)
  | o :: operands => do
    let p ← p.resolve
    return { p with pending := some (o, some arg), operands }

/-- The name and the value of an argument that begins with two dashes. -/
def longName (arg : String) : String × Option String :=
  let body := arg.toList.drop 2
  let name := body.takeWhile (· != '=')
  (String.ofList name,
    if name.length < body.length then some (String.ofList (body.drop (name.length + 1))) else none)

/-- Meets an argument that begins with two dashes. -/
def meetLong (c : Command) (p : Progress) (arg : String) : Except UsageError Progress :=
  let (name, value) := longName arg
  match c.options.find? (·.name == name) with
  | some o => p.meet o value
  | none =>
    match if name.length = 1 then none else c.flag? name with
    | none => .error .unknownArgument
    | some e => if value.isSome then .error .unwantedValue else do throw (← p.resolve *> pure e)

/-- Meets an argument that begins with one dash. -/
def meetShort (c : Command) (p : Progress) (arg : String) : Except UsageError Progress :=
  match c.flag? (String.ofList ((arg.toList.drop 1).take 1)) with
  | none => .error .unknownArgument
  | some e => do throw (← p.resolve *> pure e)

/-- Meets an argument that chooses no subcommand. -/
def meet (c : Command) (p : Progress) (arg : String) : Except UsageError Progress :=
  if p.onlyOperands then c.meetOperand p arg
  else if arg == "--" then .ok { p with onlyOperands := true }
  else if arg.startsWith "--" then c.meetLong p arg
  else if arg.startsWith "-" && arg != "-" then c.meetShort p arg
  else match p.awaiting? with
    | some o => .ok { p with pending := some (o, some arg) }
    | none => c.meetOperand p arg

/-- What was given to a command, if no subcommand follows. -/
def finish (c : Command) (p : Progress) : Except UsageError Reading := do
  let p ← p.resolve
  if !c.subcommands.isEmpty then
    throw (if p.values.isEmpty then .nothingGiven else .missingSubcommand)
  if !p.operands.isEmpty then throw .missingOperand
  return { values := p.values }

/-- Puts what was given to a command before what was given to its subcommand. -/
def joined (name : String) (outer : Table String String) (inner : Reading) : Reading :=
  { path := name :: inner.path
    values := inner.values.entries.foldl (fun t e => t.insert e.1 e.2) outer }

/-- Reads the arguments of a command, from where it stands. -/
def readFrom (c : Command) (p : Progress) : List String → Except UsageError Reading
  | [] => c.finish p
  | arg :: rest =>
    if !p.onlyOperands && p.awaiting?.isNone && c.isSubcommand arg then
      match c.find? arg with
      | none => .error (c.helpOn rest)
      | some sub => do
        let inner ← sub.readFrom { operands := sub.operands } rest
        let p ← p.resolve
        return joined sub.name p.values inner
    else do
      let p ← c.meet p arg
      c.readFrom p rest

def read (c : Command) (args : List String) : Except UsageError Reading :=
  c.readFrom { operands := c.operands } args

end Command

end WorkFarm
