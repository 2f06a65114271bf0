import WorkFarm.Program.Usage
/-!
# Help on commands

## Main definitions

* `Command.helpText` — how a command is used
* `Command.named` — the command that a list of arguments asks for help on
* `UsageError.message` — what is said when arguments are not accepted
-/

namespace WorkFarm

/-- Fills a text up with blanks. -/
def padRight (width : Nat) (s : String) : String :=
  s ++ String.ofList (List.replicate (width - s.length) ' ')

/-- A list of names with what they are for, in two columns. -/
def twoColumns (rows : List (String × String)) : String :=
  let width := rows.foldl (fun n r => max n r.1.length) 0
  String.join (rows.map fun r => "  " ++ padRight width r.1 ++ "  " ++ r.2 ++ "\n")

namespace Command

/-- How an option is given. -/
def optionForm (o : Parameter) : String := "    --" ++ o.name ++ " <" ++ o.placeholder ++ ">"

/-- What an option is for, with the value that it has if it is not given. -/
def optionAbout (o : Parameter) : String :=
  match o.default with
  | some v => o.about ++ " [default: " ++ v ++ "]"
  | none => o.about

/-- The rows about options and flags. -/
def optionRows (c : Command) : List (String × String) :=
  c.options.map (fun o => (optionForm o, optionAbout o)) ++ [("-h, --help", "Print help")]
    ++ (c.version.map fun _ => ("-V, --version", "Print version")).toList

/-- The line that shows how a command is called; `path` are the names on the way to it. -/
def usageLine (c : Command) (path : List String) : String :=
  let operands := c.operands.map fun o => " <" ++ o.placeholder ++ ">"
  let sub := if c.subcommands.isEmpty then "" else " <COMMAND>"
  "Usage: " ++ " ".intercalate path ++ " [OPTIONS]" ++ String.join operands ++ sub

/-- A heading with rows below it, if there are any. -/
def sectionText (title : String) (rows : List (String × String)) : String :=
  if rows.isEmpty then "" else "\n" ++ title ++ ":\n" ++ twoColumns rows

/-- How a command is used. -/
def helpText (c : Command) (path : List String) : String :=
  let subcommands := if c.subcommands.isEmpty then []
    else c.subcommands.map (fun s => (s.name, s.about))
      ++ [("help", "Print this message or the help of the given subcommand(s)")]
  c.about ++ "\n\n" ++ c.usageLine path ++ "\n"
    ++ sectionText "Commands" subcommands
    ++ sectionText "Arguments" (c.operands.map fun o => ("<" ++ o.placeholder ++ ">", o.about))
    ++ sectionText "Options" c.optionRows

/-- The command that arguments lead to, with the names on the way; what is no subcommand is passed
over. -/
def named (c : Command) (path : List String) : List String → Command × List String
  | [] => (c, path)
  | arg :: rest =>
    match c.find? arg with
    | some sub => sub.named (path ++ [arg]) rest
    | none => c.named path rest

end Command

/-- What is said when arguments are not accepted. -/
def UsageError.message : UsageError → String
  | .help => "help was asked for"
  | .version => "the version was asked for"
  | .nothingGiven => "a subcommand is required but none was given"
  | .missingSubcommand => "a subcommand is required but none was given"
  | .unknownSubcommand => "unrecognized subcommand"
  | .missingOperand => "a required argument was not given"
  | .unknownArgument => "unexpected argument"
  | .missingValue => "a value is required but none was given"
  | .badValue => "invalid value"
  | .repeated => "an argument cannot be used multiple times"
  | .unwantedValue => "a value was given to a flag"

end WorkFarm
