import WorkFarm.Config.Load
import WorkFarm.Json.Writer
import WorkFarm.Program.Demo
import WorkFarm.Program.Help
/-!
# The program

## Main definitions

* `Surroundings` — the files and variables that the program sees
* `Ending` — how the program ends, with `Ending.output`, `Ending.complaint` and `Ending.exitCode`
* `Arguments.carryOut`, `Program.run` — what it does
-/

namespace WorkFarm

/-- The files and variables that the program sees. -/
structure Surroundings where
  file : String → Except FileError String
  /-- The variables that are set. -/
  environment : Environment

/-- How the program ends. -/
inductive Ending where
  /-- It has shown a text. -/
  | shown (text : String)
  /-- It has shown results. -/
  | delivered (results : List TaskResult)
  | failed (report : Report)
  /-- Its arguments were not accepted. -/
  | misused (e : UsageError)

namespace Ending

def exitCode : Ending → UInt8
  | .shown _ => 0
  | .delivered _ => 0
  | .failed _ => 1
  | .misused _ => 2

/-- The moment from which the clocks of farms count. -/
def beginning : Instant := ⟨⟨1970, 1, 1⟩, 0, 0⟩

/-- A result, as it is shown. -/
def resultLine (r : TaskResult) : String := (DatedResult.mk r beginning).toJson.toText ++ "\n"

/-- What is shown. -/
def output : Ending → String
  | .shown text => text
  | .delivered results => String.join (results.map resultLine)
  | _ => ""

/-- What is said about a failure. -/
def complaint : Ending → String
  | .failed report => report.text
  | .misused e => "error: " ++ e.message ++ "\n"
  | _ => ""

end Ending

namespace Arguments

/-- The file that is read to do what is asked, if any. -/
def file? (a : Arguments) : Option String :=
  match a.job with
  | .run _ => a.config
  | .validate path => some path
  | .sample => none

/-- The settings of a demonstration: those of the file and of the environment, as the arguments change
them. -/
def settings (a : Arguments) (o : RunOptions) (around : Surroundings) :
    Except Report Settings :=
  match Settings.load (a.config.map around.file) around.environment Settings.usualPrefix with
  | .error e => .error ⟨"Failed to load configuration", e.causes⟩
  | .ok s => do
    let level ← match a.logLevel with
      | none => pure s.log.level
      | some text =>
        match LogLevel.ofText? text with
        | some level => pure level
        | none => throw ⟨LogLevel.unknown text, []⟩
    return { s with
      log.level := level
      workers.count := o.workers.getD s.workers.count
      dispatch.order := o.order.getD s.dispatch.order }

/-- Says what is in a file with valid settings. -/
def describe (s : Settings) : String :=
  "Configuration is valid: " ++ toString s.workers.count ++ " workers, "
    ++ s.dispatch.order.name ++ " result order\n"

/-- Does what is asked. -/
def carryOut (a : Arguments) (around : Surroundings) : Ending :=
  match a.job with
  | .sample => .shown Settings.sample
  | .validate path =>
    match Settings.load (some (around.file path)) around.environment Settings.usualPrefix with
    | .ok s => .shown (describe s)
    | .error e => .failed ⟨"Invalid configuration in " ++ path, e.causes⟩
  | .run o =>
    match a.settings o around with
    | .error report => .failed report
    | .ok s =>
      match Demo.run s o with
      | .ok results => .delivered results
      | .error report => .failed report

end Arguments

namespace Program

/-- The text of the help that arguments ask for. -/
def help (args : List String) : String :=
  let (c, path) := Arguments.grammar.named [Arguments.grammar.name] args
  c.helpText path

def version : String :=
  Arguments.grammar.name ++ " " ++ Arguments.grammar.version.getD "" ++ "\n"

/-- Runs the program with arguments. -/
def run (args : List String) (around : Surroundings) : Ending :=
  match Arguments.ofTexts args with
  | .ok a => a.carryOut around
  | .error .help => .shown (help args)
  | .error .version => .shown version
  | .error e => .misused e

end Program

end WorkFarm
