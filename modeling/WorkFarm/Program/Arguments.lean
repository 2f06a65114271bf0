import WorkFarm.Decimal.Word
import WorkFarm.Order
import WorkFarm.Program.Usage
/-!
# The arguments of the program

## Main definitions

* `Arguments` — what the program is asked to do
* `Arguments.grammar` — what can be asked
* `Arguments.ofTexts` — reading arguments
-/

namespace WorkFarm

/-- What a demonstration is asked to do. -/
structure RunOptions where
  tasks : Nat := 20
  /-- The number of workers, if not the one in the settings. -/
  workers : Option Nat := none
  /-- The order of delivery, if not the one in the settings. -/
  order : Option DeliveryOrder := none
  /-- The worker that is ended by force. -/
  kill : Option String := none
  /-- After how many milliseconds it is ended. -/
  killAfter : Nat := 30
deriving DecidableEq, Repr

/-- What the program does. -/
inductive Job where
  /-- A farm is run on squares. -/
  | run (options : RunOptions)
  /-- The default settings are shown. -/
  | sample
  /-- The settings in a file are looked at. -/
  | validate (path : String)
deriving DecidableEq, Repr

/-- What the program is asked to do. -/
structure Arguments where
  /-- The file with the settings. -/
  config : Option String := none
  /-- How much is logged, if not what the settings say. -/
  logLevel : Option String := none
  job : Job
deriving DecidableEq, Repr

namespace Arguments

/-- A path must not be empty. -/
def checkPath (value : String) : Option UsageError :=
  if value.isEmpty then some .missingValue else none

/-- A number must be a word. -/
def checkWord (value : String) : Option UsageError :=
  if (wordOfText value).isOk then none else some .badValue

/-- An order must have a known name. -/
def checkOrder (value : String) : Option UsageError :=
  if (DeliveryOrder.ofText value).isOk then none else some .badValue

/-- The options that can be given to every command. -/
def general : List Parameter :=
  [ { name := "config", placeholder := "PATH", about := "Path to configuration file"
      check := checkPath },
    { name := "log-level", placeholder := "LEVEL"
      about := "Set the log level (trace, debug, info, warn, error)" } ]

def ofRun : List Parameter :=
  [ { name := "tasks", placeholder := "N", about := "Number of tasks to submit"
      check := checkWord, default := some "20" },
    { name := "workers", placeholder := "W"
      about := "Number of local workers (overrides configuration)", check := checkWord },
    { name := "order", placeholder := "ORDER"
      about := "Result order: completion or submission (overrides configuration)"
      check := checkOrder },
    { name := "kill", placeholder := "WORKER"
      about := "Abort this worker mid-run to exercise recovery (example: --kill worker-0)" },
    { name := "kill-after-ms", placeholder := "MS", about := "Delay before --kill fires"
      check := checkWord, default := some "30" } ]

/-- Puts lists together, taking from each in turn. -/
def alternate : List Parameter → List Parameter → List Parameter
  | [], os => os
  | o :: rest, os => o :: (os.take 1 ++ alternate rest (os.drop 1))

/-- What can be asked of the program. -/
def grammar : Command where
  name := "taskfarm"
  about := "Taskfarm CLI app"
  version := some "0.2.0"
  options := general
  subcommands :=
    [ { name := "run", about := "Run a demo farm squaring numbers on local workers"
        options := alternate general ofRun },
      { name := "config", about := "Inspect configuration", options := general
        subcommands :=
          [ { name := "sample", about := "Print the default configuration as YAML"
              options := general },
            { name := "validate", about := "Load and validate a configuration file"
              options := general
              operands := [{ name := "path", placeholder := "PATH"
                             about := "Path to the configuration file", check := checkPath }] }] }]

/-- The word that was given under a name. -/
def word? (values : Table String String) (name : String) : Option Nat :=
  (values.get? name).bind fun v => (wordOfText v).toOption

/-- The options of a demonstration that were given. -/
def runOptions (values : Table String String) : RunOptions where
  tasks := (word? values "tasks").getD 20
  workers := word? values "workers"
  order := (values.get? "order").bind fun v => (DeliveryOrder.ofText v).toOption
  kill := values.get? "kill"
  killAfter := (word? values "kill-after-ms").getD 30

/-- The job that was chosen. -/
def jobOf (r : Reading) : Job :=
  match r.path with
  | ["config", "validate"] => .validate ((r.values.get? "path").getD "")
  | ["config", "sample"] => .sample
  | _ => .run (runOptions r.values)

def ofTexts (args : List String) : Except UsageError Arguments :=
  (grammar.read args).map fun r =>
    { config := r.values.get? "config", logLevel := r.values.get? "log-level", job := jobOf r }

end Arguments

end WorkFarm
