import WorkFarm.Order
/-!
# Levels and formats of the log

## Main definitions

* `LogLevel` — how much is logged
* `LogFormat` — how it is laid out
-/

namespace WorkFarm

/-- How much is logged. -/
inductive LogLevel where
  | error
  /-- Warnings too. -/
  | warn
  /-- What happens, too. -/
  | info
  /-- What helps to find mistakes, too. -/
  | debug
  | trace
deriving DecidableEq, Repr, Inhabited

namespace LogLevel

def name : LogLevel → String
  | .error => "error"
  | .warn => "warn"
  | .info => "info"
  | .debug => "debug"
  | .trace => "trace"

def all : List LogLevel := [.error, .warn, .info, .debug, .trace]

/-- The level with this name, in any case; `warning` is another name of `warn`. -/
def ofText? (s : String) : Option LogLevel :=
  let folded := foldCase s
  if folded == "warning" then some .warn else all.find? (folded == ·.name)

def unknown (s : String) : String := "Invalid log level: " ++ s

end LogLevel

/-- How the log is laid out. -/
inductive LogFormat where
  /-- One line for each event. -/
  | text
  /-- Shorter lines. -/
  | compact
  /-- Several lines for each event. -/
  | pretty
  /-- One JSON value for each event. -/
  | json
deriving DecidableEq, Repr, Inhabited

namespace LogFormat

def name : LogFormat → String
  | .text => "text"
  | .compact => "compact"
  | .pretty => "pretty"
  | .json => "json"

def all : List LogFormat := [.text, .compact, .pretty, .json]

/-- The format with this name, in any case. -/
def ofText? (s : String) : Option LogFormat :=
  let folded := foldCase s
  all.find? (folded == ·.name)

def unknown (s : String) : String := "Invalid log format: " ++ s

end LogFormat

end WorkFarm
