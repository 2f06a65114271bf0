import WorkFarm.Decimal.Word
import WorkFarm.Record.Settings
/-!
# Loading settings

Settings come from a file in YAML, or are the defaults; variables of the environment then change some of
them, and the outcome has to be valid.

## Main definitions

* `Settings.ofYaml` — the settings that a text describes
* `Settings.override` — the settings as the environment changes them
* `Settings.load` — the whole way
* `Settings.sample` — the defaults, as a file
-/

namespace WorkFarm

/-- The values of the variables that are set. -/
abbrev Environment := Table String String

namespace Settings

/-- The settings that a text describes. -/
def ofYaml (text : String) : Except ConfigError Settings :=
  match Yaml.document text with
  | .error e => .error (.malformed e.message)
  | .ok node =>
    match Record.settings .yaml (.ofYaml node) with
    | some s => .ok s
    | none => .error (.malformed "invalid type or value")

/-- What variables of the environment begin with, unless someone says otherwise. -/
def usualPrefix : String := "TASKFARM"

/-- The names of the variables that change settings, behind what they begin with. -/
def variableNames : List String :=
  ["RESULT_ORDER", "WORKER_COUNT", "WORKER_PREFIX", "POLL_INITIAL_MS", "POLL_MAX_MS",
    "PING_INTERVAL_MS", "PING_TIMEOUT_MS", "LOG_LEVEL", "LOG_FORMAT"]

/-- Lets a variable change the settings, if it is set. -/
def overrideBy (env : Environment) (namePrefix name : String)
    (change : String → Settings → Except String Settings) (s : Settings) :
    Except ConfigError Settings :=
  match env.get? (namePrefix ++ "_" ++ name) with
  | none => .ok s
  | some value =>
    match change value s with
    | .ok s => .ok s
    | .error reason => .error (.environment ("Invalid " ++ name ++ ": " ++ reason))

/-- A change by a word. -/
def byWord (change : Nat → Settings → Settings) (value : String) (s : Settings) :
    Except String Settings :=
  match wordOfText value with
  | .ok n => .ok (change n s)
  | .error e => .error e.message

/-- A change by a keyword; one that is not known is named in the error. -/
def byKeyword {α : Type} (read : String → Option α) (change : α → Settings → Settings)
    (value : String) (s : Settings) : Except String Settings :=
  match read value with
  | some a => .ok (change a s)
  | none => .error value

def byOrder (value : String) (s : Settings) : Except String Settings :=
  match DeliveryOrder.ofText value with
  | .ok order => .ok { s with dispatch.order := order }
  | .error e => .error e.message

/-- The settings as the environment changes them. The first variable with an improper value is
reported. -/
def override (env : Environment) (namePrefix : String) (s : Settings) :
    Except ConfigError Settings := do
  let by_ := overrideBy env namePrefix
  let s ← by_ "RESULT_ORDER" byOrder s
  let s ← by_ "WORKER_COUNT" (byWord fun n s => { s with workers.count := n }) s
  let s ← by_ "WORKER_PREFIX" (fun v s => .ok { s with workers.namePrefix := v }) s
  let s ← by_ "POLL_INITIAL_MS" (byWord fun n s => { s with workers.poll.initialDelay := n * Backoff.millisecond }) s
  let s ← by_ "POLL_MAX_MS" (byWord fun n s => { s with workers.poll.maxDelay := n * Backoff.millisecond }) s
  let s ← by_ "PING_INTERVAL_MS" (byWord fun n s => { s with watch.interval := n }) s
  let s ← by_ "PING_TIMEOUT_MS" (byWord fun n s => { s with watch.timeout := n }) s
  let s ← by_ "LOG_LEVEL" (byKeyword LogLevel.ofText? fun l s => { s with log.level := l }) s
  by_ "LOG_FORMAT" (byKeyword LogFormat.ofText? fun f s => { s with log.format := f }) s

/-- The settings, if they are valid. -/
def checked (s : Settings) : Except ConfigError Settings :=
  match s.check with
  | .ok () => .ok s
  | .error e => .error (.invalid e)

/-- The settings of a file, or the defaults if there is none, as the environment changes them. -/
def load (file : Option (Except FileError String)) (env : Environment)
    (namePrefix : String) : Except ConfigError Settings := do
  let s ← match file with
    | none => pure {}
    | some (.error e) => throw (.file e)
    | some (.ok text) => ofYaml text
  (← s.override env namePrefix).checked

/-! ### The sample -/

/-- The lines of a record in YAML: its fields with their values, or with records below them. -/
inductive Outline where
  /-- A field with a value on its line. -/
  | value (name text : String)
  /-- A field with a record below it. -/
  | group (name : String) (fields : List Outline)

mutual

/-- The text of a field, indented. -/
def Outline.render (indent : String) : Outline → String
  | .value name text => indent ++ name ++ ": " ++ text ++ "\n"
  | .group name fields => indent ++ name ++ ":\n" ++ renderAll (indent ++ "  ") fields

def Outline.renderAll (indent : String) : List Outline → String
  | [] => ""
  | o :: rest => o.render indent ++ renderAll indent rest

end

def growthOutline : Growth Float → List Outline
  | .fixed => [.value "type" "fixed"]
  | .linear => [.value "type" "linear"]
  | .exponential base => [.value "type" "exponential", .value "base" (shortestDecimal base).writtenAsNumber]

def truthText (b : Bool) : String := if b then "true" else "false"

/-- The outline of settings whose memory is empty and whose prefix is a plain word. -/
def outline (s : Settings) : List Outline :=
  [.group "master" [.value "ordering" s.dispatch.order.key],
   .group "worker"
    [.value "count" (toString s.workers.count),
     .value "name_prefix" s.workers.namePrefix,
     .value "memory" "\x7b\x7d",
     .group "poll"
      [.group "strategy" (growthOutline s.workers.poll.growth),
       .value "initial_delay" (toString (s.workers.poll.initialDelay / Backoff.millisecond)),
       .value "max_delay" (toString (s.workers.poll.maxDelay / Backoff.millisecond)),
       .value "jitter" (truthText s.workers.poll.jitter)]],
   .group "watcher"
    [.value "ping_interval" (toString s.watch.interval),
     .value "ping_timeout" (toString s.watch.timeout)],
   .group "logging"
    [.value "level" s.log.level.name,
     .value "format" s.log.format.name]]

/-- The default settings, as a file. -/
def sample : String := Outline.renderAll "" (outline {})

end Settings

end WorkFarm
