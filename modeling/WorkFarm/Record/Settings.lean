import WorkFarm.Config.Settings
import WorkFarm.Record.Task
/-!
# Records of settings

How settings are written in documents. Every field may be missing, and then has its default.

## Main definitions

* `Record.settings` and the decoders of its parts
* `Settings.toJson` and the records of its parts
-/

namespace WorkFarm

/-! ### Writing -/

def Growth.toJson : Growth Float → Json
  | .fixed => .object [("type", .str "fixed")]
  | .linear => .object [("type", .str "linear")]
  | .exponential base => .object [("type", .str "exponential"), ("base", .float base)]

def DispatchSettings.toJson (s : DispatchSettings) : Json :=
  .object [("ordering", .str s.order.key)]

def PollSettings.toJson (s : PollSettings) : Json :=
  .object [("strategy", s.growth.toJson), ("initial_delay", .nat (s.initialDelay / Backoff.millisecond)),
    ("max_delay", .nat (s.maxDelay / Backoff.millisecond)), ("jitter", .bool s.jitter)]

def WorkerSettings.toJson (s : WorkerSettings) : Json :=
  .object [("count", .nat s.count), ("name_prefix", .str s.namePrefix),
    ("memory", s.memory.toJson), ("poll", s.poll.toJson)]

def WatchSettings.toJson (s : WatchSettings) : Json :=
  .object [("ping_interval", .nat s.interval), ("ping_timeout", .nat s.timeout)]

def LogSettings.toJson (s : LogSettings) : Json :=
  .object [("level", .str s.level.name), ("format", .str s.format.name)]

def Settings.toJson (s : Settings) : Json :=
  .object [("master", s.dispatch.toJson), ("worker", s.workers.toJson),
    ("watcher", s.watch.toJson), ("logging", s.log.toJson)]

/-! ### Reading -/

namespace Record

open Decode

def growth : Decoder (Growth Float) := fun m d => do
  let (kind, rest) ← tagged? m d
  match kind with
  | "fixed" => if isBare rest then some .fixed else none
  | "linear" => if isBare rest then some .linear else none
  | "exponential" =>
    let t ← kindFields? ["base"] rest
    return .exponential (← required float m t "base")
  | _ => none

/-- A time in milliseconds. -/
def delay : Decoder Nat := fun m d => (word m d).map (· * Backoff.millisecond)

def pollSettings : Decoder PollSettings := fun m d => do
  let t ← fields? ["strategy", "initial_delay", "max_delay", "jitter"] m d
  let default : PollSettings := {}
  return {
    growth := ← field growth default.growth m t "strategy"
    initialDelay := ← field delay default.initialDelay m t "initial_delay"
    maxDelay := ← field delay default.maxDelay m t "max_delay"
    jitter := ← field truth default.jitter m t "jitter" }

def dispatchSettings : Decoder DispatchSettings := fun m d => do
  let t ← fields? ["ordering"] m d
  return { order := ← field order .completion m t "ordering" }

def workerSettings : Decoder WorkerSettings := fun m d => do
  let t ← fields? ["count", "name_prefix", "memory", "poll"] m d
  let default : WorkerSettings := {}
  return {
    count := ← field word default.count m t "count"
    namePrefix := ← field text default.namePrefix m t "name_prefix"
    memory := ← field memory default.memory m t "memory"
    poll := ← field pollSettings default.poll m t "poll" }

def watchSettings : Decoder WatchSettings := fun m d => do
  let t ← fields? ["ping_interval", "ping_timeout"] m d
  let default : WatchSettings := {}
  return {
    interval := ← field word default.interval m t "ping_interval"
    timeout := ← field word default.timeout m t "ping_timeout" }

def logLevel : Decoder LogLevel := oneOf LogLevel.all LogLevel.name

def logFormat : Decoder LogFormat := oneOf LogFormat.all LogFormat.name

def logSettings : Decoder LogSettings := fun m d => do
  let t ← fields? ["level", "format"] m d
  return { level := ← field logLevel .info m t "level"
           format := ← field logFormat .text m t "format" }

def settings : Decoder Settings := fun m d => do
  let t ← fields? ["master", "worker", "watcher", "logging"] m d
  return {
    dispatch := ← field dispatchSettings {} m t "master"
    workers := ← field workerSettings {} m t "worker"
    watch := ← field watchSettings {} m t "watcher"
    log := ← field logSettings {} m t "logging" }

end Record

end WorkFarm
