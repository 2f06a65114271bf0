import WorkFarm.Backoff
import WorkFarm.Config.Error
import WorkFarm.Log.Level
import WorkFarm.Task
import WorkFarm.Text.Blank
/-!
# Settings

The settings of a farm have four parts. Times are in milliseconds, except for the delays of workers, which are
in nanoseconds. How a delay grows is told in numbers that are a parameter (`Quantity`).

## Main definitions

* `DispatchSettings`, `WorkerSettings`, `WatchSettings`, `LogSettings` — the parts
* `Settings` — all of them
* `Settings.check` — whether they are valid
-/

namespace WorkFarm

structure DispatchSettings where
  order : DeliveryOrder := .completion
deriving DecidableEq

/-- When a worker that found nothing to do asks again. -/
structure PollSettings (β : Type := Float) [Quantity β] where
  growth : Growth β := .exponential (Quantity.ofNat 2)
  /-- The first delay, in nanoseconds. -/
  initialDelay : Nat := 50 * Backoff.millisecond
  /-- The longest delay, in nanoseconds. -/
  maxDelay : Nat := 2000 * Backoff.millisecond
  /-- Whether delays are spread at random. -/
  jitter : Bool := true

structure WorkerSettings (β : Type := Float) [Quantity β] where
  /-- The number of workers that are started with the farm. -/
  count : Nat := 4
  /-- What the names of workers begin with. -/
  namePrefix : String := "worker"
  /-- What every worker remembers at first. -/
  memory : Memory := ∅
  /-- When a worker that found nothing to do asks again. -/
  poll : PollSettings β := {}

structure WatchSettings where
  /-- The time between two rounds of pings. -/
  interval : Nat := 1000
  /-- The time that a worker has for its answer. -/
  timeout : Nat := 500
deriving DecidableEq

structure LogSettings where
  /-- How much is logged. -/
  level : LogLevel := .info
  /-- How it is laid out. -/
  format : LogFormat := .text
deriving DecidableEq

structure Settings where
  dispatch : DispatchSettings := {}
  workers : WorkerSettings := {}
  watch : WatchSettings := {}
  log : LogSettings := {}

/-! ### Validity -/

namespace Check

/-- A text that must not be blank. -/
def notBlank (domain field value : String) : Except DomainError Unit :=
  if Text.isBlank value then .error ⟨domain, field ++ " cannot be empty"⟩ else .ok ()

/-- A number that must be positive; `shown` is its text. -/
def positive (domain field : String) (isPositive : Bool) (shown : String) :
    Except DomainError Unit :=
  if isPositive then .ok ()
  else .error ⟨domain, field ++ " must be greater than 0, got " ++ shown⟩

/-- An integer that must be positive. -/
def positiveInt (domain field : String) (n : Int) : Except DomainError Unit :=
  positive domain field (0 < n) (toString n)

/-- A floating-point number that must be positive; what is undefined passes. -/
def positiveFloat (domain field : String) (x : Float) : Except DomainError Unit :=
  positive domain field (!(x ≤ 0)) (Decimal.positional x)

/-- A condition on several fields. -/
def ensure (domain : String) (holds : Bool) (message : String) : Except DomainError Unit :=
  if holds then .ok () else .error ⟨domain, message⟩

end Check

def DispatchSettings.domain : String := "master"

def WorkerSettings.domain : String := "worker"

def WatchSettings.domain : String := "watcher"

def LogSettings.domain : String := "logging"

section

variable {β : Type} [Quantity β]

/-- An exponential delay must not shrink. -/
def Growth.check : Growth β → Except DomainError Unit
  | .exponential base =>
    Check.ensure WorkerSettings.domain (Quantity.atLeast base (Quantity.ofNat 1))
      ("poll.strategy base must be at least 1.0, got " ++ Quantity.shown base)
  | _ => .ok ()

def WorkerSettings.check (s : WorkerSettings β) : Except DomainError Unit := do
  Check.notBlank domain "name_prefix" s.namePrefix
  Check.positiveInt domain "poll.initial_delay" (s.poll.initialDelay / Backoff.millisecond : Nat)
  Check.ensure domain (s.poll.initialDelay ≤ s.poll.maxDelay)
    "poll.max_delay must not be below poll.initial_delay"
  s.poll.growth.check

/-- The delays of a worker. -/
def PollSettings.backoff (p : PollSettings β) : Backoff β where
  growth := p.growth
  initial := p.initialDelay
  longest := p.maxDelay
  jitter := p.jitter

end

def WatchSettings.check (s : WatchSettings) : Except DomainError Unit := do
  Check.positiveInt domain "ping_interval" s.interval
  Check.positiveInt domain "ping_timeout" s.timeout
  Check.ensure domain (s.timeout ≤ s.interval) "ping_timeout must not exceed ping_interval"

/-- Whether the settings are valid. The settings of the dispatcher and of the log always are. -/
def Settings.check (s : Settings) : Except DomainError Unit := do
  s.workers.check
  s.watch.check

/-! ### Equality -/

/-- Equality of ways to grow; an undefined base differs from itself. -/
def Growth.same : Growth Float → Growth Float → Bool
  | .fixed, .fixed => true
  | .linear, .linear => true
  | .exponential a, .exponential b => a == b
  | _, _ => false

/-- Equality of settings, in which numbers are compared as numbers. -/
def Settings.same (s t : Settings) : Bool :=
  s.dispatch == t.dispatch && s.workers.count == t.workers.count
    && s.workers.namePrefix == t.workers.namePrefix && s.workers.memory.same t.workers.memory
    && s.workers.poll.growth.same t.workers.poll.growth
    && s.workers.poll.initialDelay == t.workers.poll.initialDelay
    && s.workers.poll.maxDelay == t.workers.poll.maxDelay
    && s.workers.poll.jitter == t.workers.poll.jitter
    && s.watch == t.watch && s.log == t.log

end WorkFarm
