import WorkFarm.Json.Basic
import WorkFarm.Table
/-!
# Tasks and their results

A task is an id with a payload. A worker that asks for work is given an assignment, and hands back a
result: the outcome of the task, which is an output or a failure, under the name of the worker.

## Main definitions

* `TaskId`, `Task`, `Stage` — identity, work, and where a submitted task stands
* `Assignment` — the answer to a worker asking for work
* `Failure`, `Outcome`, `TaskResult` — what running a task gives
* `Memory` — what one worker remembers between its tasks
-/

namespace WorkFarm

/-- The identity of a task, a word of 64 bits. -/
structure TaskId where
  val : UInt64
deriving DecidableEq, Repr, Inhabited

namespace TaskId

/-- The id with this number, taken modulo 2^64. -/
def ofNat (n : Nat) : TaskId := ⟨UInt64.ofNat n⟩

def toNat (id : TaskId) : Nat := id.val.toNat

/-- The id that follows; the greatest id is followed by zero. -/
def next (id : TaskId) : TaskId := ⟨id.val + 1⟩

instance : ToString TaskId := ⟨fun id => toString id.toNat⟩

end TaskId

/-- A unit of work. -/
structure Task where
  id : TaskId
  payload : Json
deriving Inhabited

/-- Where a submitted task stands. -/
inductive Stage where
  /-- It waits for a worker. -/
  | pending
  /-- It was handed to a worker, and no result has been accepted. -/
  | launched
  /-- A result has been accepted and not been delivered. -/
  | completed
deriving DecidableEq, Repr

def Stage.name : Stage → String
  | .pending => "pending"
  | .launched => "launched"
  | .completed => "completed"

/-- The answer to a worker asking for work. -/
inductive Assignment where
  | task (t : Task)
  /-- Nothing to do now. -/
  | noTask
deriving Inhabited

namespace Assignment

def isTask : Assignment → Bool
  | .task _ => true
  | .noTask => false

def task? : Assignment → Option Task
  | .task t => some t
  | .noTask => none

def taskId? (a : Assignment) : Option TaskId := a.task?.map Task.id

end Assignment

/-- Why a task failed while it was running. A failed task counts as done. -/
structure Failure where
  message : String
  /-- More about it. -/
  details : Option Json := none
deriving Inhabited

/-- What running a task gives: a failure or an output. -/
abbrev Outcome := Except Failure Json

/-- The outcome of a task, as it travels from the worker to the client. -/
structure TaskResult where
  id : TaskId
  outcome : Outcome
  /-- The name of the worker that ran it. -/
  worker : String

namespace TaskResult

def isSuccess (r : TaskResult) : Bool := r.outcome.isOk

def output? (r : TaskResult) : Option Json := r.outcome.toOption

end TaskResult

/-- What one worker remembers between its tasks. -/
abbrev Memory := Table String Json

/-- Whether two memories hold equal values under the same keys. -/
def Memory.same (m m' : Memory) : Bool :=
  m.size == m'.size && m.entries.all fun e =>
    match m'.get? e.1 with
    | some v => e.2 == v
    | none => false

end WorkFarm
