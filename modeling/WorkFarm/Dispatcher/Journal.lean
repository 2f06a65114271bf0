import WorkFarm.Dispatcher.Request
/-!
# The journal of the dispatcher

The journal lists what the dispatcher did, in order: the errands on which it sent its collaborators,
the answers it gave, and which submissions and results it accepted.

## Main definitions

* `Errand` — a call to a collaborator
* `Entry` — one thing that was done
* `Journal.errands`, `Journal.answers` — parts of a journal
* `WatchError` — why the heartbeat did not take an errand
-/

namespace WorkFarm

/-- Why the heartbeat did not take an errand. -/
inductive WatchError where
  /-- It has stopped. -/
  | shutDown
  | failed (reason : String)
deriving DecidableEq, Repr

def WatchError.message : WatchError → String
  | .shutDown => "Watcher has been shut down"
  | .failed reason => "Watcher error: " ++ reason

/-- A call of the dispatcher to one of its collaborators. -/
inductive Errand where
  /-- The payload of a task is wanted. -/
  | fetch (id : TaskId)
  /-- The payload of a task was handed out. -/
  | stage (id : TaskId)
  /-- The payload of a task is wanted no more. -/
  | evict (id : TaskId)
  /-- A worker is to be watched. -/
  | watch (h : Handle)
  /-- A worker is to be watched no more. -/
  | unwatch (h : Handle)
  /-- Nobody is to be watched any more. -/
  | stopWatching
  /-- More workers are wanted. -/
  | addResources (r : Resource)
  /-- Workers are wanted no more. -/
  | release (hs : List Handle)
  /-- No worker is wanted any more. -/
  | stopProvisioning (free : Bool)
  /-- A worker is to be woken. -/
  | wake (h : Handle)
deriving DecidableEq, Repr

/-- One thing that the dispatcher did. -/
inductive Entry where
  /-- It sent a collaborator on an errand, which went well or failed. -/
  | errand (e : Errand) (wentWell : Bool)
  /-- It answered a call. -/
  | answered (caller : Nat) (a : Answer)
  /-- It dropped a wait whose caller had gone. -/
  | dropped (caller : Nat)
  /-- It accepted a submission: the id was not known. -/
  | admitted (id : TaskId)
  /-- It accepted a result: the task was launched. -/
  | accepted (r : TaskResult)

/-- What the dispatcher did, in order. -/
abbrev Journal := List Entry

namespace Journal

def errands (j : Journal) : List Errand :=
  j.filterMap fun
    | .errand e _ => some e
    | _ => none

def answers (j : Journal) : List (Nat × Answer) :=
  j.filterMap fun
    | .answered caller a => some (caller, a)
    | _ => none

end Journal

end WorkFarm
