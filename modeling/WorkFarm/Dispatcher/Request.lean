import WorkFarm.Order
import WorkFarm.Resource
import WorkFarm.Roster
import WorkFarm.Vault
/-!
# Calls to the dispatcher

Clients, workers and the heartbeat talk to the dispatcher by calls. Every call is answered, most of
them at once; a wait may have to stay until there are results for it.

## Main definitions

* `Request`, `Call` — what is asked, and by whom
* `Wait` — how many results a waiting client wants
* `Priority` — the three classes of calls, in the order in which a batch is served
* `Answer`, `Refusal` — what comes back
* `SourceError` — a refusal, as a worker sees it
-/

namespace WorkFarm

/-- Why a call was not carried out. -/
inductive Refusal where
  /-- Another wait is parked. -/
  | alreadyWaiting
  /-- There will never be `k` results, for only `total` are expected, or `k` is zero. -/
  | invalidWaitCount (k total : Nat)
  /-- The dispatcher has stopped. -/
  | terminated
  /-- A payload could not be stored or had. -/
  | store (e : StoreError)
  /-- No worker was started. -/
  | provision (e : ProvisionError)
deriving DecidableEq, Repr

namespace Refusal

def message : Refusal → String
  | .alreadyWaiting => "A wait request is already pending"
  | .invalidWaitCount k total =>
    "Cannot wait for " ++ toString k ++ " results: " ++ toString total ++ " results are expected"
  | .terminated => "Master has terminated"
  | .store e => "Repository error: " ++ e.message
  | .provision e => "Provisioning error: " ++ e.message

/-- Whether nothing is wrong with the dispatcher, so that another call may do better. -/
def isRejection : Refusal → Bool
  | .alreadyWaiting => true
  | .invalidWaitCount _ _ => true
  | _ => false

end Refusal

/-- A refusal, as a worker sees it. -/
inductive SourceError where
  /-- The source of tasks is gone; the worker should stop. -/
  | terminated
  /-- The source cannot be reached now. -/
  | unavailable (reason : String)
deriving DecidableEq, Repr

def SourceError.message : SourceError → String
  | .terminated => "Master has terminated"
  | .unavailable reason => "Master unavailable: " ++ reason

/-- How a worker sees a refusal. -/
def Refusal.toSourceError : Refusal → SourceError
  | .terminated => .terminated
  | e => .unavailable e.message

/-- How many results a waiting client wants. -/
inductive Wait where
  /-- The next one. -/
  | one
  /-- Every result, once none is owed. -/
  | all
  /-- The next `n`. -/
  | exactly (n : Nat)
deriving DecidableEq, Repr, Inhabited

def Wait.kind : Wait → String
  | .one => "one"
  | .all => "all"
  | .exactly _ => "k"

/-- What is asked of the dispatcher. -/
inductive Request where
  /-- A worker asks for a task. -/
  | requestTask (worker : Handle)
  /-- A worker hands in a result and asks for the next task. -/
  | handIn (result : TaskResult) (worker : Handle)
  /-- The heartbeat reports that a worker has gone silent. -/
  | reportDead (name : String)
  /-- A client submits tasks. -/
  | submit (ids : List TaskId)
  /-- A client changes the order of delivery. -/
  | setOrder (order : DeliveryOrder)
  /-- A client asks how many results are available. -/
  | countAvailable
  /-- A client asks whether nothing is owed and nothing left to collect. -/
  | isEmpty
  /-- A client asks for the number of workers. -/
  | poolSize
  /-- A client asks for more workers. -/
  | addResources (resource : Resource)
  /-- A client stops the dispatcher, and perhaps the workers that were started for it. -/
  | terminate (free : Bool)
  /-- A client waits for results. -/
  | wait (w : Wait)

/-- The classes of calls. Within a batch the calls of a class are served in order of arrival, after
those of the classes before. -/
inductive Priority where
  /-- Calls of workers and of the heartbeat, the only ones that can bring results. -/
  | worker
  /-- Calls of clients that are answered at once. -/
  | client
  /-- Waits. -/
  | wait
deriving DecidableEq, Repr

def Request.priority : Request → Priority
  | .requestTask _ => .worker
  | .handIn _ _ => .worker
  | .reportDead _ => .worker
  | .wait _ => .wait
  | _ => .client

/-- A request, and who is to be answered. -/
structure Call where
  /-- What tells this call from all others. -/
  caller : Nat
  request : Request

def Call.priority (c : Call) : Priority := c.request.priority

/-- What comes back from the dispatcher. -/
inductive Answer where
  /-- The call was carried out, and there is nothing more to say. -/
  | done
  | count (n : Nat)
  | flag (b : Bool)
  | assignment (a : Assignment)
  /-- The result that a client waited for. -/
  | result (r : TaskResult)
  /-- The results that a client waited for. -/
  | results (rs : List TaskResult)
  /-- The call was not carried out. -/
  | refused (e : Refusal)

end WorkFarm
