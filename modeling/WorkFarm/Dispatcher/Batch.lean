import WorkFarm.Dispatcher.Basic
/-!
# Batches and runs

The dispatcher takes all calls that wait for it at once, as a batch. It serves the calls of workers
first, then the other calls that are answered at once, and then the waits; within each class the
order of arrival stands.

## Main definitions

* `Dispatcher.inTurn` — a batch in the order in which it is served
* `Dispatcher.serveOrRefuse` — a call is served, or refused by a dispatcher that has stopped
* `Dispatcher.process` — a batch
* `Dispatcher.Batch`, `Dispatcher.run` — many batches

## Design

A call that terminates the dispatcher ends its batch in that everything behind it is refused. Since
calls of workers are served before, only calls of clients and waits stand behind it.
-/

namespace WorkFarm

namespace Dispatcher

universe u

variable {σ : Type u} (c : Collaborators σ)

/-- The calls of a batch in the order in which they are served. -/
def inTurn (batch : List Call) : List Call :=
  batch.filter (·.priority = .worker) ++ batch.filter (·.priority = .client)
    ++ batch.filter (·.priority = .wait)

/-- Serves a call, or refuses it if the dispatcher has stopped. -/
def serveOrRefuse (present : Attendance) (d : Dispatcher σ) (call : Call) : Dispatcher σ :=
  if d.closed then d.answer call.caller (.refused .terminated) else d.serve c present call

/-- Serves a batch, and then looks at the parked wait once more. -/
def process (present : Attendance) (d : Dispatcher σ) (batch : List Call) : Dispatcher σ :=
  ((inTurn batch).foldl (serveOrRefuse c present) d).serveParked present

/-- A batch of calls, and which callers are still there while it is served. -/
structure Batch where
  /-- The calls, in order of arrival. -/
  calls : List Call
  /-- Which callers are still there. -/
  present : Attendance := {}

/-- Serves batches, one after another. -/
def run (d : Dispatcher σ) (batches : List Batch) : Dispatcher σ :=
  batches.foldl (fun d b => d.process c b.present b.calls) d

def clearJournal (d : Dispatcher σ) : Dispatcher σ := { d with journal := [] }

end Dispatcher

end WorkFarm
