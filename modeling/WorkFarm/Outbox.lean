import WorkFarm.Task
import WorkFarm.Order
/-!
# The outbox

The outbox knows which submitted tasks still owe a result, and which results are ready for delivery.

## Main definitions

* `Outbox` — outstanding ids, ids in order of submission, held and available results
* `Outbox.addPending`, `Outbox.addCompleted` — a task that owes a result, and its result
* `Outbox.setOrder` — a change of the order of delivery
* `Outbox.takeOne?`, `Outbox.takeFirst`, `Outbox.takeAll` — results taken for delivery
* `Outbox.restoreFront` — taken results put back

## Design

In order of submission a result is held until no earlier submission is outstanding. The list of
submissions is walked from its front; an id on it that is neither outstanding nor held is stale, for
its result came while order of completion was in force. Stale ids are skipped by the walk, and
dropped all at once when the list has grown past twice the live ids and `slack`.
-/

namespace WorkFarm

/-- The results owed and the results ready for delivery. -/
structure Outbox where
  /-- The order of delivery for results to come. -/
  order : DeliveryOrder := .completion
  /-- The submitted ids whose result has not come. -/
  outstanding : List TaskId := []
  /-- The submitted ids, oldest first, stale ones among them. -/
  submitted : List TaskId := []
  /-- Results that wait for earlier submissions. -/
  held : Table TaskId TaskResult := ∅
  /-- Results ready for delivery, the next one first. -/
  available : List TaskResult := []

namespace Outbox

instance : Inhabited Outbox := ⟨{}⟩

/-- How many entries the list of submissions may have beyond twice the live ones. -/
def slack : Nat := 64

/-- The number of results that are not available yet. -/
def countPending (o : Outbox) : Nat := o.outstanding.length + o.held.size

/-- The number of results ready for delivery. -/
def countAvailable (o : Outbox) : Nat := o.available.length

/-- Whether a result is ready for delivery. -/
def isOneAvailable (o : Outbox) : Bool := !o.available.isEmpty

/-- Whether no result is owed and one is ready for delivery. -/
def areAllAvailable (o : Outbox) : Bool := o.countPending == 0 && o.isOneAvailable

/-- Whether no result is owed and none is ready for delivery. -/
def isEmpty (o : Outbox) : Bool := o.countPending == 0 && !o.isOneAvailable

/-- Whether an id owes a result or has one that is held. -/
def isLive (o : Outbox) (id : TaskId) : Bool := o.outstanding.contains id || o.held.contains id

/-- Notes that a task owes a result, unless it is noted already. -/
def addPending (o : Outbox) (id : TaskId) : Outbox :=
  if o.outstanding.contains id then o
  else { o with outstanding := o.outstanding ++ [id], submitted := o.submitted ++ [id] }

/-- Drops the stale submissions once they outnumber the live ones. -/
def compact (o : Outbox) : Outbox :=
  if o.submitted.length ≤ 2 * o.countPending + slack then o
  else { o with submitted := o.submitted.filter o.isLive }

/-- Walks a list of submissions from the front: held results become available, stale ids are
dropped, and the first outstanding id ends the walk. -/
def releaseFrom (o : Outbox) : List TaskId → Outbox
  | [] => { o with submitted := [] }
  | id :: rest =>
    match o.held.get? id with
    | some r =>
      releaseFrom { o with held := o.held.erase id, available := o.available ++ [r] } rest
    | none =>
      if o.outstanding.contains id then { o with submitted := id :: rest }
      else releaseFrom o rest

/-- Makes every held result available before which no submission is outstanding. -/
def release (o : Outbox) : Outbox := o.releaseFrom o.submitted

/-- Takes in a result: it is available at once in order of completion, and held until its turn in
order of submission. -/
def addCompleted (o : Outbox) (r : TaskResult) : Outbox :=
  let o := { o with outstanding := o.outstanding.erase r.id }
  match o.order with
  | .completion => compact { o with available := o.available ++ [r] }
  | .submission => release { o with held := o.held.insert r.id r }

/-- Makes all held results available, in order of submission; the submissions that stay are those
with a result still outstanding. -/
def releaseAllFrom (o : Outbox) (kept : List TaskId) : List TaskId → Outbox
  | [] => { o with submitted := kept }
  | id :: rest =>
    match o.held.get? id with
    | some r =>
      releaseAllFrom { o with held := o.held.erase id, available := o.available ++ [r] } kept rest
    | none =>
      releaseAllFrom o (if o.outstanding.contains id then kept ++ [id] else kept) rest

/-- Changes the order of delivery for results to come. Available results keep their order; leaving
order of submission makes every held result available. -/
def setOrder (o : Outbox) (order : DeliveryOrder) : Outbox :=
  if o.order = order then o
  else
    let o := { o with order }
    if order = .completion ∧ ¬ o.held.isEmpty then o.releaseAllFrom [] o.submitted else o

/-- Takes the first available result. -/
def takeOne? (o : Outbox) : Option (TaskResult × Outbox) :=
  match o.available with
  | [] => none
  | r :: rest => some (r, { o with available := rest })

/-- Takes the first `k` available results, or all if there are fewer. -/
def takeFirst (o : Outbox) (k : Nat) : List TaskResult × Outbox :=
  (o.available.take k, { o with available := o.available.drop k })

/-- Takes all available results. -/
def takeAll (o : Outbox) : List TaskResult × Outbox := (o.available, { o with available := [] })

/-- Puts results back in front of the available ones. -/
def restoreFront (o : Outbox) (results : List TaskResult) : Outbox :=
  { o with available := results ++ o.available }

/-- Drops everything but the order of delivery. -/
def clear (o : Outbox) : Outbox := { order := o.order }

end Outbox

end WorkFarm
