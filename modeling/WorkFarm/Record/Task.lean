import WorkFarm.Instant
import WorkFarm.Order
import WorkFarm.Record.Decode
import WorkFarm.Resource
import WorkFarm.Task
/-!
# Records of tasks and resources

How tasks, results, resources and memories are written in documents.

## Main definitions

* `Record.task`, `Record.failure`, `Record.result`, `Record.resource`, … — decoders
* `Task.toJson`, `Failure.toJson`, `DatedResult.toJson`, `Resource.toJson`, … — what they are written as
* `DatedResult` — a result with the moment at which its task was done
-/

namespace WorkFarm

/-! ### Writing -/

def TaskId.toJson (id : TaskId) : Json := .nat id.toNat

def Task.toJson (t : Task) : Json := .object [("id", t.id.toJson), ("payload", t.payload)]

def Failure.toJson (f : Failure) : Json :=
  .object (("message", .str f.message) :: (f.details.map fun d => ("details", d)).toList)

def outcomeToJson : Outcome → Json
  | .ok v => .object [("Ok", v)]
  | .error f => .object [("Err", f.toJson)]

/-- The members of the record of a result, but for the moment at which its task was done. -/
def TaskResult.toMembers (r : TaskResult) : List (String × Json) :=
  [("task_id", r.id.toJson), ("outcome", outcomeToJson r.outcome), ("worker", .str r.worker)]

/-- A result, and when its task was done. -/
structure DatedResult where
  result : TaskResult
  /-- When the task was done. -/
  completedAt : Instant

def DatedResult.toJson (r : DatedResult) : Json :=
  .object (r.result.toMembers ++ [("completed_at", .str r.completedAt.toText)])

def Resource.toJson (r : Resource) : Json :=
  .object <| ("type", .str r.kind) :: match r with
    | .local count => [("count", .nat count)]
    | .nodes urls => [("urls", .arr (urls.map .str))]
    | .descriptor path node =>
      ("path", .str path) :: (node.map fun n => ("virtual_node", .str n)).toList

def Memory.toJson (m : Memory) : Json := .object m.entries

/-! ### Reading -/

namespace Record

open Decode

def taskId : Decoder TaskId := fun m d => (word m d).map TaskId.ofNat

def task : Decoder Task := fun m d => do
  let t ← fields? ["id", "payload"] m d
  return ⟨← required taskId m t "id", ← required json m t "payload"⟩

def stage : Decoder Stage := oneOf [.pending, .launched, .completed] Stage.name

def order : Decoder DeliveryOrder := oneOf DeliveryOrder.all DeliveryOrder.key

def failure : Decoder Failure := fun m d => do
  let t ← fields? ["message", "details"] m d
  return ⟨← required text m t "message", ← field (optional json) none m t "details"⟩

/-- An outcome: a mapping with one of two keys. -/
def outcome : Decoder Outcome := fun m d =>
  match d with
  | .map _ [(k, v)] =>
    match k.text? with
    | some "Ok" => (json m.inside v).map .ok
    | some "Err" => (failure m.inside v).map .error
    | _ => none
  | _ => none

def instant : Decoder Instant := fun m d => (text m d).bind Instant.ofText?

def result : Decoder DatedResult := fun m d => do
  let t ← fields? ["task_id", "outcome", "worker", "completed_at"] m d
  return {
    result := {
      id := ← required taskId m t "task_id"
      outcome := ← required outcome m t "outcome"
      worker := ← required text m t "worker" }
    completedAt := ← required instant m t "completed_at" }

def resource : Decoder Resource := fun m d => do
  let (kind, rest) ← tagged? m d
  match kind with
  | "local" =>
    let t ← kindFields? ["count"] rest
    return .local (← required word m t "count")
  | "nodes" =>
    let t ← kindFields? ["urls"] rest
    return .nodes (← required (list text) m t "urls")
  | "descriptor" =>
    let t ← kindFields? ["path", "virtual_node"] rest
    return .descriptor (← required text m t "path") (← field (optional text) none m t "virtual_node")
  | _ => none

def memory : Decoder Memory := fun m d => (members m d).map Table.ofList

end Record

end WorkFarm
