import WorkFarm.Task
import WorkFarm.Json.Reader
import WorkFarm.Json.Writer
/-!
# The vault

The vault stores the payloads of tasks. A payload is hot while its task waits, and staged once the
task has been handed out: it is then kept as text, and read back if it is needed again.

## Main definitions

* `Vault` — hot and staged payloads, and the next id
* `Vault.store`, `Vault.insert` — a payload under a new id, or under a given one
* `Vault.fetch` — the task with an id
* `Vault.stage`, `Vault.evict` — a payload moved out of the way, or removed
* `StoreError` — why a payload could not be had

## Design

The text of a value stands for that value and for nothing else, so the staged payload is kept as the
value whose text it is. What the text adds is that a reader gives up on a value that is nested deeper
than `Json.nestingLimit`.
-/

namespace WorkFarm

/-- Why a payload could not be had. -/
inductive StoreError where
  /-- There is none with this id. -/
  | notFound (id : TaskId)
  /-- Its text could not be written or read. -/
  | unreadable (id : TaskId) (reason : String)
  /-- The storage itself failed. -/
  | backend (reason : String)
deriving DecidableEq, Repr

def StoreError.message : StoreError → String
  | .notFound id => "Task not found in repository: " ++ toString id
  | .unreadable id reason =>
    "Failed to (de)serialize task " ++ toString id ++ ": " ++ reason
  | .backend reason => "Repository backend error: " ++ reason

/-- The payloads of the known tasks. -/
structure Vault where
  /-- Payloads of tasks that were not handed out. -/
  hot : Table TaskId Json := ∅
  /-- Payloads of tasks that were handed out. -/
  staged : Table TaskId Json := ∅
  /-- The id for the next payload that is stored. -/
  nextId : TaskId := ⟨1⟩
deriving Inhabited

namespace Vault

/-- What is said about a text that is nested too deep: the reader stops at the first bracket beyond
the limit, which is the one behind `n` bytes. -/
def tooDeep (n : Nat) : String := "recursion limit exceeded at line 1 column " ++ toString (n + 1)

def size (v : Vault) : Nat := v.hot.size + v.staged.size

/-- Whether there is a payload with this id. -/
def contains (v : Vault) (id : TaskId) : Bool := v.hot.contains id || v.staged.contains id

/-- Stores a payload under the next id. -/
def store (v : Vault) (payload : Json) : TaskId × Vault :=
  (v.nextId, { v with hot := v.hot.insert v.nextId payload, nextId := v.nextId.next })

/-- Stores a payload under an id of the caller's choice. Ids given out later are greater, as long as
there are greater ones. -/
def insert (v : Vault) (id : TaskId) (payload : Json) : Vault :=
  { hot := v.hot.insert id payload
    staged := v.staged.erase id
    nextId := if v.nextId.val < id.next.val then id.next else v.nextId }

/-- The task with this id. -/
def fetch (v : Vault) (id : TaskId) : Except StoreError Task :=
  match v.hot.get? id with
  | some payload => .ok ⟨id, payload⟩
  | none =>
    match v.staged.get? id with
    | none => .error (.notFound id)
    | some payload =>
      match payload.beyond? Json.nestingLimit with
      | none => .ok ⟨id, payload⟩
      | some n => .error (.unreadable id (tooDeep n))

/-- Stages a payload; one that is staged stays so. -/
def stage (v : Vault) (id : TaskId) : Except StoreError Vault :=
  match v.hot.get? id with
  | some payload =>
    .ok { v with hot := v.hot.erase id, staged := v.staged.insert id payload }
  | none => if v.staged.contains id then .ok v else .error (.notFound id)

def evict (v : Vault) (id : TaskId) : Except StoreError Vault :=
  if v.contains id then .ok { v with hot := v.hot.erase id, staged := v.staged.erase id }
  else .error (.notFound id)

end Vault

end WorkFarm
