import WorkFarm.Task
/-!
# The backlog

The backlog knows the stage of every submitted task, and the order in which pending tasks are
handed out: oldest first. A task stays known until its result has been delivered.

## Main definitions

* `Backlog` — the pending ids in order, and the stage of every known id
* `Backlog.enqueue?` — a new id at the back
* `Backlog.launchNext?` — the oldest pending id, launched
* `Backlog.complete?` — a launched id, done
* `Backlog.requeue?`, `Backlog.restoreFront?` — a launched id, pending again, at the back or the front
* `Backlog.forgetCompleted` — a completed id, no longer known
-/

namespace WorkFarm

/-- The stage of every known task, and the pending ones in the order in which they are served. -/
structure Backlog where
  /-- The pending ids, the next one first. -/
  pending : List TaskId := []
  /-- The stage of every known id. -/
  stages : Table TaskId Stage := ∅
deriving Repr, Inhabited

namespace Backlog

def stage? (b : Backlog) (id : TaskId) : Option Stage := b.stages.get? id

def knows (b : Backlog) (id : TaskId) : Bool := b.stages.contains id

/-- Whether an id has been handed out and not been completed. -/
def isLaunched (b : Backlog) (id : TaskId) : Bool := b.stage? id = some .launched

/-- Puts a new id at the back of the pending ones, unless it is known. -/
def enqueue? (b : Backlog) (id : TaskId) : Option Backlog :=
  if b.knows id then none
  else some { pending := b.pending ++ [id], stages := b.stages.insert id .pending }

/-- Launches the oldest pending id, if there is one. -/
def launchNext? (b : Backlog) : Option (TaskId × Backlog) :=
  match b.pending with
  | [] => none
  | id :: rest => some (id, { pending := rest, stages := b.stages.insert id .launched })

/-- Completes an id, if it is launched. -/
def complete? (b : Backlog) (id : TaskId) : Option Backlog :=
  if b.isLaunched id then some { b with stages := b.stages.insert id .completed } else none

/-- Puts an id back behind all pending ones, if it is launched. -/
def requeue? (b : Backlog) (id : TaskId) : Option Backlog :=
  if b.isLaunched id then
    some { pending := b.pending ++ [id], stages := b.stages.insert id .pending }
  else none

/-- Puts an id back in front of all pending ones, if it is launched. -/
def restoreFront? (b : Backlog) (id : TaskId) : Option Backlog :=
  if b.isLaunched id then
    some { pending := id :: b.pending, stages := b.stages.insert id .pending }
  else none

/-- Forgets an id, if it is completed. -/
def forgetCompleted (b : Backlog) (id : TaskId) : Backlog :=
  if b.stage? id = some .completed then { b with stages := b.stages.erase id } else b

/-! ### What each operation does to the stages -/

theorem isSome_enqueue? (b : Backlog) (id : TaskId) :
    (b.enqueue? id).isSome ↔ b.stage? id = none := by
  rcases h : b.stage? id with _ | s
  · have : b.stages.get? id = none := h
    simp [enqueue?, knows, Table.contains, this]
  · have : b.stages.get? id = some s := h
    simp [enqueue?, knows, Table.contains, this]

theorem isSome_complete? (b : Backlog) (id : TaskId) :
    (b.complete? id).isSome ↔ b.stage? id = some .launched := by
  simp [complete?, isLaunched]

theorem isSome_requeue? (b : Backlog) (id : TaskId) :
    (b.requeue? id).isSome ↔ b.stage? id = some .launched := by
  simp [requeue?, isLaunched]

theorem stage?_enqueue? {b b' : Backlog} {id : TaskId} (h : b.enqueue? id = some b') (j : TaskId) :
    b'.stage? j = if j = id then some .pending else b.stage? j := by
  unfold enqueue? at h
  split at h
  · cases h
  · cases h; exact Table.get?_insert ..

theorem stage?_launchNext? {b b' : Backlog} {id : TaskId} (h : b.launchNext? = some (id, b'))
    (j : TaskId) : b'.stage? j = if j = id then some .launched else b.stage? j := by
  unfold launchNext? at h
  split at h
  · cases h
  · cases h; exact Table.get?_insert ..

theorem stage?_complete? {b b' : Backlog} {id : TaskId} (h : b.complete? id = some b') (j : TaskId) :
    b'.stage? j = if j = id then some .completed else b.stage? j := by
  unfold complete? at h
  split at h
  · cases h; exact Table.get?_insert ..
  · cases h

theorem stage?_requeue? {b b' : Backlog} {id : TaskId} (h : b.requeue? id = some b') (j : TaskId) :
    b'.stage? j = if j = id then some .pending else b.stage? j := by
  unfold requeue? at h
  split at h
  · cases h; exact Table.get?_insert ..
  · cases h

theorem stage?_restoreFront? {b b' : Backlog} {id : TaskId} (h : b.restoreFront? id = some b')
    (j : TaskId) : b'.stage? j = if j = id then some .pending else b.stage? j := by
  unfold restoreFront? at h
  split at h
  · cases h; exact Table.get?_insert ..
  · cases h

theorem stage?_forgetCompleted (b : Backlog) (id j : TaskId) :
    (b.forgetCompleted id).stage? j
      = if j = id ∧ b.stage? id = some .completed then none else b.stage? j := by
  unfold forgetCompleted
  by_cases h : b.stage? id = some .completed
  · simp only [h, if_true, and_true]; exact Table.get?_erase ..
  · simp [h]

end Backlog

end WorkFarm
