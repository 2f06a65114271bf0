import WorkFarm.Task
/-!
# The roster

The roster lists the workers that have asked for work. A worker has a name, and every instance of a
worker has a handle of its own: a worker that was restarted keeps its name and has a new handle.

## Main definitions

* `Handle` — one instance of a worker
* `Roster` — handles by name, names by handle, the sleeping workers, the current tasks
* `Roster.register?`, `Roster.remove?`, `Roster.drain` — membership
* `Roster.markSleeping`, `Roster.clearSleeping`, `Roster.sleepers` — who waits to be woken
* `Roster.assign`, `Roster.clearAssignment`, `Roster.assignment?` — who works on what

## Design

Only `register?`, `remove?` and `drain` change membership, and they change both directions of it
together. Sleeping names are kept sorted, which is the order in which they are woken.
-/

namespace WorkFarm

/-- One instance of a worker. -/
structure Handle where
  /-- What tells this instance from all others. -/
  serial : Nat
  name : String
deriving DecidableEq, Repr, Inhabited

/-- The registered workers, which of them sleep, and what each is working on. -/
structure Roster where
  /-- The registered instance under each name. -/
  byName : Table String Handle := ∅
  /-- The name of each registered instance. -/
  byHandle : Table Nat String := ∅
  /-- The names of the sleeping workers, sorted. -/
  sleeping : List String := []
  /-- The current task of each worker that has one. -/
  assignments : Table String TaskId := ∅
deriving Repr, Inhabited

namespace Roster

/-- Writes a name into a sorted list, once. -/
def insertName (name : String) : List String → List String
  | [] => [name]
  | n :: rest =>
    if name = n then n :: rest
    else if name < n then name :: n :: rest
    else n :: insertName name rest

/-- The registered instance under a name. -/
def handle? (r : Roster) (name : String) : Option Handle := r.byName.get? name

def size (r : Roster) : Nat := r.byName.size

/-- Adds an instance, unless its name or the instance itself is registered. -/
def register? (r : Roster) (h : Handle) : Option Roster :=
  if r.byName.contains h.name ∨ r.byHandle.contains h.serial then none
  else some { r with
    byName := r.byName.insert h.name h
    byHandle := r.byHandle.insert h.serial h.name }

/-- Notes that a registered worker sleeps. -/
def markSleeping (r : Roster) (name : String) : Roster :=
  if r.byName.contains name then { r with sleeping := insertName name r.sleeping } else r

/-- Notes that a worker does not sleep. -/
def clearSleeping (r : Roster) (name : String) : Roster :=
  { r with sleeping := r.sleeping.filter (· ≠ name) }

/-- Notes what a worker is working on. -/
def assign (r : Roster) (name : String) (id : TaskId) : Roster :=
  { r with assignments := r.assignments.insert name id }

/-- Notes that a worker works on nothing. -/
def clearAssignment (r : Roster) (name : String) : Roster :=
  { r with assignments := r.assignments.erase name }

/-- What a worker is working on. -/
def assignment? (r : Roster) (name : String) : Option TaskId := r.assignments.get? name

/-- The registered instances that sleep, in order of their names. -/
def sleepers (r : Roster) : List Handle := r.sleeping.filterMap r.handle?

/-- Takes the worker with this name out; the result is its instance and what it was working on. -/
def remove? (r : Roster) (name : String) : Option (Handle × Option TaskId × Roster) :=
  (r.handle? name).map fun h =>
    (h, r.assignment? name,
      { byName := r.byName.erase name
        byHandle := r.byHandle.erase h.serial
        sleeping := r.sleeping.filter (· ≠ name)
        assignments := r.assignments.erase name })

/-- Takes every worker out. -/
def drain (r : Roster) : List Handle × Roster := (r.byName.values, {})

end Roster

end WorkFarm
