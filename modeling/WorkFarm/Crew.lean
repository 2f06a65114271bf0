import WorkFarm.Resource
import WorkFarm.Roster
import WorkFarm.Text.Sorted
import WorkFarm.Word
/-!
# The crew

The crew are the workers that were started inside this process and not yet taken back.

## Main definitions

* `Crew` — the running workers, and the number of the next one
* `Crew.add` — workers are started
* `Crew.release`, `Crew.kill`, `Crew.shutDown` — workers are taken back, ended by force, or let go

## Design

Every worker gets a number of its own, which tells its handle from all others. In its name the number is a
word of 64 bits, which makes the name different from all others until the words have run out.
-/

namespace WorkFarm

/-- The running workers, and the number of the next one. -/
structure Crew where
  /-- What the names of workers begin with. -/
  namePrefix : String
  /-- The number of the next worker. -/
  next : Nat := 0
  /-- The workers that were started and not yet taken back, by name. -/
  running : Table String Handle := ∅
  /-- Whether no worker is started any more. -/
  closed : Bool := false

namespace Crew

/-- The handle of the worker with a number. -/
def handle (c : Crew) (n : Nat) : Handle := ⟨n, c.namePrefix ++ "-" ++ toString (n % wordCount 64)⟩

/-- Starts one worker. -/
def hire (c : Crew) : Handle × Crew :=
  let h := c.handle c.next
  (h, { c with next := c.next + 1, running := c.running.insert h.name h })

/-- Starts `n` workers, one after another. -/
def hireMany (c : Crew) : Nat → List Handle × Crew
  | 0 => ([], c)
  | n + 1 =>
    let (h, c) := c.hire
    let (hs, c) := c.hireMany n
    (h :: hs, c)

/-- Starts the workers of a resource. Only workers inside this process can be started. -/
def add (c : Crew) (r : Resource) : Except ProvisionError (List Handle) × Crew :=
  if c.closed then (.error .shutDown, c)
  else match r with
    | .local count =>
      let (hs, c) := c.hireMany count
      (.ok hs, c)
    | r => (.error (.unsupported
        ("local provisioner cannot start '" ++ r.kind ++ "' resources")), c)

/-- Takes a worker out, if it is running. -/
def remove (c : Crew) (name : String) : Option Handle × Crew :=
  (c.running.get? name, { c with running := c.running.erase name })

/-- Takes workers back; the answer lists those that were running. -/
def release (c : Crew) : List String → List Handle × Crew
  | [] => ([], c)
  | name :: rest =>
    let (h, c) := c.remove name
    let (hs, c) := c.release rest
    (h.toList ++ hs, c)

/-- Ends a worker by force; the answer is its handle, if it was running. -/
def kill (c : Crew) (name : String) : Option Handle × Crew := c.remove name

/-- Starts no worker any more, and lets all go; the answer lists them. -/
def shutDown (c : Crew) : List Handle × Crew :=
  (c.running.values, { c with running := ∅, closed := true })

def names (c : Crew) : List String := Text.sorted c.running.keys

end Crew

end WorkFarm
