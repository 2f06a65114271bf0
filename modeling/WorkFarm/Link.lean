/-!
# Links to workers

A worker that rests is woken by a bell. A ring wakes the one that has waited longest; if nobody waits,
the bell keeps one ring for the next one who comes.

## Main definitions

* `Bell`, with `Bell.ring`, `Bell.wait` and `Bell.giveUp`
* `Link` — the bell of a worker, and whether the worker lives
* `LinkError` — why a worker did not answer a ping

## Design

Those who wait are served in the order in which they came and are not told apart, so it is enough to
count them.
-/

namespace WorkFarm

/-- A bell that keeps at most one ring. -/
structure Bell where
  /-- Whether a ring is kept. -/
  kept : Bool := false
  /-- How many wait. -/
  waiting : Nat := 0
deriving DecidableEq, Repr, Inhabited

namespace Bell

/-- Rings; whether someone was woken. -/
def ring (b : Bell) : Bool × Bell :=
  if 0 < b.waiting then (true, { b with waiting := b.waiting - 1 })
  else (false, { b with kept := true })

/-- Begins to wait; whether a kept ring ended the wait at once. -/
def wait (b : Bell) : Bool × Bell :=
  if b.kept then (true, { b with kept := false }) else (false, { b with waiting := b.waiting + 1 })

/-- Ends the longest wait without a ring; whether someone waited. -/
def giveUp (b : Bell) : Bool × Bell := (0 < b.waiting, { b with waiting := b.waiting - 1 })

end Bell

/-- Why a worker did not answer a ping. -/
inductive LinkError where
  /-- It cannot be reached. -/
  | unreachable (name : String)
  /-- It has stopped. -/
  | stopped (name : String)
deriving DecidableEq, Repr

def LinkError.message : LinkError → String
  | .unreachable name => "Worker " ++ name ++ " is unreachable"
  | .stopped name => "Worker " ++ name ++ " has stopped"

/-- What a worker shares with those who talk to it. -/
structure Link where
  name : String
  bell : Bell := {}
  /-- Whether it lives. -/
  alive : Bool := true
deriving DecidableEq, Repr

namespace Link

/-- Asks whether the worker lives. -/
def ping (l : Link) : Except LinkError Unit :=
  if l.alive then .ok () else .error (.stopped l.name)

/-- Notes that the worker has stopped. -/
def stop (l : Link) : Link := { l with alive := false }

end Link

end WorkFarm
