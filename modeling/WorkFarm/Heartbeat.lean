import WorkFarm.Dispatcher.Journal
import WorkFarm.Roster
import WorkFarm.Table
/-!
# The heartbeat

The heartbeat pings every watched worker in rounds. Once all pings of a round are answered, or have
failed, the workers that failed are reported, one after another. A worker that was let go meanwhile is
not reported.

## Main definitions

* `Heartbeat` — the watched workers, and where the round stands
* `Heartbeat.watch`, `Heartbeat.unwatch`, `Heartbeat.shutDown`, `Heartbeat.drop` — calls from outside
* `Heartbeat.Signal`, `Heartbeat.step` — the rounds
* `Heartbeat.Act` — what the heartbeat does

## Design

Like a worker, the heartbeat does not know the time. That a round begins, that a ping has an outcome,
and that a report has been taken, are signals. Removing a worker, looking whether the heartbeat has been
shut down, and beginning the report are one step.
-/

namespace WorkFarm

/-- Where the round of a heartbeat stands. -/
inductive Heartbeat.Round where
  /-- The next round has not begun. -/
  | waiting
  /-- Pings are out; those with an outcome have been answered in time or have failed. -/
  | pinging (outcomes : List (Handle × Option Bool))
  /-- A report is being taken; the others of the round are still to be looked at. -/
  | reporting (rest : List (Handle × Bool))
  /-- There are no more rounds. -/
  | over

/-- The watched workers, and where the round stands. -/
structure Heartbeat where
  /-- The watched workers, by what tells their handles apart. -/
  watched : Table Nat Handle := ∅
  /-- Whether the heartbeat has been shut down. -/
  closed : Bool := false
  /-- Where the round stands. -/
  round : Heartbeat.Round := .waiting

namespace Heartbeat

instance : Inhabited Heartbeat := ⟨{}⟩

/-- What the heartbeat is told about its rounds. -/
inductive Signal where
  | tick
  /-- A worker has answered in time, or has failed to. -/
  | outcome (h : Handle) (alive : Bool)
  /-- The report has been taken. -/
  | reported

/-- What the heartbeat does. -/
inductive Act where
  | ping (hs : List Handle)
  | report (h : Handle)
  /-- It waits for its next round. -/
  | rest
  | stop

/-- Begins to watch a worker. -/
def watch (h : Handle) (b : Heartbeat) : Except WatchError Unit × Heartbeat :=
  if b.closed then (.error .shutDown, b)
  else (.ok (), { b with watched := b.watched.insert h.serial h })

/-- Ends watching a worker. -/
def unwatch (h : Handle) (b : Heartbeat) : Heartbeat :=
  { b with watched := b.watched.erase h.serial }

/-- Ends watching for good. -/
def shutDown (b : Heartbeat) : Heartbeat := { b with closed := true, watched := ∅ }

/-- Nobody holds the heartbeat any more. -/
def drop (b : Heartbeat) : Heartbeat := { b with closed := true }

def count (b : Heartbeat) : Nat := b.watched.size

/-- The round is over: the next one is waited for, unless there is none. -/
def endRound (b : Heartbeat) : Heartbeat × Act :=
  if b.closed then ({ b with round := .over }, .stop) else ({ b with round := .waiting }, .rest)

/-- Looks at the outcomes of a round, one after another, up to the next one that is reported. -/
def settle (b : Heartbeat) : List (Handle × Bool) → Heartbeat × Act
  | [] => b.endRound
  | (_, true) :: rest => b.settle rest
  | (h, false) :: rest =>
    if b.watched.contains h.serial then
      let b := b.unwatch h
      if b.closed then b.settle rest else ({ b with round := .reporting rest }, .report h)
    else b.settle rest

/-- Begins a round. If nobody is watched, it is over at once. -/
def begin (b : Heartbeat) : Heartbeat × Act :=
  if b.closed || b.watched.isEmpty then b.endRound
  else
    let targets := b.watched.values
    ({ b with round := .pinging (targets.map fun h => (h, none)) }, .ping targets)

/-- The outcomes of a round, if no ping is out any more. -/
def outcomes? (pings : List (Handle × Option Bool)) : Option (List (Handle × Bool)) :=
  pings.mapM fun (h, o) => o.map fun alive => (h, alive)

/-- Takes in one signal. A signal that does not fit where the round stands is passed over. -/
def step (b : Heartbeat) (s : Signal) : Heartbeat × List Act :=
  match b.round, s with
  | .waiting, .tick =>
    let (b, act) := b.begin
    (b, [act])
  | .pinging pings, .outcome h alive =>
    let pings := pings.map fun p => if p.1 = h then (h, p.2.or (some alive)) else p
    match outcomes? pings with
    | none => ({ b with round := .pinging pings }, [])
    | some outcomes =>
      let (b, act) := b.settle outcomes
      (b, [act])
  | .reporting rest, .reported =>
    let (b, act) := b.settle rest
    (b, [act])
  | _, _ => (b, [])

end Heartbeat

end WorkFarm
