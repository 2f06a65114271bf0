import WorkFarm.Heartbeat
import WorkFarm.Timeline
/-!
# The heartbeat in time

Rounds begin at fixed intervals, the first one at once. A worker that does not answer its ping within the
timeout has failed.

## Main definitions

* `Heartbeat.Response` — how a worker answers its pings
* `Rhythm` — a heartbeat with its interval and its timeout
* `Rhythm.take` — what one signal does, and what is due later
* `Heartbeat.Trial` — a heartbeat with workers whose answers are fixed beforehand

## Design

A round that is late by no more than `Rhythm.tolerance` leaves the following ones where they are; the
others are moved, so that a full interval lies between a round that was late and the next. Without an
interval there are no rounds.
-/

namespace WorkFarm

/-- How a worker answers its pings. -/
inductive Heartbeat.Response where
  /-- It answers after so many milliseconds. -/
  | answers (after : Nat)
  | fails
  | silent
deriving DecidableEq, Repr, Inhabited

/-- After how many milliseconds a ping has an outcome, and which. An answer that comes together with the
end of the timeout is in time. -/
def Heartbeat.Response.outcome (timeout : Nat) : Heartbeat.Response → Nat × Bool
  | .answers after => if after ≤ timeout then (after, true) else (timeout, false)
  | .fails => (0, false)
  | .silent => (timeout, false)

/-- A heartbeat in time. -/
structure Rhythm where
  heartbeat : Heartbeat := {}
  /-- The time between two rounds, in milliseconds. -/
  interval : Nat
  /-- The time that a worker has for its answer, in milliseconds. -/
  timeout : Nat
  /-- When the next round is due. -/
  next : Nat := 0

namespace Rhythm

/-- By how many milliseconds a round may be late without moving the following ones. -/
def tolerance : Nat := 5

/-- The first round, if there is one. -/
def opening (r : Rhythm) : Upcoming Heartbeat.Signal :=
  if r.interval = 0 then [] else [(0, .tick)]

/-- Moves on to the round after one that begins now. -/
def advance (now : Nat) (r : Rhythm) : Rhythm :=
  { r with next := (if r.next + tolerance < now then now else r.next) + r.interval }

/-- What the heartbeat has to wait for, and the worker that it reports, if any. -/
def consequence (response : Handle → Heartbeat.Response) (now : Nat) (r : Rhythm) :
    Heartbeat.Act → Upcoming Heartbeat.Signal × Option Handle
  | .ping hs =>
    (hs.map fun h =>
      let (after, alive) := (response h).outcome r.timeout
      (after, .outcome h alive), none)
  | .report h => ([], some h)
  | .rest => ([(r.next - now, .tick)], none)
  | .stop => ([], none)

/-- Takes a signal. A worker that is reported has to be followed by `reported` when the report has been
taken. -/
def take (response : Handle → Heartbeat.Response) (now : Nat) (s : Heartbeat.Signal) (r : Rhythm) :
    (Upcoming Heartbeat.Signal × List Handle) × Rhythm :=
  let r := match s with
    | .tick => r.advance now
    | _ => r
  let (heartbeat, acts) := r.heartbeat.step s
  let followed := acts.map (consequence response now r)
  ((followed.flatMap (·.1), followed.filterMap (·.2)), { r with heartbeat })

end Rhythm

/-- A heartbeat with workers whose answers are fixed beforehand. -/
structure Heartbeat.Trial where
  /-- The heartbeat in time. -/
  rhythm : Rhythm
  /-- How workers answer, if not at once. -/
  responses : Table Nat Heartbeat.Response := ∅
  /-- How long it takes to take a report, in milliseconds. -/
  reporting : Nat := 0
  /-- The reports that were begun, with their times, the last one first. -/
  reports : List (Nat × Handle) := []

namespace Heartbeat.Trial

/-- How a worker answers. -/
def response (t : Trial) (h : Handle) : Response := (t.responses.get? h.serial).getD (.answers 0)

def react : Reaction Signal Trial := fun now s t =>
  let ((events, reported), rhythm) := t.rhythm.take t.response now s
  (events ++ reported.map fun _ => (t.reporting, .reported),
    { t with rhythm, reports := reported.map (fun h => (now, h)) ++ t.reports })

/-- The trial before its first round. -/
def begin (interval timeout reporting : Nat) : Timeline Signal Trial :=
  let rhythm : Rhythm := { interval, timeout }
  ({ state := { rhythm, reporting } : Timeline Signal Trial }).post rhythm.opening

/-- Changes the heartbeat from outside. -/
def modify (f : Heartbeat → Heartbeat) (t : Trial) : Trial :=
  { t with rhythm := { t.rhythm with heartbeat := f t.rhythm.heartbeat } }

end Heartbeat.Trial

end WorkFarm
