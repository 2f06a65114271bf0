import WorkFarm.Worker.Floor
/-!
# Trials of workers

A worker is tried out with a source whose answers are fixed beforehand, while it is rung or taken back at
given times.

## Main definitions

* `Source.ofAnswers`, `Source.ofTasks`, `Source.stopped` — sources without a dispatcher
* `Worker.Trial` — the worker, its answers, and what is done to it
* `Worker.Trial.run` — the floor after the trial
-/

namespace WorkFarm

namespace Source

/-- A source that gives answers one after another, each after its time. Behind the last of them it has
stopped. -/
def ofAnswers : Source (List (Nat × Except SourceError Assignment)) where
  answer _
    | [] => ((0, .error .terminated), [])
    | a :: rest => (a, rest)

/-- A source that hands out tasks in order, and then has nothing to do. -/
def ofTasks : Source (List Task) where
  answer _
    | [] => ((0, .ok .noTask), [])
    | t :: rest => ((0, .ok (.task t)), rest)

/-- A source that has stopped. -/
def stopped : Source (List Task) where
  answer _ tasks := ((0, .error .terminated), tasks)

end Source

/-- A trial of one worker. -/
structure Worker.Trial where
  runner : Runner
  worker : Worker Float
  /-- The answers of its source. -/
  answers : List (Nat × Except SourceError Assignment)
  /-- What is done to it, with the times. -/
  signals : List (Nat × Worker.Signal Float)
  /-- How long it is observed, if nothing is done to it later. -/
  length : Nat

namespace Worker.Trial

/-- The floor after the trial. What is done to the worker is done after everything that is due at that
time. -/
def run (t : Trial) : Floor :=
  let serial := t.worker.handle.serial
  let react := Shift.react Source.ofAnswers
  let start : Timeline Floor.Event (Shift _) :=
    { state := { floor := { runner := t.runner : Floor }.place t.worker, supply := t.answers } }
  let start := start.post [(0, .signal serial .start)]
  let busy := t.signals.foldl
    (fun line s => (line.advanceTo react s.1).post [(0, .signal serial s.2)]) start
  (busy.advanceTo react t.length).state.floor

end Worker.Trial

end WorkFarm
