import WorkFarm.Backoff
import WorkFarm.Dispatcher.Request
import WorkFarm.Link
/-!
# Workers

A worker asks for a task, runs it, and hands in the result together with the next request. While there
is nothing to do it rests, until its delay is over or its bell rings.

## Main definitions

* `Runner` — what running a task does
* `Worker` — where a worker stands
* `Worker.Signal`, `Worker.Act` — what a worker is told, and what it does
* `Worker.step`, `Worker.run` — one signal, and many

## Design

A worker is a state and a function on signals. It does not know the time: that a delay is over, that a
task has been run, and that an answer has come, are signals like the others. So every interleaving of
calls, rings and cancellation is a list of signals.

A call is given up when the worker is cancelled, and a task is run to its end. A worker that has been
cancelled makes no call.
-/

namespace WorkFarm

universe u

/-- What running a task does. -/
structure Runner where
  /-- The outcome of a task, and what the worker remembers after it. -/
  perform : Task → Memory → Outcome × Memory
  /-- How long it takes, in milliseconds. -/
  pause : Task → Memory → Nat := fun _ _ => 0

/-- Why a worker has ended. -/
inductive StopReason where
  /-- The dispatcher has stopped. -/
  | terminated
  /-- The worker was taken back. -/
  | cancelled
  /-- It was ended by force. -/
  | killed
deriving DecidableEq, Repr

/-- Where a worker stands. -/
inductive Worker.Phase where
  /-- It has not begun. -/
  | fresh
  /-- It waits for the answer to a call. -/
  | asking
  | working (t : Task)
  /-- It waits for its delay or its bell. -/
  | resting
  | ended (reason : StopReason)

structure Worker (β : Type u) where
  handle : Handle
  /-- What it shares with those who talk to it. -/
  link : Link
  memory : Memory := ∅
  pacer : Pacer β
  /-- Where it stands. -/
  phase : Worker.Phase := .fresh
  /-- How many tasks it has run. -/
  completed : Nat := 0
  /-- Whether it was taken back while it ran a task. -/
  cancelled : Bool := false

namespace Worker

/-- What a worker is told. -/
inductive Signal (β : Type u) where
  | start
  /-- Its call is answered. If it rests then, jitter multiplies the delay by `factor`. -/
  | reply (answer : Except SourceError Assignment) (factor : β)
  | finish
  | alarm
  | ring
  | cancel
  | kill

/-- What a worker does. -/
inductive Act where
  | ask
  /-- It hands in a result and asks for a task. -/
  | handIn (r : TaskResult)
  | work (t : Task)
  /-- It begins to rest; the delay is in nanoseconds. -/
  | rest (delay : Nat)
  | stop (reason : StopReason)

variable {β : Type u}

/-- A worker that has not begun. -/
def new (handle : Handle) (memory : Memory) (backoff : Backoff β) : Worker β :=
  { handle, memory, link := { name := handle.name }, pacer := { backoff } }

def hasEnded (w : Worker β) : Bool :=
  match w.phase with
  | .ended _ => true
  | _ => false

def stop (w : Worker β) (reason : StopReason) : Worker β × List Act :=
  ({ w with phase := .ended reason, link := w.link.stop }, [.stop reason])

def ask (w : Worker β) : Worker β × List Act := ({ w with phase := .asking }, [.ask])

/-- Leaves the bell, having waited for it in vain. -/
def leaveBell (w : Worker β) : Worker β :=
  { w with link := { w.link with bell := w.link.bell.giveUp.2 } }

/-- Begins to rest. A ring that was kept ends the rest at once. -/
def rest [Quantity β] (w : Worker β) (factor : β) : Worker β × List Act :=
  let (delay, pacer) := w.pacer.next factor
  let (rung, bell) := w.link.bell.wait
  let w := { w with pacer, link := { w.link with bell } }
  if rung then
    let (w, acts) := w.ask
    (w, .rest delay :: acts)
  else ({ w with phase := .resting }, [.rest delay])

/-- Takes in the answer to a call. A source that is unavailable has nothing to do now. -/
def takeAnswer [Quantity β] (w : Worker β) (factor : β) :
    Except SourceError Assignment → Worker β × List Act
  | .ok (.task t) => ({ w with phase := .working t, pacer := w.pacer.reset }, [.work t])
  | .ok .noTask => w.rest factor
  | .error (.unavailable _) => w.rest factor
  | .error .terminated => w.stop .terminated

/-- The task has been run: its result is handed in, unless the worker was taken back meanwhile. -/
def finish (runner : Runner) (w : Worker β) (t : Task) : Worker β × List Act :=
  let (outcome, memory) := runner.perform t w.memory
  let w := { w with memory, completed := w.completed + 1 }
  if w.cancelled then w.stop .cancelled
  else ({ w with phase := .asking }, [.handIn ⟨t.id, outcome, w.handle.name⟩])

def hear (w : Worker β) : Worker β × List Act :=
  let (woken, bell) := w.link.bell.ring
  let w := { w with link := { w.link with bell } }
  if woken then w.ask else (w, [])

/-- Takes in one signal. A signal that does not fit where the worker stands is passed over. -/
def step [Quantity β] (runner : Runner) (w : Worker β) (s : Signal β) : Worker β × List Act :=
  match w.phase, s with
  | .ended _, _ => (w, [])
  | _, .kill => w.stop .killed
  | _, .ring => w.hear
  | .fresh, .start => w.ask
  | .fresh, .cancel => w.stop .cancelled
  | .asking, .reply answer factor => w.takeAnswer factor answer
  | .asking, .cancel => w.stop .cancelled
  | .working t, .finish => w.finish runner t
  | .working _, .cancel => ({ w with cancelled := true }, [])
  | .resting, .alarm => w.leaveBell.ask
  | .resting, .cancel => w.leaveBell.stop .cancelled
  | _, _ => (w, [])

/-- Takes in signals, one after another, and lists what the worker does. -/
def run [Quantity β] (runner : Runner) (w : Worker β) : List (Signal β) → Worker β × List Act
  | [] => (w, [])
  | s :: rest =>
    let (w, acts) := w.step runner s
    let (w, more) := run runner w rest
    (w, acts ++ more)

end Worker

end WorkFarm
