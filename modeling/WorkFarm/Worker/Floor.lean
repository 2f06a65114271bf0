import WorkFarm.Timeline
import WorkFarm.Worker.Basic
/-!
# The floor

On the floor workers are at work in time: their tasks take as long as their runner says, and their rests
end when the delay is over. Their calls go to a source of tasks.

## Main definitions

* `Floor` — workers in time, with a log of all that they did
* `Floor.tell`, `Floor.take` — one signal to one worker, and one event
* `Floor.calls`, `Floor.runs`, `Floor.ending?` — what the log says
* `Source`, `Shift` — a source of tasks, and a floor with its source

## Design

Times are milliseconds. A delay is rounded up to the next millisecond. A rest that was ended by the bell
leaves its alarm behind, so alarms carry the number of their rest, and one that belongs to an earlier rest
is passed over.
-/

namespace WorkFarm

universe u

/-- A delay of so many nanoseconds in milliseconds, rounded up. -/
def milliseconds (nanoseconds : Nat) : Nat := (nanoseconds + 999999) / 1000000

/-- What happens on the floor. -/
inductive Floor.Event where
  /-- A worker is told something. -/
  | signal (serial : Nat) (s : Worker.Signal Float)
  /-- The delay of a rest is over. -/
  | alarm (serial : Nat) (rest : Nat)

/-- A worker in time. -/
structure Floor.Place where
  worker : Worker Float
  /-- How many rests it has begun. -/
  rests : Nat := 0

/-- Something that a worker did. -/
structure Floor.Deed where
  time : Nat
  worker : Handle
  act : Worker.Act

/-- A call to the source. -/
structure Floor.Call where
  time : Nat
  worker : Handle
  result : Option TaskResult

/-- The run of a task. -/
structure Floor.Run where
  task : TaskId
  start : Nat
  /-- When it was over, unless it was cut off. -/
  finish : Option Nat

/-- How a worker ended. -/
structure Floor.Ending where
  time : Nat
  /-- How many tasks it had run. -/
  completed : Nat
  reason : StopReason

/-- Workers in time. -/
structure Floor where
  runner : Runner
  /-- The workers, by what tells their handles apart. -/
  places : Table Nat Floor.Place := ∅
  /-- What they did, the last of it first. -/
  log : List Floor.Deed := []

namespace Floor

/-- Puts a worker on the floor. It begins when it is told to. -/
def place (w : Worker Float) (f : Floor) : Floor :=
  { f with places := f.places.insert w.handle.serial { worker := w } }

def isAlive (f : Floor) (h : Handle) : Bool :=
  match f.places.get? h.serial with
  | some p => p.worker.link.alive
  | none => false

def hasEnded (f : Floor) (h : Handle) : Bool :=
  match f.places.get? h.serial with
  | some p => p.worker.hasEnded
  | none => true

/-- What follows from an act when its time has come. -/
def consequence (f : Floor) (p : Place) : Worker.Act → Upcoming Event
  | .work t =>
    [(f.runner.pause t p.worker.memory, .signal p.worker.handle.serial .finish)]
  | .rest delay => [(milliseconds delay, .alarm p.worker.handle.serial p.rests)]
  | _ => []

/-- The call to the source that an act is, if it is one. -/
def callOf? : Worker.Act → Option (Option TaskResult)
  | .ask => some none
  | .handIn r => some (some r)
  | _ => none

/-- Whether an act begins a rest. -/
def isRest : Worker.Act → Bool
  | .rest _ => true
  | _ => false

/-- Tells a worker something. The answer lists what is to come of it, and the calls that the worker
makes. -/
def tell (now : Nat) (serial : Nat) (s : Worker.Signal Float) (f : Floor) :
    (Upcoming Event × List Call) × Floor :=
  match f.places.get? serial with
  | none => (([], []), f)
  | some p =>
    let (worker, acts) := p.worker.step f.runner s
    let p : Place := ⟨worker, p.rests + acts.countP isRest⟩
    let calls := acts.filterMap fun a => (callOf? a).map fun r => ⟨now, worker.handle, r⟩
    let deeds := acts.map fun a => ⟨now, worker.handle, a⟩
    ((acts.flatMap (f.consequence p), calls),
      { f with places := f.places.insert serial p, log := deeds.reverse ++ f.log })

def take (now : Nat) (e : Event) (f : Floor) : (Upcoming Event × List Call) × Floor :=
  match e with
  | .signal serial s => f.tell now serial s
  | .alarm serial rest =>
    match f.places.get? serial with
    | none => (([], []), f)
    | some p => if p.rests = rest then f.tell now serial .alarm else (([], []), f)

def calls (f : Floor) : List Call :=
  f.log.reverse.filterMap fun d => (callOf? d.act).map fun r => ⟨d.time, d.worker, r⟩

/-- When the run of a task was over, as the later deeds of all workers say: its worker then does
something of its own accord. -/
def finishOf? (worker : Handle) : List Deed → Option Nat
  | [] => none
  | d :: rest =>
    if d.worker.serial = worker.serial then
      match d.act with
      | .stop .killed => none
      | _ => some d.time
    else finishOf? worker rest

/-- The runs of tasks that a list of deeds contains, in order. -/
def runsOf : List Deed → List Run
  | [] => []
  | d :: rest =>
    match d.act with
    | .work t => ⟨t.id, d.time, finishOf? d.worker rest⟩ :: runsOf rest
    | _ => runsOf rest

/-- The runs of tasks, in the order in which they began. -/
def runs (f : Floor) : List Run := runsOf f.log.reverse

/-- How a worker ended, if it has. -/
def ending? (f : Floor) (h : Handle) : Option Ending :=
  f.log.findSome? fun d =>
    match d.act with
    | .stop reason =>
      if d.worker.serial = h.serial then
        (f.places.get? h.serial).map fun p => ⟨d.time, p.worker.completed, reason⟩
      else none
    | _ => none

def clearLog (f : Floor) : Floor := { f with log := [] }

end Floor

/-- A source of tasks: after so many milliseconds it answers a call. -/
structure Source (σ : Type u) where
  /-- The answer to a call, and the time that it takes. -/
  answer : Floor.Call → σ → (Nat × Except SourceError Assignment) × σ

/-- A floor, and the state of the source of its tasks. -/
structure Shift (σ : Type u) where
  floor : Floor
  supply : σ

namespace Shift

variable {σ : Type u} (source : Source σ)

/-- Has the source answer a call. Jitter, if there is any, leaves delays as they are. -/
def call (s : Upcoming Floor.Event × Shift σ) (c : Floor.Call) : Upcoming Floor.Event × Shift σ :=
  let ((after, answer), supply) := source.answer c s.2.supply
  (s.1 ++ [(after, .signal c.worker.serial (.reply answer 1))], { s.2 with supply })

def react : Reaction Floor.Event (Shift σ) := fun now e s =>
  let ((events, calls), floor) := s.floor.take now e
  calls.foldl (call source) (events, { s with floor })

end Shift

end WorkFarm
