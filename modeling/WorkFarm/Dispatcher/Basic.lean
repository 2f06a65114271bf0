import WorkFarm.Backlog
import WorkFarm.Outbox
import WorkFarm.Dispatcher.Journal
/-!
# The dispatcher

The dispatcher is the single authority over tasks, workers and results. It is a state and a function
that serves a batch of calls; everything else that the farm needs is asked of collaborators.

## Main definitions

* `Collaborators` — who keeps payloads, watches workers and provides them
* `Attendance` — which callers of waits are still there
* `Desk` — what the dispatcher remembers
* `Dispatcher` — the desk, the state of the collaborators, and the journal
* `Dispatcher.dispatch` — the oldest pending task, handed to a worker
* `Dispatcher.acceptResult`, `Dispatcher.reportDead` — the other calls of workers
* `Dispatcher.submit`, `Dispatcher.terminate` — calls of clients
* `Dispatcher.serveParked`, `Dispatcher.park` — waits

## Design

A collaborator answers with a value or an error and a new state of its own, so any pattern of failures
is a choice of collaborators. The failure of an errand never stops the dispatcher: a payload that
cannot be had puts its task back in front, and every other failure is passed over.

Whether the caller of a wait is still there is given from outside as an `Attendance`, and is asked at
the moment in which the wait is looked at. A caller that has not gone receives its answer, unless it
leaves between the look and the answer: then the results that were taken for it are put back.
-/

namespace WorkFarm

universe u

/-- The collaborators of the dispatcher, with states of type `σ`. -/
structure Collaborators (σ : Type u) where
  /-- Reads the payload of a task. -/
  fetch : TaskId → σ → Except StoreError Task × σ
  /-- Moves the payload of a task out of the way. -/
  stage : TaskId → σ → Except StoreError Unit × σ
  /-- Removes the payload of a task. -/
  evict : TaskId → σ → Except StoreError Unit × σ
  /-- Begins to watch a worker. -/
  watch : Handle → σ → Except WatchError Unit × σ
  /-- Ends watching a worker. -/
  unwatch : Handle → σ → Except WatchError Unit × σ
  /-- Ends watching for good. -/
  stopWatching : σ → Except WatchError Unit × σ
  /-- Starts workers. -/
  addResources : Resource → σ → Except ProvisionError Unit × σ
  /-- Takes workers back. -/
  release : List Handle → σ → Except ProvisionError Unit × σ
  /-- Starts no workers any more, and takes all back if it is told to free them. -/
  stopProvisioning : Bool → σ → Except ProvisionError Unit × σ
  /-- Wakes a worker. -/
  wake : Handle → σ → σ

/-- Which callers of waits are still there when a wait is looked at. -/
structure Attendance where
  gone : Nat → Bool := fun _ => false
  /-- Which callers leave after the look, before the answer comes. -/
  leaves : Nat → Bool := fun _ => false

instance : Coe (Nat → Bool) Attendance := ⟨fun gone => { gone }⟩

/-- What the dispatcher remembers. -/
structure Desk where
  backlog : Backlog := {}
  outbox : Outbox := {}
  roster : Roster := {}
  /-- The wait that stays until there are results for it, with its caller. -/
  parked : Option (Nat × Wait) := none
  closed : Bool := false
deriving Inhabited

/-- The desk, the state of the collaborators, and what was done. -/
structure Dispatcher (σ : Type u) extends Desk where
  /-- The state of the collaborators. -/
  world : σ
  journal : Journal := []

namespace Dispatcher

variable {σ : Type u} (c : Collaborators σ)

/-- A dispatcher that has done nothing. -/
def start (order : DeliveryOrder) (world : σ) : Dispatcher σ :=
  { outbox := { order }, world }

def record (d : Dispatcher σ) (e : Entry) : Dispatcher σ :=
  { d with journal := d.journal ++ [e] }

def answer (d : Dispatcher σ) (caller : Nat) (a : Answer) : Dispatcher σ :=
  d.record (.answered caller a)

/-- Sends a collaborator on an errand. -/
def send {ε α : Type} (d : Dispatcher σ) (e : Errand) (run : σ → Except ε α × σ) :
    Except ε α × Dispatcher σ :=
  let (outcome, world) := run d.world
  (outcome, { d with world }.record (.errand e outcome.isOk))

/-- Wakes every sleeping worker, in order of their names. They go on to sleep for the roster until
they call. -/
def wakeSleepers (d : Dispatcher σ) : Dispatcher σ :=
  d.roster.sleepers.foldl
    (fun d h => { d with world := c.wake h d.world }.record (.errand (.wake h) true)) d

/-- Puts a launched task back behind the pending ones. If there were none, the sleeping workers are
woken for it. -/
def requeue (d : Dispatcher σ) (id : TaskId) : Dispatcher σ :=
  match d.backlog.requeue? id with
  | none => d
  | some backlog =>
    let wasEmpty := d.backlog.pending.isEmpty
    let d := { d with backlog }
    if wasEmpty then d.wakeSleepers c else d

/-- Takes a worker off the roster, ends watching it, and puts its task back. The result is the
instance that was registered. -/
def retire (d : Dispatcher σ) (name : String) : Option Handle × Dispatcher σ :=
  match d.roster.remove? name with
  | none => (none, d)
  | some (h, assigned, roster) =>
    let (_, d) := { d with roster }.send (.unwatch h) (c.unwatch h)
    match assigned with
    | none => (some h, d)
    | some id => (some h, d.requeue c id)

/-- Registers a worker that calls. An instance that is registered stays so; an instance with the name
of another one takes its place, for that one must be gone. -/
def register (d : Dispatcher σ) (h : Handle) : Dispatcher σ :=
  match d.roster.handle? h.name with
  | some known => if known.serial = h.serial then d else enroll (d.retire c h.name).2
  | none => enroll d
where
  /-- Registers an instance whose name is free, and begins to watch it. -/
  enroll (d : Dispatcher σ) : Dispatcher σ :=
    match d.roster.register? h with
    | none => d
    | some roster => ({ d with roster }.send (.watch h) (c.watch h)).2

/-- Puts a worker to sleep: there is nothing for it to do. -/
def putToSleep (d : Dispatcher σ) (name : String) : Dispatcher σ :=
  { d with roster := (d.roster.clearAssignment name).markSleeping name }

/-- Notes that a task was taken from the backlog for a worker. -/
def launch (d : Dispatcher σ) (name : String) (id : TaskId) (backlog : Backlog) : Dispatcher σ :=
  { d with backlog, roster := (d.roster.clearSleeping name).assign name id }

/-- Puts a task back in front of the pending ones. -/
def putBack (d : Dispatcher σ) (id : TaskId) : Dispatcher σ :=
  { d with backlog := (d.backlog.restoreFront? id).getD d.backlog }

/-- Hands the oldest pending task to a worker, or puts the worker to sleep. A task whose payload
cannot be had goes back to where it was. -/
def dispatch (d : Dispatcher σ) (h : Handle) : Assignment × Dispatcher σ :=
  let d := d.register c h
  match d.backlog.launchNext? with
  | none => (.noTask, d.putToSleep h.name)
  | some (id, backlog) =>
    match (d.launch h.name id backlog).send (.fetch id) (c.fetch id) with
    | (.ok task, d) => (.task task, (d.send (.stage id) (c.stage id)).2)
    | (.error _, d) => (.noTask, (d.putBack id).putToSleep h.name)

/-- Takes in a result, unless its task is not launched: such a result is late, and is discarded. -/
def acceptResult (d : Dispatcher σ) (r : TaskResult) (h : Handle) : Dispatcher σ :=
  match d.backlog.complete? r.id with
  | none => d
  | some backlog =>
    let roster :=
      if d.roster.assignment? h.name = some r.id then d.roster.clearAssignment h.name else d.roster
    let d := { d with backlog, roster, outbox := d.outbox.addCompleted r }.record (.accepted r)
    (d.send (.evict r.id) (c.evict r.id)).2

/-- Retires a worker that was reported dead, and has it taken back. -/
def reportDead (d : Dispatcher σ) (name : String) : Dispatcher σ :=
  match d.retire c name with
  | (none, d) => d
  | (some h, d) => (d.send (.release [h]) (c.release [h])).2

/-- Submits one id, unless it is known. -/
def submitOne (d : Dispatcher σ) (id : TaskId) : Dispatcher σ :=
  match d.backlog.enqueue? id with
  | none => d
  | some backlog => { d with backlog, outbox := d.outbox.addPending id }.record (.admitted id)

/-- Submits ids, one after another. If there were no pending tasks and now there are, the sleeping
workers are woken. -/
def submit (d : Dispatcher σ) (ids : List TaskId) : Dispatcher σ :=
  let wasEmpty := d.backlog.pending.isEmpty
  let d := ids.foldl submitOne d
  if wasEmpty && !d.backlog.pending.isEmpty then d.wakeSleepers c else d

/-- Lets the collaborators go: nobody is watched any more, all workers are taken back, and no more of
them are provided. -/
def letGo (d : Dispatcher σ) (workers : List Handle) (free : Bool) : Dispatcher σ :=
  let d := workers.foldl (fun d h => (d.send (.unwatch h) (c.unwatch h)).2) d
  let d := if workers.isEmpty then d else (d.send (.release workers) (c.release workers)).2
  let d := (d.send .stopWatching c.stopWatching).2
  (d.send (.stopProvisioning free) (c.stopProvisioning free)).2

/-- Refuses the parked wait, if there is one. -/
def refuseParked (d : Dispatcher σ) : Dispatcher σ :=
  match d.parked with
  | none => d
  | some (caller, _) => { d with parked := none }.answer caller (.refused .terminated)

/-- Stops: forgets all tasks, results and workers, lets the collaborators go, and refuses a parked
wait. -/
def terminate (d : Dispatcher σ) (free : Bool) : Dispatcher σ :=
  let (workers, roster) := d.roster.drain
  let d := { d with backlog := {}, outbox := d.outbox.clear, roster, closed := true }
  (d.letGo c workers free).refuseParked

/-- Delivers results that were taken from the outbox: their tasks are forgotten. If the caller has
left, the results are put back instead. -/
def deliver (present : Attendance) (d : Dispatcher σ) (caller : Nat) (a : Answer) (rs : List TaskResult)
    (outbox : Outbox) : Dispatcher σ :=
  if present.leaves caller then
    { d with outbox := outbox.restoreFront rs, parked := none }.record (.dropped caller)
  else
    let backlog := rs.foldl (fun b r => b.forgetCompleted r.id) d.backlog
    { d with backlog, outbox, parked := none }.answer caller a

/-- Looks at the parked wait. If its caller has gone it is dropped; if there are results for it, or
can never be enough, it is answered; otherwise it stays. -/
def serveParked (present : Attendance) (d : Dispatcher σ) : Dispatcher σ :=
  match d.parked with
  | none => d
  | some (caller, w) =>
    if present.gone caller then { d with parked := none }.record (.dropped caller)
    else match w with
    | .one =>
      match d.outbox.takeOne? with
      | none => d
      | some (r, outbox) => d.deliver present caller (.result r) [r] outbox
    | .all =>
      if d.outbox.areAllAvailable then
        let (rs, outbox) := d.outbox.takeAll
        d.deliver present caller (.results rs) rs outbox
      else d
    | .exactly k =>
      let total := d.outbox.countPending + d.outbox.countAvailable
      if k = 0 ∨ total < k then
        { d with parked := none }.answer caller (.refused (.invalidWaitCount k total))
      else if d.outbox.countAvailable < k then d
      else
        let (rs, outbox) := d.outbox.takeFirst k
        d.deliver present caller (.results rs) rs outbox

/-- Answers a wait if there are results for it, and parks it otherwise. It is rejected only if
another wait has to stay parked. -/
def park (present : Attendance) (d : Dispatcher σ) (caller : Nat) (w : Wait) : Dispatcher σ :=
  let d := d.serveParked present
  if d.parked.isSome then d.answer caller (.refused .alreadyWaiting)
  else { d with parked := some (caller, w) }.serveParked present

/-- Serves one call. -/
def serve (present : Attendance) (d : Dispatcher σ) (call : Call) : Dispatcher σ :=
  match call.request with
  | .requestTask h =>
    let (a, d) := d.dispatch c h
    d.answer call.caller (.assignment a)
  | .handIn r h =>
    let (a, d) := (d.acceptResult c r h).dispatch c h
    d.answer call.caller (.assignment a)
  | .reportDead name => (d.reportDead c name).answer call.caller .done
  | .submit ids => (d.submit c ids).answer call.caller .done
  | .setOrder order =>
    { d with outbox := d.outbox.setOrder order }.answer call.caller .done
  | .countAvailable => d.answer call.caller (.count d.outbox.countAvailable)
  | .isEmpty => d.answer call.caller (.flag d.outbox.isEmpty)
  | .poolSize => d.answer call.caller (.count d.roster.size)
  | .addResources r =>
    match d.send (.addResources r) (c.addResources r) with
    | (.ok _, d) => d.answer call.caller .done
    | (.error e, d) => d.answer call.caller (.refused (.provision e))
  | .terminate free => (d.terminate c free).answer call.caller (.flag true)
  | .wait w => d.park present call.caller w

end Dispatcher

end WorkFarm
