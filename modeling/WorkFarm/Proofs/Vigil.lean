import WorkFarm.Heartbeat
import WorkFarm.Proofs.Moves
/-!
# The vigil

A dispatcher and the heartbeat that watches its workers, with nothing to say when anything happens. The
dispatcher takes its calls from an inbox in batches, and while it serves one, workers and clients go on to
call and the heartbeat goes on with its rounds. A call is served in one go, as is a signal to the heartbeat.
What holds after every list of events holds of every interleaving.

The heartbeat watches instances, but a report names only a worker. It goes to the inbox like any other call,
behind the calls that are waiting. Which instance it is about, and whose calls were waiting when it was sent,
is kept with it on the side. Nothing reads it.

An instance is made once, with its name, so what its name is depends on its serial number only. This is the
parameter `name`; a call that names a worker otherwise is passed over.

## Main definitions

* `Collaborators.besideHeartbeat` — a heartbeat, and any other collaborators
* `Vigil` — a dispatcher, its heartbeat, and the calls that are waiting
* `Vigil.Event`, `Vigil.step`, `Vigil.run` — what happens

## Main statements

* `run_batch` — a batch that is served without interruption is a batch of the dispatcher
-/

namespace WorkFarm

universe u

/-- A worker that calls has the name that it was made with. -/
def Call.Own (name : Nat → String) (call : Call) : Prop := ∀ h ∈ call.worker?, h.name = name h.serial

instance (name : Nat → String) (call : Call) : Decidable (call.Own name) :=
  inferInstanceAs (Decidable (∀ h ∈ call.worker?, h.name = name h.serial))

/-- A heartbeat that takes the errands meant for it, and any other collaborators. -/
def Collaborators.besideHeartbeat {τ : Type u} (rest : Collaborators τ) :
    Collaborators (Heartbeat × τ) where
  fetch id w := ((rest.fetch id w.2).1, (w.1, (rest.fetch id w.2).2))
  stage id w := ((rest.stage id w.2).1, (w.1, (rest.stage id w.2).2))
  evict id w := ((rest.evict id w.2).1, (w.1, (rest.evict id w.2).2))
  watch h w := ((w.1.watch h).1, ((w.1.watch h).2, w.2))
  unwatch h w := (.ok (), (w.1.unwatch h, w.2))
  stopWatching w := (.ok (), (w.1.shutDown, w.2))
  addResources r w := ((rest.addResources r w.2).1, (w.1, (rest.addResources r w.2).2))
  release hs w := ((rest.release hs w.2).1, (w.1, (rest.release hs w.2).2))
  stopProvisioning free w :=
    ((rest.stopProvisioning free w.2).1, (w.1, (rest.stopProvisioning free w.2).2))
  wake h w := (w.1, rest.wake h w.2)

/-- What a death report of the heartbeat is about. -/
structure Vigil.Report where
  /-- The instance that has failed to answer. -/
  failed : Handle
  /-- The instances whose calls were waiting when the report was sent. -/
  waiting : List Handle
deriving DecidableEq

/-- A call that is waiting. -/
structure Vigil.Post where
  call : Call
  /-- What the call is about, if it is a death report of the heartbeat. -/
  report : Option Vigil.Report := none

/-- A dispatcher, its heartbeat, and the calls that are waiting. -/
structure Vigil (τ : Type u) where
  dispatcher : Dispatcher (Heartbeat × τ)
  /-- What tells the next call from all before. -/
  nextCaller : Nat := 0
  /-- The calls that the dispatcher has not taken yet, in order of arrival. -/
  inbox : List Vigil.Post := []
  /-- The calls of the batch that are still to be served, in turn. -/
  batch : List Vigil.Post := []

namespace Vigil

/-- What happens. -/
inductive Event (τ : Type u) where
  /-- A worker or a client calls, or reports a worker on its own account. -/
  | call (request : Request)
  /-- The heartbeat is told something. -/
  | beat (signal : Heartbeat.Signal)
  /-- The dispatcher takes the first calls of its inbox as its next batch. -/
  | draw (n : Nat)
  /-- The next call of the batch is served. -/
  | serve (present : Attendance)
  /-- The parked wait is looked at. -/
  | look (present : Attendance)
  /-- Something happens to the other collaborators. -/
  | outside (change : τ → τ)

variable {τ : Type u}

/-- A vigil in which nothing has happened. -/
def start (order : DeliveryOrder) (x : τ) : Vigil τ := { dispatcher := .start order ({}, x) }

def heartbeat (s : Vigil τ) : Heartbeat := s.dispatcher.world.1

/-- The calls that are waiting, in the order in which they stand now. -/
def queue (s : Vigil τ) : List Post := s.batch ++ s.inbox

/-- The instances whose calls are waiting. -/
def waiting (s : Vigil τ) : List Handle := s.queue.filterMap fun p => p.call.worker?

/-- Puts a call into the inbox. -/
def post (s : Vigil τ) (request : Request) (report : Option Report) : Vigil τ :=
  { s with
    inbox := s.inbox ++ [⟨⟨s.nextCaller, request⟩, report⟩]
    nextCaller := s.nextCaller + 1 }

/-- Reports an instance that has failed to answer, by its name. -/
def report (s : Vigil τ) (failed : Handle) : Vigil τ :=
  s.post (.reportDead failed.name) (some ⟨failed, s.waiting⟩)

/-- Carries out what the heartbeat does: only its reports come to the dispatcher. -/
def act (s : Vigil τ) : Heartbeat.Act → Vigil τ
  | .report failed => s.report failed
  | _ => s

/-- Tells the heartbeat something. -/
def beat (s : Vigil τ) (signal : Heartbeat.Signal) : Vigil τ :=
  let (heartbeat, acts) := s.heartbeat.step signal
  acts.foldl act { s with
    dispatcher := { s.dispatcher with world := (heartbeat, s.dispatcher.world.2) } }

/-- The calls of a batch in the order in which they are served. -/
def inTurn (posts : List Post) : List Post :=
  posts.filter (·.call.priority = .worker) ++ posts.filter (·.call.priority = .client)
    ++ posts.filter (·.call.priority = .wait)

/-- What an event does. An event that does not fit is passed over. -/
def step (rest : Collaborators τ) (name : Nat → String) (s : Vigil τ) : Event τ → Vigil τ
  | .call request => if Call.Own name ⟨s.nextCaller, request⟩ then s.post request none else s
  | .beat signal => s.beat signal
  | .draw n =>
    match s.batch with
    | [] => { s with batch := inTurn (s.inbox.take n), inbox := s.inbox.drop n }
    | _ :: _ => s
  | .serve present =>
    match s.batch with
    | [] => s
    | p :: batch =>
      { s with batch, dispatcher := s.dispatcher.move (.besideHeartbeat rest) (.call present p.call) }
  | .look present =>
    { s with dispatcher := s.dispatcher.move (.besideHeartbeat rest) (.look present) }
  | .outside change =>
    { s with dispatcher := { s.dispatcher with
        world := (s.dispatcher.world.1, change s.dispatcher.world.2) } }

/-- What happens, one event after another. -/
def run (rest : Collaborators τ) (name : Nat → String) (s : Vigil τ) (events : List (Event τ)) :
    Vigil τ :=
  events.foldl (step rest name) s

theorem run_append (rest : Collaborators τ) (name : Nat → String) (s : Vigil τ)
    (events events' : List (Event τ)) :
    s.run rest name (events ++ events') = (s.run rest name events).run rest name events' :=
  List.foldl_append ..

theorem queue_post (s : Vigil τ) (request : Request) (report : Option Report) :
    (s.post request report).queue = s.queue ++ [⟨⟨s.nextCaller, request⟩, report⟩] :=
  (List.append_assoc ..).symm

theorem mem_inTurn {posts : List Post} {p : Post} : p ∈ inTurn posts ↔ p ∈ posts := by
  simp only [inTurn, List.mem_append, List.mem_filter]
  cases p.call.priority <;> simp

theorem step_serve (rest : Collaborators τ) (name : Nat → String) (present : Attendance) {s : Vigil τ}
    {p : Post} {batch : List Post} (next : s.batch = p :: batch) :
    s.step rest name (.serve present) = { s with
      batch
      dispatcher := s.dispatcher.move (.besideHeartbeat rest) (.call present p.call) } := by
  simp only [step, next]

/-! ### A batch without interruption -/

theorem inTurn_calls (posts : List Post) :
    (inTurn posts).map Post.call = Dispatcher.inTurn (posts.map Post.call) := by
  simp [inTurn, Dispatcher.inTurn, List.filter_map, Function.comp_def]

theorem run_serve_all (rest : Collaborators τ) (name : Nat → String) (present : Attendance) (s : Vigil τ) :
    s.run rest name (List.replicate s.batch.length (.serve present)) =
      { s with
        batch := []
        dispatcher := (s.batch.map Post.call).foldl
          (Dispatcher.serveOrRefuse (.besideHeartbeat rest) present) s.dispatcher } := by
  obtain ⟨dispatcher, nextCaller, inbox, batch⟩ := s
  dsimp only
  induction batch generalizing dispatcher with
  | nil => rfl
  | cons p batch ih => exact ih (dispatcher.move (.besideHeartbeat rest) (.call present p.call))

/-- **A batch that is served without interruption** is a batch of the dispatcher: its calls were taken from
the inbox, and the inbox has kept the others. -/
theorem run_batch (rest : Collaborators τ) (name : Nat → String) (present : Attendance) (s : Vigil τ)
    (idle : s.batch = []) (n : Nat) :
    s.run rest name
        (.draw n :: List.replicate (inTurn (s.inbox.take n)).length (.serve present) ++ [.look present])
      = { s with
          inbox := s.inbox.drop n
          dispatcher := s.dispatcher.process (.besideHeartbeat rest) present
            ((s.inbox.take n).map Post.call) } := by
  have drawn : step rest name s (.draw n)
      = { s with batch := inTurn (s.inbox.take n), inbox := s.inbox.drop n } := by
    simp only [step, idle]
  have served := run_serve_all rest name present (step rest name s (.draw n))
  rw [drawn] at served
  rw [List.cons_append, run, List.foldl_cons, drawn, ← run, run_append, served, inTurn_calls]
  obtain ⟨dispatcher, nextCaller, inbox, batch⟩ := s
  obtain rfl : batch = [] := idle
  rfl

end Vigil

end WorkFarm
