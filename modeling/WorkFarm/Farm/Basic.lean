import WorkFarm.Dispatcher.Batch
import WorkFarm.Farm.Error
import WorkFarm.Farm.Site
/-!
# Farms

A farm is a dispatcher with its site and the workers on the floor, in time. Its clients hand it batches of
calls.

## Main definitions

* `Farm`, `Farm.Event`, `Farm.react` — a farm in time
* `Farm.serve` — a batch of calls
* `Farm.ask`, `Farm.call` — new calls, and a batch of them from outside
* `Farm.start`, `Farm.kill`, `Farm.shutDown` — the life of a farm

## Design

The dispatcher serves each call of a worker as a batch of its own, at once. An answer reaches its worker
behind everything that is due by then; so do the orders that the dispatcher gave, in the order in which it
gave them. Answers to clients are kept in `answers` until they are taken.
-/

namespace WorkFarm

/-- What happens in a farm. -/
inductive Farm.Event where
  /-- Something happens on the floor. -/
  | floor (e : Floor.Event)
  /-- The heartbeat is told something. -/
  | beat (s : Heartbeat.Signal)
  /-- A worker is ended by force. -/
  | kill (name : String)

structure Farm where
  /-- The dispatcher with its site. -/
  dispatcher : Dispatcher Site
  floor : Floor
  settings : WorkerSettings
  /-- What tells the next call from all before. -/
  nextCaller : Nat := 0
  gone : List Nat := []
  /-- The answers that clients have not yet taken. -/
  answers : List (Nat × Answer) := []

namespace Farm

def site (f : Farm) : Site := f.dispatcher.world

def withSite (g : Site → Site) (f : Farm) : Farm :=
  { f with dispatcher := { f.dispatcher with world := g f.dispatcher.world } }

/-- Serves a batch of calls, has the orders carried out, and lists the answers. -/
def serve (calls : List Call) (f : Farm) : (Upcoming Event × List (Nat × Answer)) × Farm :=
  let d := f.dispatcher.process .ofSite f.gone.contains calls
  let (events, floor) := f.floor.obeyAll f.settings d.world.orders
  ((events.map fun e => (e.1, .floor e.2), Journal.answers d.journal),
    { f with floor, dispatcher := d.clearJournal }.withSite fun s => { s with orders := [] })

/-- A number for a new call. -/
def ask (f : Farm) : Nat × Farm := (f.nextCaller, { f with nextCaller := f.nextCaller + 1 })

/-- Serves one call that is made inside the farm, and keeps all other answers for the clients. -/
def serveOne (request : Request) (f : Farm) : (Upcoming Event × Option Answer) × Farm :=
  let (caller, f) := f.ask
  let ((events, answers), f) := f.serve [⟨caller, request⟩]
  ((events, (answers.find? (·.1 == caller)).map (·.2)),
    { f with answers := f.answers ++ answers.filter (·.1 != caller) })

/-- The request that a worker makes. -/
def requestOf (c : Floor.Call) : Request :=
  match c.result with
  | none => .requestTask c.worker
  | some r => .handIn r c.worker

/-- What the worker is told. -/
def replyOf : Option Answer → Except SourceError Assignment
  | some (.assignment a) => .ok a
  | some (.refused e) => .error e.toSourceError
  | _ => .error .terminated

/-- Serves a call of a worker. -/
def serveWorker (s : Upcoming Event × Farm) (c : Floor.Call) : Upcoming Event × Farm :=
  let ((events, answer), f) := s.2.serveOne (requestOf c)
  (s.1 ++ events
    ++ [(0, .floor (.signal c.worker.serial (.reply (replyOf answer) 1)))], f)

/-- Serves a report of the heartbeat. -/
def serveReport (s : Upcoming Event × Farm) (h : Handle) : Upcoming Event × Farm :=
  let ((events, _), f) := s.2.serveOne (.reportDead h.name)
  (s.1 ++ events ++ [(0, .beat .reported)], f)

/-- How a worker answers its pings: at once, as long as it lives. -/
def response (f : Farm) (h : Handle) : Heartbeat.Response :=
  if f.floor.isAlive h then .answers 0 else .fails

/-- Ends a worker by force; whether it was running. -/
def endByForce (name : String) (f : Farm) : Bool × Upcoming Event × Farm :=
  let (h, crew) := f.site.crew.kill name
  let (events, floor) := f.floor.obeyAll f.settings (h.toList.map .kill)
  (h.isSome, events.map fun e => (e.1, .floor e.2),
    { f with floor }.withSite fun s => { s with crew })

def react : Reaction Event Farm := fun now e f =>
  match e with
  | .floor e =>
    let ((events, calls), floor) := f.floor.take now e
    calls.foldl serveWorker (events.map fun e => (e.1, .floor e.2), { f with floor })
  | .beat s =>
    let ((events, reported), rhythm) := f.site.rhythm.take f.response now s
    reported.foldl serveReport
      (events.map fun e => (e.1, .beat e.2), f.withSite fun s => { s with rhythm })
  | .kill name => (f.endByForce name).2

/-! ### Calls from outside -/

/-- A farm in time. -/
abbrev Line := Timeline Event Farm

/-- Hands the dispatcher a batch of calls, if there are any, and waits until nothing is left to do
now. -/
def call (calls : List Call) (t : Line) : Line :=
  let ((), t) := t.act fun f =>
    if calls.isEmpty then ((), [], f)
    else
      let ((events, answers), f) := f.serve calls
      ((), events, { f with answers := f.answers ++ answers })
  t.settle react

/-- Takes the answers that there are. -/
def takeAnswers (t : Line) : List (Nat × Answer) × Line :=
  (t.state.answers, { t with state := { t.state with answers := [] } })

/-- Hands the dispatcher one call; the answer is there if it does not have to wait. -/
def callOne (request : Request) (t : Line) : Option Answer × Line :=
  let (caller, f) := t.state.ask
  let t := call [⟨caller, request⟩] { t with state := f }
  let answer := (t.state.answers.find? (·.1 == caller)).map (·.2)
  (answer, { t with state := { t.state with
    answers := t.state.answers.filter (·.1 != caller) } })

/-- Stores payloads for tasks that are to be submitted. -/
def store (payloads : List Json) (f : Farm) : List TaskId × Farm :=
  let (ids, vault) := f.site.vault.storeAll payloads
  (ids, f.withSite fun s => { s with vault })

/-- A farm on which nothing has happened. -/
def new (runner : Runner) (s : Settings) : Farm :=
  { dispatcher := .start s.dispatch.order (.new s), floor := { runner }, settings := s.workers }

/-- Starts a farm with its workers. -/
def start (runner : Runner) (s : Settings) : Except FarmError Line :=
  match s.check with
  | .error e => .error (.config (.invalid e))
  | .ok () =>
    let f := new runner s
    let t : Line := { state := f }
    let t := (t.post (f.site.rhythm.opening.map fun e => (e.1, .beat e.2))).settle react
    if s.workers.count = 0 then .ok t
    else
      match callOne (.addResources (.local s.workers.count)) t with
      | (some (.refused e), _) => .error (.refused e)
      | (_, t) => .ok t

/-- Ends a worker by force; whether it was running. -/
def kill (name : String) (t : Line) : Bool × Line :=
  let (killed, t) := t.act (endByForce name)
  (killed, t.settle react)

/-- Stops the farm. -/
def shutDown (free : Bool) (t : Line) : Except FarmError Bool × Line :=
  match callOne (.terminate free) t with
  | (some (.refused e), t) => (.error (.refused e), t)
  | (some (.flag b), t) => (.ok b, t)
  | (_, t) => (.error (.crashed "no answer"), t)

end Farm

end WorkFarm
