import WorkFarm.Farm.Basic
import WorkFarm.Proofs.Vault
/-!
# The works

A farm runs on one timeline. The works are the same parts, a dispatcher with its vault, workers and
clients, with nothing to say when anything happens: calls and answers lie about until they arrive, and
whatever can happen next may happen next. What holds after every list of events holds of every
interleaving.

A worker is the state machine of the farm. The calls that it makes go to the inbox, and the answers to
them are on their way until they arrive, in any order, or never. So a worker that was ended by force, or
was reported dead, may still have a call in the inbox, and that call is served like any other. A client
that solves payloads stores them one by one, and then submits the ids that it was given.

The inbox is served one call at a time, in any order; this includes every order in which a dispatcher
serves its batches. A list of the stored payloads is kept on the side. Nothing reads it.

## Main definitions

* `Works` — a dispatcher with its vault, workers, clients, and what is on its way between them
* `Works.Event`, `Works.step`, `Works.run` — what happens
-/

namespace WorkFarm

universe u v

/-- A client that solves payloads. -/
structure Works.Solving where
  /-- The payloads that are still to be stored. -/
  left : List Json
  /-- The ids of those that were. -/
  ids : List TaskId := []

/-- A dispatcher with its vault, workers, clients, and what is on its way between them. -/
structure Works (τ : Type u) (β : Type v) where
  dispatcher : Dispatcher (Vault × τ)
  /-- The workers, by what tells their handles apart. -/
  workers : Table Nat (Worker β) := ∅
  /-- The clients that solve payloads, by what tells their calls apart. -/
  clients : Table Nat Works.Solving := ∅
  /-- What tells the next call from all before. -/
  nextCaller : Nat := 0
  /-- The calls that were not served yet. -/
  inbox : List Call := []
  /-- The answers to workers that did not arrive yet. -/
  replies : List (Nat × Except SourceError Assignment) := []
  /-- What was stored, and under which id. -/
  stored : List (TaskId × Json) := []

namespace Works

/-- What happens. -/
inductive Event (τ : Type u) (β : Type v) where
  /-- A worker comes that has not begun. -/
  | hire (h : Handle) (memory : Memory) (backoff : Backoff β)
  /-- A worker is told something, but not the answer to a call. -/
  | tell (serial : Nat) (s : Worker.Signal β)
  /-- One of the answers on their way arrives. -/
  | reply (i : Nat) (factor : β)
  /-- The call of a worker does not come through. -/
  | unreachable (serial : Nat) (reason : String) (factor : β)
  /-- A client begins to solve payloads. -/
  | solve (payloads : List Json)
  /-- A client that solves payloads stores the next one. -/
  | store (client : Nat)
  /-- A client that has stored all its payloads submits them. -/
  | submit (client : Nat)
  /-- A client or the heartbeat calls for something else. -/
  | call (request : Request)
  /-- One of the calls in the inbox is served. -/
  | serve (present : Attendance) (i : Nat)
  /-- The parked wait is looked at. -/
  | look (present : Attendance)
  /-- Something happens to the other collaborators. -/
  | outside (change : τ → τ)

variable {τ : Type u} {β : Type v}

/-- Works in which nothing has happened. -/
def start (order : DeliveryOrder) (x : τ) : Works τ β := { dispatcher := .start order ({}, x) }

def vault (s : Works τ β) : Vault := s.dispatcher.world.1

/-- Puts a call into the inbox. -/
def post (s : Works τ β) (request : Request) : Works τ β :=
  { s with inbox := s.inbox ++ [⟨s.nextCaller, request⟩], nextCaller := s.nextCaller + 1 }

/-- The call that an act of a worker is, if it is one. -/
def requestOf? (h : Handle) (a : Worker.Act) : Option Request :=
  (Floor.callOf? a).map fun r => Farm.requestOf ⟨0, h, r⟩

/-- Whether a signal is the answer to a call. -/
def isReply : Worker.Signal β → Bool
  | .reply _ _ => true
  | _ => false

/-- Whether a call is made by others than workers and clients that solve payloads. -/
def isOther : Request → Bool
  | .requestTask _ | .handIn _ _ | .submit _ => false
  | _ => true

/-- Tells a worker something; the calls that it makes go to the inbox. -/
def signal [Quantity β] (runner : Runner) (s : Works τ β) (serial : Nat) (told : Worker.Signal β) :
    Works τ β :=
  match s.workers.get? serial with
  | none => s
  | some w =>
    let (w, acts) := w.step runner told
    (acts.filterMap (requestOf? w.handle)).foldl post
      { s with workers := s.workers.insert serial w }

/-- Stores the next payload of a client. -/
def storeNext (s : Works τ β) (client : Nat) : Works τ β :=
  match s.clients.get? client with
  | some ⟨p :: left, ids⟩ =>
    let (id, vault) := s.vault.store p
    { s with
      dispatcher := { s.dispatcher with world := (vault, s.dispatcher.world.2) }
      clients := s.clients.insert client ⟨left, ids ++ [id]⟩
      stored := s.stored ++ [(id, p)] }
  | _ => s

/-- Submits what a client has stored, if it has stored all. -/
def submitAll (s : Works τ β) (client : Nat) : Works τ β :=
  match s.clients.get? client with
  | some ⟨[], ids⟩ =>
    { s with
      clients := s.clients.erase client
      inbox := s.inbox ++ [⟨client, .submit ids⟩] }
  | _ => s

/-- Serves a call. If a worker made it, the answer is on its way. -/
def serve (rest : Collaborators τ) (present : Attendance) (s : Works τ β) (call : Call) : Works τ β :=
  let dispatcher := s.dispatcher.move (.besideVault rest) (.call present call)
  let answer := Farm.replyOf dispatcher.journal.lastAnswer?
  { s with
    dispatcher
    replies := s.replies ++ (call.worker?.map fun h => (h.serial, answer)).toList }

/-- What an event does. An event that does not fit is passed over. -/
def step [Quantity β] (rest : Collaborators τ) (runner : Runner) (s : Works τ β) :
    Event τ β → Works τ β
  | .hire h memory backoff =>
    if s.workers.contains h.serial then s
    else { s with workers := s.workers.insert h.serial (.new h memory backoff) }
  | .tell serial told => if isReply told then s else s.signal runner serial told
  | .reply i factor =>
    match s.replies[i]? with
    | none => s
    | some (serial, answer) =>
      { s with replies := s.replies.eraseIdx i }.signal runner serial (.reply answer factor)
  | .unreachable serial reason factor =>
    s.signal runner serial (.reply (.error (.unavailable reason)) factor)
  | .solve payloads =>
    { s with
      clients := s.clients.insert s.nextCaller ⟨payloads, []⟩
      nextCaller := s.nextCaller + 1 }
  | .store client => s.storeNext client
  | .submit client => s.submitAll client
  | .call request => if isOther request then s.post request else s
  | .serve present i =>
    match s.inbox[i]? with
    | none => s
    | some call => { s with inbox := s.inbox.eraseIdx i }.serve rest present call
  | .look present =>
    { s with dispatcher := s.dispatcher.move (.besideVault rest) (.look present) }
  | .outside change =>
    { s with dispatcher := { s.dispatcher with
        world := (s.dispatcher.world.1, change s.dispatcher.world.2) } }

/-- What happens, one event after another. -/
def run [Quantity β] (rest : Collaborators τ) (runner : Runner) (s : Works τ β)
    (events : List (Event τ β)) : Works τ β :=
  events.foldl (step rest runner) s

end Works

end WorkFarm
