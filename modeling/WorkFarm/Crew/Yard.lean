import WorkFarm.Config.Settings
import WorkFarm.Crew
import WorkFarm.Worker.Floor
/-!
# The yard

In the yard the crew is at work: workers that are started begin on the floor, and workers that are taken
back, ended or let go leave it.

## Main definitions

* `Crew.Order` — what is to be done with one worker
* `Floor.obey` — an order is carried out
* `Yard` — a crew, a floor and a source
* `Yard.add`, `Yard.release`, `Yard.kill`, `Yard.shutDown` — the calls to the crew
-/

namespace WorkFarm

universe u

/-- What is to be done with one worker. -/
inductive Crew.Order where
  | hire (h : Handle)
  /-- Its bell is rung. -/
  | ring (h : Handle)
  | cancel (h : Handle)
  | kill (h : Handle)
deriving DecidableEq, Repr

namespace Floor

/-- Carries out an order: what happens on the floor because of it, at once, and the floor with the workers
that were started. -/
def obey (settings : WorkerSettings) (o : Crew.Order) (f : Floor) : Upcoming Event × Floor :=
  match o with
  | .hire h =>
    ([(0, .signal h.serial .start)], f.place (.new h settings.memory settings.poll.backoff))
  | .ring h => ([(0, .signal h.serial .ring)], f)
  | .cancel h => ([(0, .signal h.serial .cancel)], f)
  | .kill h => ([(0, .signal h.serial .kill)], f)

/-- Carries out orders, one after another. -/
def obeyAll (settings : WorkerSettings) (f : Floor) :
    List Crew.Order → Upcoming Event × Floor
  | [] => ([], f)
  | o :: rest =>
    let (events, f) := f.obey settings o
    let (more, f) := f.obeyAll settings rest
    (events ++ more, f)

end Floor

/-- A crew, with its floor and the source of its tasks. -/
structure Yard (σ : Type u) extends Shift σ where
  settings : WorkerSettings
  crew : Crew

namespace Yard

variable {σ : Type u}

/-- A yard without workers. -/
def new (runner : Runner) (settings : WorkerSettings) (supply : σ) : Yard σ :=
  { floor := { runner }, supply, settings, crew := { namePrefix := settings.namePrefix } }

def react (source : Source σ) : Reaction Floor.Event (Yard σ) := fun now e y =>
  let (events, shift) := Shift.react source now e y.toShift
  (events, { y with toShift := shift })

/-- Has the floor carry out orders. -/
def command (crew : Crew) (orders : List Crew.Order) (y : Yard σ) :
    Upcoming Floor.Event × Yard σ :=
  let (events, floor) := y.floor.obeyAll y.settings orders
  (events, { y with floor, crew })

/-- Starts the workers of a resource. -/
def add (r : Resource) (y : Yard σ) :
    Except ProvisionError Unit × Upcoming Floor.Event × Yard σ :=
  match y.crew.add r with
  | (.ok hs, crew) => (.ok (), y.command crew (hs.map .hire))
  | (.error e, crew) => (.error e, y.command crew [])

/-- Takes workers back. -/
def release (names : List String) (y : Yard σ) : Upcoming Floor.Event × Yard σ :=
  let (hs, crew) := y.crew.release names
  y.command crew (hs.map .cancel)

/-- Ends a worker by force; whether it was running. -/
def kill (name : String) (y : Yard σ) : Bool × Upcoming Floor.Event × Yard σ :=
  let (h, crew) := y.crew.kill name
  (h.isSome, y.command crew (h.toList.map .kill))

/-- Lets all workers go. If they are to be freed, they are taken back; the answer lists those that have to
end before this is done. -/
def shutDown (free : Bool) (y : Yard σ) : List Handle × Upcoming Floor.Event × Yard σ :=
  let (hs, crew) := y.crew.shutDown
  let hs := if free then hs else []
  (hs, y.command crew (hs.map .cancel))

end Yard

end WorkFarm
