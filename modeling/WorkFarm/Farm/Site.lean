import WorkFarm.Crew.Yard
import WorkFarm.Dispatcher.Storage
import WorkFarm.Heartbeat.Rhythm
/-!
# The site

The site is what the dispatcher of a farm works with: a vault, a crew and a heartbeat, all inside this
process.

## Main definitions

* `Site` — vault, crew, heartbeat, and the orders that are still to be carried out
* `Collaborators.ofSite` — how the site takes the errands of the dispatcher

## Design

The site does not touch the workers. What is to be done with them is written down as orders, which the
floor carries out once the dispatcher has served its batch. A worker is told apart by its name when it is
taken back, since no two workers of a crew share one.
-/

namespace WorkFarm

/-- Vault, crew, heartbeat, and the orders that are still to be carried out. -/
structure Site where
  vault : Vault := {}
  crew : Crew
  /-- The heartbeat in time. -/
  rhythm : Rhythm
  /-- The orders that are still to be carried out. -/
  orders : List Crew.Order := []

namespace Site

/-- A site without payloads and without workers. -/
def new (s : Settings) : Site :=
  { crew := { namePrefix := s.workers.namePrefix }
    rhythm := { interval := s.watch.interval, timeout := s.watch.timeout } }

/-- Sends the vault on an errand. -/
def withVault {ε α : Type} (run : Vault → Except ε α × Vault) (s : Site) : Except ε α × Site :=
  let (outcome, vault) := run s.vault
  (outcome, { s with vault })

/-- Changes the heartbeat. -/
def withHeartbeat (f : Heartbeat → Heartbeat) (s : Site) : Site :=
  { s with rhythm := { s.rhythm with heartbeat := f s.rhythm.heartbeat } }

/-- Writes down orders for workers. -/
def order (crew : Crew) (orders : List Crew.Order) (s : Site) : Site :=
  { s with crew, orders := s.orders ++ orders }

/-- Begins to watch a worker. -/
def watch (h : Handle) (s : Site) : Except WatchError Unit × Site :=
  let (outcome, heartbeat) := s.rhythm.heartbeat.watch h
  (outcome, s.withHeartbeat fun _ => heartbeat)

/-- Starts workers. -/
def addResources (r : Resource) (s : Site) : Except ProvisionError Unit × Site :=
  match s.crew.add r with
  | (.ok hs, crew) => (.ok (), s.order crew (hs.map .hire))
  | (.error e, crew) => (.error e, s.order crew [])

/-- Takes workers back. -/
def release (hs : List Handle) (s : Site) : Site :=
  let (running, crew) := s.crew.release (hs.map (·.name))
  s.order crew (running.map .cancel)

/-- Starts no worker any more, and takes back all if they are to be freed. -/
def stopProvisioning (free : Bool) (s : Site) : Site :=
  let (running, crew) := s.crew.shutDown
  s.order crew (if free then running.map .cancel else [])

end Site

/-- How the site takes the errands of the dispatcher. -/
def Collaborators.ofSite : Collaborators Site where
  fetch id := Site.withVault (Vault.fetching id)
  stage id := Site.withVault (Vault.staging id)
  evict id := Site.withVault (Vault.evicting id)
  watch := Site.watch
  unwatch h s := (.ok (), s.withHeartbeat (Heartbeat.unwatch h))
  stopWatching s := (.ok (), s.withHeartbeat Heartbeat.shutDown)
  addResources := Site.addResources
  release hs s := (.ok (), s.release hs)
  stopProvisioning free s := (.ok (), s.stopProvisioning free)
  wake h s := s.order s.crew [.ring h]

end WorkFarm
