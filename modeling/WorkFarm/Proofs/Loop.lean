import WorkFarm.Proofs.Handover
/-!
# The smallest steps of a worker

A worker takes in a signal and does all that follows from it at once. Between any two things that it does,
however, it may be taken back: when an answer has come and was not yet acted upon, when a task has been run and
its result was not yet handed in, and so on. Here the worker stands still at each of these places, and each step
that it takes from there is an event of its own.

A worker looks at whether it was taken back at three places: when it is about to make a call, while it waits
for the answer, where this is looked at first, and while it rests. It does not while it runs a task. To look,
and to begin a call, is one step, since nothing lies between the two.

A signal is a few of these events, one after another (`Worker.Signal.events`). With them the worker notes the same,
and is the same in the end (`Worker.after_events`).

## Main definitions

* `Worker.Place`, `Worker.Event` — where a worker stands, and what happens
* `Worker.Loop`, `Worker.Loop.step`, `Worker.Loop.after` — a worker in its smallest steps

## Main statements

* `Worker.after_events` — signals are sequences of the smallest steps
-/

namespace WorkFarm

universe u

namespace Worker

variable {β : Type u}

/-- Where a worker stands between its smallest steps. -/
inductive Place (β : Type u) where
  /-- It has not begun. -/
  | fresh
  /-- It is about to make a call, with a result or without. -/
  | calling (result : Option TaskResult)
  /-- It waits for the answer to a call. -/
  | asking
  /-- It has taken in an answer. If it rests then, jitter multiplies the delay by `factor`. -/
  | heeding (answer : Except SourceError Assignment) (factor : β)
  | working (t : Task)
  /-- It is about to wait for its delay or its bell. -/
  | settling
  /-- It waits for its delay or its bell. -/
  | resting
  | ended (reason : StopReason)

/-- Where a worker stands when it has done all that follows from a signal. -/
def Place.ofPhase : Phase → Place β
  | .fresh => .fresh
  | .asking => .asking
  | .working t => .working t
  | .resting => .resting
  | .ended reason => .ended reason

/-- Something that happens to a worker or that it does. -/
inductive Event (β : Type u) where
  | start
  /-- It goes on by itself. When it may also look at something else, it looks at whether it was taken back. -/
  | go
  /-- It looks at its bell first. -/
  | listen
  | reply (answer : Except SourceError Assignment) (factor : β)
  | finish
  | alarm
  | ring
  | cancel

/-- A worker in its smallest steps, with its diary. -/
structure Loop (β : Type u) where
  handle : Handle
  link : Link
  memory : Memory := ∅
  pacer : Pacer β
  place : Place β := .fresh
  completed : Nat := 0
  /-- Whether it was taken back. -/
  recalled : Bool := false
  notes : List Note := []

namespace Loop

/-- A worker that has not begun. -/
def new (handle : Handle) (memory : Memory) (backoff : Backoff β) : Loop β :=
  { handle, memory, link := { name := handle.name }, pacer := { backoff } }

/-- Makes a note. -/
def note (l : Loop β) (n : Note) : Loop β := { l with notes := l.notes ++ [n] }

def stop (l : Loop β) (reason : StopReason) : Loop β :=
  { l with place := .ended reason, link := l.link.stop }.note (.did (.stop reason))

/-- Makes a call, unless the worker was taken back. -/
def call (l : Loop β) (result : Option TaskResult) : Loop β :=
  if l.recalled then l.stop .cancelled
  else { l with place := .asking }.note (.did (result.elim .ask .handIn))

/-- Begins to wait for the bell. A ring that was kept ends the rest at once. -/
def settle (l : Loop β) : Loop β :=
  let (rung, bell) := l.link.bell.wait
  { l with link := { l.link with bell }, place := if rung then .calling none else .resting }

def leaveBell (l : Loop β) : Loop β := { l with link := { l.link with bell := l.link.bell.giveUp.2 } }

def hear (l : Loop β) : Loop β := { l with link := { l.link with bell := l.link.bell.ring.2 } }

/-- The result of a task. -/
def result (runner : Runner) (l : Loop β) (t : Task) : TaskResult :=
  ⟨t.id, (runner.perform t l.memory).1, l.handle.name⟩

def finish (runner : Runner) (l : Loop β) (t : Task) : Loop β :=
  { l with
    memory := (runner.perform t l.memory).2
    completed := l.completed + 1
    place := .calling (some (l.result runner t)) }.note (.ran (l.result runner t))

variable [Quantity β]

def rest (l : Loop β) (factor : β) : Loop β :=
  let (delay, pacer) := l.pacer.next factor
  { l with pacer, place := .settling }.note (.did (.rest delay))

/-- Acts upon an answer. -/
def heed (l : Loop β) (factor : β) : Except SourceError Assignment → Loop β
  | .ok (.task t) => { l with place := .working t, pacer := l.pacer.reset }.note (.did (.work t))
  | .ok .noTask => l.rest factor
  | .error (.unavailable _) => l.rest factor
  | .error .terminated => l.stop .terminated

/-- One step. What does not fit where the worker stands is passed over. -/
def step (runner : Runner) (l : Loop β) (e : Event β) : Loop β :=
  match l.place, e with
  | _, .cancel => { l with recalled := true }
  | .ended _, _ => l
  | .fresh, .start => { l with place := .calling none }
  | .calling result, .go => l.call result
  | .asking, .go => if l.recalled then l.stop .cancelled else l
  | .asking, .reply answer factor =>
    if l.recalled then l.stop .cancelled
    else { l with place := .heeding answer factor }.note (.heard answer)
  | .heeding answer factor, .go => l.heed factor answer
  | .working t, .finish => l.finish runner t
  | .settling, .go => if l.recalled then l.stop .cancelled else l.settle
  | .settling, .listen => l.settle
  | .settling, .alarm => { l with place := .calling none }
  | .resting, .go => if l.recalled then l.leaveBell.stop .cancelled else l
  | .resting, .alarm => { l.leaveBell with place := .calling none }
  | .resting, .ring => { l.hear with place := .calling none }
  | _, .ring => l.hear
  | _, _ => l

variable (runners : Nat → Runner)

def tell (l : Loop β) (e : Event β) : Loop β := l.step (runners l.completed) e

def after (l : Loop β) (events : List (Event β)) : Loop β := events.foldl (tell runners) l

end Loop

/-! ### Signals -/

/-- What happens with a signal, step by step. A worker that is ended by force takes no step. -/
def Signal.events : Signal β → List (Event β)
  | .start => [.start, .go]
  | .reply answer factor => [.reply answer factor, .go, .go, .go]
  | .finish => [.finish, .go]
  | .alarm => [.alarm, .go]
  | .ring => [.ring, .go]
  | .cancel => [.cancel, .start, .go]
  | .kill => []

/-- Whether a signal ends the worker by force. -/
def Signal.isKill : Signal β → Bool
  | .kill => true
  | _ => false

/-- The worker of a diary between signals, in its smallest steps. -/
def Diary.loop (d : Diary β) (recalled : Bool) : Loop β where
  handle := d.worker.handle
  link := d.worker.link
  memory := d.worker.memory
  pacer := d.worker.pacer
  place := .ofPhase d.worker.phase
  completed := d.worker.completed
  recalled
  notes := d.notes

/-- Between signals, a loop stands where the worker of a diary stands, with the same notes. While the worker
lives, it was taken back only if it runs a task, and waits for its bell only if it rests. -/
structure Loop.Shows (l : Loop β) (d : Diary β) : Prop where
  eq : l = d.loop l.recalled
  recalled : d.worker.hasEnded = false → l.recalled = d.worker.cancelled
  waits : d.worker.hasEnded = false → d.worker.link.bell.waiting = d.worker.phase.waiting
  works : d.worker.hasEnded = false → d.worker.cancelled = true → ∃ t, d.worker.phase = .working t

theorem Loop.eq_with (l : Loop β) {notes : List Note} (same : l.notes = notes) : l = { l with notes } := by
  rw [← same]

namespace Loop.Shows

variable {l : Loop β} {d : Diary β}

theorem goes (shows : l.Shows d) (lives : d.worker.hasEnded = false)
    (idle : ∀ t, d.worker.phase ≠ .working t) : d.worker.cancelled = false := by
  refine Bool.eq_false_iff.mpr fun cut => ?_
  obtain ⟨t, works⟩ := shows.works lives cut
  exact idle t works

variable {w : Worker β} {notes : List Note}

theorem of_ended (eq : l = Diary.loop ⟨w, notes⟩ l.recalled) (ends : w.hasEnded = true) :
    l.Shows ⟨w, notes⟩ where
  eq
  recalled lives := by cases ends.symm.trans lives
  waits lives := by cases ends.symm.trans lives
  works lives := by cases ends.symm.trans lives

theorem of_goes (eq : l = Diary.loop ⟨w, notes⟩ l.recalled) (uncut : l.recalled = false)
    (goes : w.cancelled = false) (waits : w.link.bell.waiting = w.phase.waiting) : l.Shows ⟨w, notes⟩ where
  eq
  recalled _ := uncut.trans goes.symm
  waits _ := waits
  works _ cut := by cases goes.symm.trans cut

theorem of_working {t : Task} (eq : l = Diary.loop ⟨w, notes⟩ l.recalled) (recalled : l.recalled = w.cancelled)
    (works : w.phase = .working t) (waits : w.link.bell.waiting = 0) : l.Shows ⟨w, notes⟩ where
  eq
  recalled _ := recalled
  waits _ := by rw [waits, works]; rfl
  works _ _ := ⟨t, works⟩

variable [Quantity β] {runners : Nat → Runner}

/-- All that follows from a signal is done in a few steps. -/
theorem tell (shows : l.Shows d) {s : Signal β} (spared : s.isKill = false) :
    (l.after runners s.events).Shows (d.tell runners s) := by
  obtain ⟨⟨h, ⟨name, ⟨kept, waiting⟩, alive⟩, memory, pacer, phase, completed, cancelled⟩, notes⟩ := d
  obtain ⟨recalled, rfl⟩ : ∃ recalled, l = Diary.loop _ recalled := ⟨_, shows.eq⟩
  have still : notes = notes ++ [] := (List.append_nil notes).symm
  cases phase with
  | ended reason => cases s <;> exact .of_ended (Loop.eq_with _ still) rfl
  | fresh =>
    obtain rfl : cancelled = false := shows.goes rfl nofun
    obtain rfl : recalled = false := shows.recalled rfl
    obtain rfl : waiting = 0 := shows.waits rfl
    cases s with
    | start => exact .of_goes rfl rfl rfl rfl
    | cancel => exact .of_ended rfl rfl
    | reply | finish | alarm | ring => exact .of_goes (Loop.eq_with _ still) rfl rfl rfl
    | kill => cases spared
  | asking =>
    obtain rfl : cancelled = false := shows.goes rfl nofun
    obtain rfl : recalled = false := shows.recalled rfl
    obtain rfl : waiting = 0 := shows.waits rfl
    have both (m n) : notes ++ [m] ++ [n] = notes ++ [m, n] := List.append_assoc ..
    have three (m n o) : notes ++ [m] ++ [n] ++ [o] = notes ++ [m, n, o] := by simp
    cases s with
    | reply answer factor =>
      match answer, kept with
      | .ok (.task t), _ => exact .of_goes (Loop.eq_with _ (both ..)) rfl rfl rfl
      | .error .terminated, _ => exact .of_ended (Loop.eq_with _ (both ..)) rfl
      | .ok .noTask, false => exact .of_goes (Loop.eq_with _ (both ..)) rfl rfl rfl
      | .ok .noTask, true => exact .of_goes (Loop.eq_with _ (three ..)) rfl rfl rfl
      | .error (.unavailable reason), false => exact .of_goes (Loop.eq_with _ (both ..)) rfl rfl rfl
      | .error (.unavailable reason), true => exact .of_goes (Loop.eq_with _ (three ..)) rfl rfl rfl
    | cancel => exact .of_ended rfl rfl
    | start | finish | alarm | ring => exact .of_goes (Loop.eq_with _ still) rfl rfl rfl
    | kill => cases spared
  | working t =>
    obtain rfl : recalled = cancelled := shows.recalled rfl
    obtain rfl : waiting = 0 := shows.waits rfl
    cases s with
    | finish =>
      cases recalled with
      | true => exact .of_ended (Loop.eq_with _ (List.append_assoc ..)) rfl
      | false => exact .of_goes (Loop.eq_with _ (List.append_assoc ..)) rfl rfl rfl
    | cancel | start | reply | alarm | ring => exact .of_working (Loop.eq_with _ still) rfl rfl rfl
    | kill => cases spared
  | resting =>
    obtain rfl : cancelled = false := shows.goes rfl nofun
    obtain rfl : recalled = false := shows.recalled rfl
    obtain rfl : waiting = 1 := shows.waits rfl
    cases s with
    | alarm | ring => exact .of_goes rfl rfl rfl rfl
    | cancel => exact .of_ended rfl rfl
    | start | reply | finish => exact .of_goes (Loop.eq_with _ still) rfl rfl rfl
    | kill => cases spared

theorem after (shows : l.Shows d) {signals : List (Signal β)} (spared : ∀ s ∈ signals, s.isKill = false) :
    (l.after runners (signals.flatMap Signal.events)).Shows (d.after runners signals) := by
  induction signals generalizing l d with
  | nil => exact shows
  | cons s signals ih =>
    obtain ⟨first, rest⟩ := List.forall_mem_cons.mp spared
    rw [List.flatMap_cons, Loop.after, List.foldl_append]
    exact ih (shows.tell first) rest

end Loop.Shows

/-- **Signals are sequences of the smallest steps.** Unless it is killed, a worker that is told some signals notes
what it notes if it takes the steps of these signals, and stands in the same place with the same memory, the same
pacer and the same link. -/
theorem after_events [Quantity β] (runners : Nat → Runner) (h : Handle) (memory : Memory) (backoff : Backoff β)
    (signals : List (Signal β)) (spared : ∀ s ∈ signals, s.isKill = false) :
    ∃ recalled, Loop.after runners (.new h memory backoff) (signals.flatMap Signal.events) =
      (Diary.after runners { worker := .new h memory backoff } signals).loop recalled := by
  have shows : (Loop.new h memory backoff).Shows { worker := .new h memory backoff } :=
    .of_goes rfl rfl rfl rfl
  exact ⟨_, (shows.after spared).eq⟩

end Worker

end WorkFarm
