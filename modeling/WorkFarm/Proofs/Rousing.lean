import WorkFarm.Proofs.Carried
import WorkFarm.Proofs.Works
/-!
# A ring is not lost

A dispatcher and one of its workers, with nothing to say when anything happens. A call of the worker lies about
until it is served, its answer until the worker reads it, and between reading that there is no task and
beginning to rest there is time for everything else. The bell is the one thing that both sides share: when the
dispatcher wakes the worker, it rings at once, wherever the worker stands.

Once it is decided that there is no task for the worker, a ring is in one of three places. The answer was not
acted upon, and the bell keeps the ring; the worker rests, and the ring ends that; or the rest is over already.
In each of them the worker does not wait any more before its next call is served. An older ring that the bell
has kept changes nothing: it is used up when a rest begins, and if this is after the ring the bell keeps one,
not two.

Anybody may ring the bell at any time, and a ring may come together with the end of a delay. Then the worker
makes its call and the ring may stay with the bell, as if it had come a little later.

## Main definitions

* `Station` — a worker, and what is on its way between it and the dispatcher
* `Collaborators.besideWorker` — a worker whose bell the dispatcher rings, and any other collaborators
* `Station.Line`, `Station.Stage`, `Station.At` — how far the worker has come with its call
* `Station.Lulled`, `Station.Alert` — it was told that there is no task, and it does not wait any more
* `Rousing.Event`, `Rousing.step`, `Rousing.run` — what happens, in any order

## Main statements

* `roused` — a worker that was woken does not wait before its next call is served
-/

namespace WorkFarm

universe u v

/-- A worker, and what is on its way between it and the dispatcher. -/
structure Station (β : Type v) where
  worker : Worker β
  /-- The calls of the worker that were not served yet. -/
  calls : List Request := []
  /-- The answers that it has not read yet. -/
  answers : List (Except SourceError Assignment) := []
  /-- The answer that it has read and has not acted upon yet. -/
  hand : Option (Except SourceError Assignment) := none

namespace Station

variable {β : Type v} [Quantity β] (runner : Runner)

/-- Tells the worker something; the calls that it makes are on their way. -/
def tell (s : Station β) (told : Worker.Signal β) : Station β :=
  let (worker, acts) := s.worker.step runner told
  { s with worker, calls := s.calls ++ acts.filterMap (Works.requestOf? worker.handle) }

/-- The worker reads an answer. -/
def read (s : Station β) : Station β :=
  match s.hand, s.answers with
  | none, a :: answers => { s with answers, hand := some a }
  | _, _ => s

/-- The worker acts upon the answer that it has read. -/
def act (s : Station β) (factor : β) : Station β :=
  match s.hand with
  | none => s
  | some a => { s with hand := none }.tell runner (.reply a factor)

/-! ### How far a worker has come -/

/-- Where the call of a worker is. -/
inductive Line where
  /-- It is on its way. -/
  | called (r : Request)
  /-- The answer is on its way. -/
  | told (a : Except SourceError Assignment)
  /-- The answer was read. -/
  | read (a : Except SourceError Assignment)

namespace Line

def calls : Line → List Request
  | .called r => [r]
  | .told _ | .read _ => []

def answers : Line → List (Except SourceError Assignment)
  | .told a => [a]
  | .called _ | .read _ => []

def hand : Line → Option (Except SourceError Assignment)
  | .read a => some a
  | .called _ | .told _ => none

/-- The last answer was that there is no task, and no call was served after it. -/
def Lulled : Line → Prop
  | .told a | .read a => a = .ok .noTask
  | .called _ => True

/-- The last answer was that there is no task, and if it was not acted upon, the bell keeps a ring. -/
def Alert (kept : Bool) : Line → Prop
  | .told a | .read a => a = .ok .noTask ∧ kept = true
  | .called _ => True

theorem Alert.mono {line : Line} {kept kept' : Bool} (alert : line.Alert kept)
    (keeps : kept = true → kept' = true) : line.Alert kept' := by
  cases line with
  | called => trivial
  | told | read => exact alert.imp_right keeps

theorem Lulled.alert {line : Line} (lulled : line.Lulled) : line.Alert true := by
  cases line with
  | called => trivial
  | told | read => exact ⟨lulled, rfl⟩

end Line

/-- How far a worker has come. -/
inductive Stage where
  | fresh
  /-- It has made a call. -/
  | asking (line : Line)
  | working (t : Task)
  | resting
  | ended (reason : StopReason)

/-- The worker was told that there is no task, and its next call was not served. -/
def Stage.Lulled : Stage → Prop
  | .asking line => line.Lulled
  | .resting => True
  | .ended reason => reason ≠ .terminated
  | .fresh | .working _ => False

/-- The worker does not wait any more before its next call is served. -/
def Stage.Alert (kept : Bool) : Stage → Prop
  | .asking line => line.Alert kept
  | .ended reason => reason ≠ .terminated
  | .fresh | .working _ | .resting => False

/-- Where the worker stands, how many wait for its bell, and what is on its way. -/
structure Stands (s : Station β) (phase : Worker.Phase) (waiting : Nat) (calls : List Request)
    (answers : List (Except SourceError Assignment)) (hand : Option (Except SourceError Assignment)) :
    Prop where
  phase : s.worker.phase = phase
  waiting : s.worker.link.bell.waiting = waiting
  calls : s.calls = calls
  answers : s.answers = answers
  hand : s.hand = hand

/-- The worker has come as far as this. It has one call at a time, unless it has given one up to end. -/
def At (s : Station β) : Stage → Prop
  | .fresh => s.Stands .fresh 0 [] [] none
  | .asking line => s.Stands .asking 0 line.calls line.answers line.hand
  | .working t => s.Stands (.working t) 0 [] [] none
  | .resting => s.Stands .resting 1 [] [] none ∧ s.worker.link.bell.kept = false
  | .ended reason => s.worker.phase = .ended reason ∧ (reason = .terminated → s.calls = [])

def Lulled (s : Station β) : Prop := ∃ stage, s.At stage ∧ stage.Lulled

def Alert (s : Station β) : Prop := ∃ stage, s.At stage ∧ stage.Alert s.worker.link.bell.kept

/-- The worker goes on. Whoever was told that there is no task is so still, and whoever does not have to wait
still does not. -/
def Follows (s s' : Station β) : Prop :=
  ∀ stage, s.At stage → ∃ stage', s'.At stage' ∧ (stage.Lulled → stage'.Lulled) ∧
    (stage.Alert s.worker.link.bell.kept → stage'.Alert s'.worker.link.bell.kept)

section

omit [Quantity β]

variable {s s₁ s₂ : Station β}

namespace Follows

theorem refl (s : Station β) : Follows s s := fun stage here => ⟨stage, here, id, id⟩

theorem trans (h₁ : Follows s s₁) (h₂ : Follows s₁ s₂) : Follows s s₂ := by
  intro stage here
  obtain ⟨stage₁, here, lulled, alert⟩ := h₁ stage here
  obtain ⟨stage₂, here, lulled', alert'⟩ := h₂ stage₁ here
  exact ⟨stage₂, here, lulled' ∘ lulled, alert' ∘ alert⟩

theorem lulled (follows : Follows s s₁) (lulled : s.Lulled) : s₁.Lulled := by
  obtain ⟨stage, here, lulled⟩ := lulled
  obtain ⟨stage', here', keeps, -⟩ := follows stage here
  exact ⟨stage', here', keeps lulled⟩

theorem alert (follows : Follows s s₁) (alert : s.Alert) : s₁.Alert := by
  obtain ⟨stage, here, alert⟩ := alert
  obtain ⟨stage', here', -, keeps⟩ := follows stage here
  exact ⟨stage', here', keeps alert⟩

end Follows

/-- A station is a worker and a bell with this written into them. -/
theorem Stands.exists_eq {phase : Worker.Phase} {waiting : Nat} {calls : List Request}
    {answers : List (Except SourceError Assignment)} {hand : Option (Except SourceError Assignment)}
    (stands : s.Stands phase waiting calls answers hand) :
    ∃ (w : Worker β) (kept : Bool),
      s = { worker := { w with phase, link := { w.link with bell := ⟨kept, waiting⟩ } }
            calls, answers, hand } := by
  obtain ⟨rfl, rfl, rfl, rfl, rfl⟩ := stands
  exact ⟨s.worker, s.worker.link.bell.kept, rfl⟩

end

theorem tell_of_ended {s : Station β} {reason : StopReason} (ended : s.worker.phase = .ended reason)
    (told : Worker.Signal β) : s.tell runner told = s := by
  simp [tell, Worker.step, ended]

/-- Whatever the worker is told, it goes on. -/
theorem follows_tell (s : Station β) {told : Worker.Signal β} (other : Works.isReply told = false) :
    Follows s (s.tell runner told) := by
  intro stage here
  cases stage with
  | fresh =>
    obtain ⟨w, kept, rfl⟩ := here.exists_eq
    cases told with
    | reply => cases other
    | start => exact ⟨.asking (.called (.requestTask w.handle)), ⟨rfl, rfl, rfl, rfl, rfl⟩, nofun, nofun⟩
    | ring | alarm | finish => exact ⟨.fresh, ⟨rfl, rfl, rfl, rfl, rfl⟩, nofun, nofun⟩
    | cancel => exact ⟨.ended .cancelled, ⟨rfl, nofun⟩, nofun, nofun⟩
    | kill => exact ⟨.ended .killed, ⟨rfl, nofun⟩, nofun, nofun⟩
  | asking line =>
    obtain ⟨w, kept, rfl⟩ := here.exists_eq
    have still : line.calls ++ [] = line.calls := List.append_nil _
    cases told with
    | reply => cases other
    | start | finish | alarm => exact ⟨.asking line, ⟨rfl, rfl, still, rfl, rfl⟩, id, id⟩
    | ring => exact ⟨.asking line, ⟨rfl, rfl, still, rfl, rfl⟩, id, fun alert => alert.mono fun _ => rfl⟩
    | cancel => exact ⟨.ended .cancelled, ⟨rfl, nofun⟩, nofun, nofun⟩
    | kill => exact ⟨.ended .killed, ⟨rfl, nofun⟩, nofun, nofun⟩
  | working t =>
    obtain ⟨w, kept, rfl⟩ := here.exists_eq
    cases told with
    | reply => cases other
    | start | ring | alarm | cancel => exact ⟨.working t, ⟨rfl, rfl, rfl, rfl, rfl⟩, nofun, nofun⟩
    | finish =>
      cases w.cancelled with
      | true =>
        refine ⟨.ended .cancelled, ⟨?_, nofun⟩, nofun, nofun⟩
        simp [tell, Worker.step, Worker.finish, Worker.stop]
      | false =>
        refine ⟨.asking (.called (.handIn ⟨t.id, (runner.perform t w.memory).1, w.handle.name⟩ w.handle)),
          ⟨?_, ?_, ?_, rfl, rfl⟩, nofun, nofun⟩ <;>
          simp [tell, Worker.step, Worker.finish]
        rfl
    | kill => exact ⟨.ended .killed, ⟨rfl, nofun⟩, nofun, nofun⟩
  | resting =>
    obtain ⟨rests, kept⟩ := here
    obtain ⟨w, _, rfl⟩ := rests.exists_eq
    cases told with
    | reply => cases other
    | start | finish => exact ⟨.resting, ⟨⟨rfl, rfl, rfl, rfl, rfl⟩, kept⟩, id, nofun⟩
    | alarm | ring =>
      exact ⟨.asking (.called (.requestTask w.handle)), ⟨rfl, rfl, rfl, rfl, rfl⟩, fun _ => trivial, nofun⟩
    | cancel => exact ⟨.ended .cancelled, ⟨rfl, nofun⟩, nofun, nofun⟩
    | kill => exact ⟨.ended .killed, ⟨rfl, nofun⟩, nofun, nofun⟩
  | ended reason =>
    rw [tell_of_ended runner here.1]
    exact ⟨.ended reason, here, id, id⟩

theorem follows_ring (s : Station β) : Follows s (s.tell runner .ring) := follows_tell runner s rfl

/-- **A ring is not lost.** A worker that was told that there is no task does not wait once the bell has
rung. -/
theorem Lulled.ring {s : Station β} (lulled : s.Lulled) : (s.tell runner .ring).Alert := by
  obtain ⟨stage, here, lulled⟩ := lulled
  cases stage with
  | fresh | working => cases lulled
  | asking line =>
    obtain ⟨w, kept, rfl⟩ := here.exists_eq
    exact ⟨.asking line, ⟨rfl, rfl, List.append_nil _, rfl, rfl⟩, lulled.alert⟩
  | resting =>
    obtain ⟨w, kept, rfl⟩ := here.1.exists_eq
    exact ⟨.asking (.called (.requestTask w.handle)), ⟨rfl, rfl, rfl, rfl, rfl⟩, trivial⟩
  | ended reason =>
    rw [tell_of_ended runner here.1]
    exact ⟨.ended reason, here, lulled⟩

section

omit [Quantity β]

variable {s : Station β} {a : Except SourceError Assignment}

theorem read_of_none (none : s.answers = []) : s.read = s := by
  simp [read, none]

/-- An answer that has arrived is read, and one that was read stays in hand. -/
theorem at_read (here : s.At (.asking (.told a)) ∨ s.At (.asking (.read a))) :
    s.read.At (.asking (.read a)) ∧ s.read.worker = s.worker := by
  rcases here with here | here
  · obtain ⟨w, kept, rfl⟩ := here.exists_eq
    exact ⟨⟨rfl, rfl, rfl, rfl, rfl⟩, rfl⟩
  · rw [read_of_none here.answers]
    exact ⟨here, rfl⟩

theorem follows_read (s : Station β) : Follows s s.read := by
  have stays (none : s.answers = []) : Follows s s.read := by
    rw [read_of_none none]
    exact .refl s
  intro stage here
  cases stage with
  | asking line =>
    cases line with
    | told a =>
      obtain ⟨here, same⟩ := at_read (.inl here)
      exact ⟨.asking (.read a), here, id, same ▸ id⟩
    | called | read => exact stays here.answers _ here
  | fresh => exact stays here.answers _ here
  | working t => exact stays here.answers _ here
  | resting => exact stays here.1.answers _ here
  | ended reason =>
    have same : s.read.worker = s.worker ∧ s.read.calls = s.calls := by
      unfold read
      split <;> exact ⟨rfl, rfl⟩
    exact ⟨.ended reason, by rwa [At, same.1, same.2], id, id⟩

end

/-- A rest that begins with a ring is over at once, and the worker calls. -/
theorem act_of_kept {s : Station β} (here : s.At (.asking ( (.read (.ok .noTask)))))
    (kept : s.worker.link.bell.kept = true) (factor : β) :
    (s.act runner factor).At (.asking (.called (.requestTask s.worker.handle))) := by
  obtain ⟨w, _, rfl⟩ := here.exists_eq
  obtain rfl : _ = true := kept
  exact ⟨rfl, rfl, rfl, rfl, rfl⟩

/-- A worker that has read an answer begins to rest only if the bell has kept no ring. -/
theorem follows_act (s : Station β) (factor : β) : Follows s (s.act runner factor) := by
  have stays (none : s.hand = none) : Follows s (s.act runner factor) := by
    rw [act, none]
    exact .refl s
  intro stage here
  cases stage with
  | fresh => exact stays here.hand _ here
  | working t => exact stays here.hand _ here
  | resting => exact stays here.1.hand _ here
  | ended reason =>
    have same : (s.act runner factor).worker = s.worker ∧ (s.act runner factor).calls = s.calls := by
      unfold act
      split
      · exact ⟨rfl, rfl⟩
      · have ended : ({ s with hand := none } : Station β).worker.phase = .ended reason := here.1
        rw [tell_of_ended runner ended]
        exact ⟨rfl, rfl⟩
    exact ⟨.ended reason, by rwa [At, same.1, same.2], id, id⟩
  | asking line =>
    cases line with
    | called | told => exact stays here.hand _ here
    | read a =>
      obtain ⟨w, kept, rfl⟩ := here.exists_eq
      cases a with
      | error e =>
        cases e with
        | terminated => exact ⟨.ended .terminated, ⟨rfl, fun _ => rfl⟩, nofun, nofun⟩
        | unavailable =>
          cases kept with
          | true =>
            exact ⟨.asking (.called (.requestTask w.handle)), ⟨rfl, rfl, rfl, rfl, rfl⟩, nofun, nofun⟩
          | false => exact ⟨.resting, ⟨⟨rfl, rfl, rfl, rfl, rfl⟩, rfl⟩, nofun, nofun⟩
      | ok a =>
        cases a with
        | task t => exact ⟨.working t, ⟨rfl, rfl, rfl, rfl, rfl⟩, nofun, nofun⟩
        | noTask =>
          cases kept with
          | true => exact ⟨_, act_of_kept runner here rfl factor, fun _ => trivial, fun _ => trivial⟩
          | false =>
            exact ⟨.resting, ⟨⟨rfl, rfl, rfl, rfl, rfl⟩, rfl⟩, fun _ => trivial, fun alert => nomatch alert.2⟩

theorem handle_tell (s : Station β) (told : Worker.Signal β) :
    (s.tell runner told).worker.handle = s.worker.handle := by
  have rest (w : Worker β) (factor : β) : (w.rest factor).1.handle = w.handle := by
    unfold Worker.rest
    dsimp only
    split <;> rfl
  show (s.worker.step runner told).1.handle = _
  unfold Worker.step
  split <;> try rfl
  case h_3 =>
    unfold Worker.hear
    dsimp only
    split <;> rfl
  case h_6 =>
    unfold Worker.takeAnswer
    split <;> first | rfl | exact rest _ _
  case h_8 =>
    unfold Worker.finish
    dsimp only
    split <;> rfl

omit [Quantity β] in
theorem handle_read (s : Station β) : s.read.worker.handle = s.worker.handle := by
  unfold read
  split <;> rfl

theorem handle_act (s : Station β) (factor : β) :
    (s.act runner factor).worker.handle = s.worker.handle := by
  unfold act
  split
  · rfl
  · exact handle_tell ..

end Station

/-- A worker whose bell is rung, and any other collaborators. -/
def Collaborators.besideWorker {τ : Type u} {β : Type v} [Quantity β] (runner : Runner)
    (rest : Collaborators τ) : Collaborators (Station β × τ) where
  fetch id w := ((rest.fetch id w.2).1, (w.1, (rest.fetch id w.2).2))
  stage id w := ((rest.stage id w.2).1, (w.1, (rest.stage id w.2).2))
  evict id w := ((rest.evict id w.2).1, (w.1, (rest.evict id w.2).2))
  watch h w := ((rest.watch h w.2).1, (w.1, (rest.watch h w.2).2))
  unwatch h w := ((rest.unwatch h w.2).1, (w.1, (rest.unwatch h w.2).2))
  stopWatching w := ((rest.stopWatching w.2).1, (w.1, (rest.stopWatching w.2).2))
  addResources r w := ((rest.addResources r w.2).1, (w.1, (rest.addResources r w.2).2))
  release hs w := ((rest.release hs w.2).1, (w.1, (rest.release hs w.2).2))
  stopProvisioning free w :=
    ((rest.stopProvisioning free w.2).1, (w.1, (rest.stopProvisioning free w.2).2))
  wake h w :=
    (if h.serial = w.1.worker.handle.serial then w.1.tell runner .ring else w.1, rest.wake h w.2)

section

variable {τ : Type u} {β : Type v} [Quantity β] (runner : Runner) (rest : Collaborators τ)

/-- An entry in the journal rings the bell of the worker, or does nothing to it. -/
theorem carriedOut_besideWorker (w : Station β × τ) (e : Entry) :
    (e.carriedOut (.besideWorker runner rest) w).1 = w.1 ∨
      (e.carriedOut (.besideWorker runner rest) w).1 = w.1.tell runner .ring := by
  cases e with
  | answered | dropped | admitted | accepted => exact .inl rfl
  | errand e ok =>
    cases e with
    | wake k =>
      by_cases own : k.serial = w.1.worker.handle.serial
      · exact .inr (if_pos own)
      · exact .inl (if_neg own)
    | _ => exact .inl rfl

/-- The dispatcher does nothing to the worker but ring its bell. -/
theorem carriedOut_induction {P : Station β → Prop} (ring : ∀ s, P s → P (s.tell runner .ring))
    (es : Journal) {w : Station β × τ} (before : P w.1) :
    P (es.foldl (Entry.carriedOut (.besideWorker runner rest)) w).1 := by
  induction es generalizing w with
  | nil => exact before
  | cons e es ih =>
    refine ih ?_
    rcases carriedOut_besideWorker runner rest w e with same | rung
    · exact same ▸ before
    · exact rung ▸ ring _ before

end

/-! ### The dispatcher and its worker -/

namespace Rousing

/-- What happens. -/
inductive Event (τ : Type u) (β : Type v) where
  /-- The worker is told something, but not the answer to a call. Anybody may ring its bell. -/
  | tell (told : Worker.Signal β)
  /-- The worker reads its answer. -/
  | read
  /-- The worker acts upon the answer that it has read. -/
  | act (factor : β)
  /-- The next call of the worker is served. -/
  | serve (present : Attendance) (caller : Nat)
  /-- A call is served that the worker has not made. -/
  | call (present : Attendance) (call : Call)
  /-- The parked wait is looked at. -/
  | look (present : Attendance)
  /-- Something happens to the other collaborators. -/
  | outside (change : τ → τ)

variable {τ : Type u} {β : Type v} [Quantity β] (rest : Collaborators τ) (runner : Runner)

/-- A dispatcher with a worker that has not begun. -/
def start (order : DeliveryOrder) (worker : Handle) (memory : Memory) (backoff : Backoff β) (x : τ) :
    Dispatcher (Station β × τ) :=
  .start order ({ worker := .new worker memory backoff }, x)

def withStation (d : Dispatcher (Station β × τ)) (s : Station β) : Dispatcher (Station β × τ) :=
  { d with world := (s, d.world.2) }

/-- Serves a call of the worker; the answer is on its way. -/
def serve (d : Dispatcher (Station β × τ)) (present : Attendance) (call : Call) :
    Dispatcher (Station β × τ) :=
  let d := d.move (.besideWorker runner rest) (.call present call)
  withStation d { d.world.1 with
    answers := d.world.1.answers ++ [Farm.replyOf d.journal.lastAnswer?] }

/-- What an event does. An event that does not fit is passed over. -/
def step (d : Dispatcher (Station β × τ)) : Event τ β → Dispatcher (Station β × τ)
  | .tell told => if Works.isReply told then d else withStation d (d.world.1.tell runner told)
  | .read => withStation d d.world.1.read
  | .act factor => withStation d (d.world.1.act runner factor)
  | .serve present caller =>
    match d.world.1.calls with
    | [] => d
    | r :: calls => serve rest runner (withStation d { d.world.1 with calls }) present ⟨caller, r⟩
  | .call present call =>
    if call.worker?.map Handle.serial = some d.world.1.worker.handle.serial then d
    else d.move (.besideWorker runner rest) (.call present call)
  | .look present => d.move (.besideWorker runner rest) (.look present)
  | .outside change => { d with world := (d.world.1, change d.world.2) }

/-- What happens, one event after another. -/
def run (d : Dispatcher (Station β × τ)) (events : List (Event τ β)) : Dispatcher (Station β × τ) :=
  events.foldl (step rest runner) d

/-- A call of the worker is served. -/
def Event.Serves : Event τ β → Prop
  | .serve _ _ => True
  | _ => False

variable {rest runner}

/-- What an event leaves to be said of the dispatcher: its errands were carried out, or the worker has gone on
by itself. -/
theorem carries_or_follows (d : Dispatcher (Station β × τ)) {event : Event τ β} (other : ¬ event.Serves) :
    d.Carries (.besideWorker runner rest) (step rest runner d event) ∨
      (step rest runner d event).journal = d.journal ∧
        Station.Follows d.world.1 (step rest runner d event).world.1 ∧
        (step rest runner d event).world.1.worker.handle = d.world.1.worker.handle := by
  cases event with
  | serve => exact absurd trivial other
  | tell told =>
    right
    simp only [step]
    split
    case isTrue => exact ⟨rfl, .refl _, rfl⟩
    case isFalse given =>
      exact ⟨rfl, Station.follows_tell runner _ (Bool.eq_false_iff.mpr given), Station.handle_tell ..⟩
  | read => exact .inr ⟨rfl, Station.follows_read _, Station.handle_read _⟩
  | act factor => exact .inr ⟨rfl, Station.follows_act runner _ factor, Station.handle_act ..⟩
  | call present call =>
    simp only [step]
    split
    case isTrue => exact .inr ⟨rfl, .refl _, rfl⟩
    case isFalse => exact .inl (Dispatcher.does_serveOrRefuse _ d present call).carries
  | look present => exact .inl (Dispatcher.does_serveParked _ d present).carries
  | outside change => exact .inr ⟨rfl, .refl _, rfl⟩

variable (rest runner)

/-- Unless a call of the worker is served, it goes on. -/
theorem follows_step (d : Dispatcher (Station β × τ)) {event : Event τ β} (other : ¬ event.Serves) :
    Station.Follows d.world.1 (step rest runner d event).world.1 := by
  rcases carries_or_follows d other with ⟨es, -, world⟩ | ⟨-, follows, -⟩
  · rw [world]
    exact carriedOut_induction runner rest (fun _ follows => follows.trans (Station.follows_ring runner _))
      es (.refl d.world.1)
  · exact follows

theorem follows_run (d : Dispatcher (Station β × τ)) {events : List (Event τ β)}
    (others : ∀ event ∈ events, ¬ event.Serves) :
    Station.Follows d.world.1 (run rest runner d events).world.1 := by
  induction events generalizing d with
  | nil => exact .refl _
  | cons event events ih =>
    have first := follows_step rest runner d (others event List.mem_cons_self)
    exact first.trans (ih _ fun e mem => others e (List.mem_cons_of_mem _ mem))

theorem handle_carried (es : Journal) (w : Station β × τ) :
    (es.foldl (Entry.carriedOut (.besideWorker runner rest)) w).1.worker.handle = w.1.worker.handle :=
  carriedOut_induction (P := fun s => s.worker.handle = w.1.worker.handle) runner rest
    (fun _ same => (Station.handle_tell ..).trans same) es rfl

theorem handle_step (d : Dispatcher (Station β × τ)) (event : Event τ β) :
    (step rest runner d event).world.1.worker.handle = d.world.1.worker.handle := by
  have carried {d d' : Dispatcher (Station β × τ)} (carries : d.Carries (.besideWorker runner rest) d') :
      d'.world.1.worker.handle = d.world.1.worker.handle := by
    obtain ⟨es, -, world⟩ := carries
    rw [world, handle_carried]
  by_cases own : event.Serves
  · cases event with
    | serve present caller =>
      simp only [step]
      split
      case h_1 => rfl
      case h_2 r calls _ =>
        have same := carried (Dispatcher.does_serveOrRefuse (.besideWorker runner rest)
          (withStation d { d.world.1 with calls }) present ⟨caller, r⟩).carries
        exact same
    | _ => cases own
  · rcases carries_or_follows d own with carries | ⟨-, -, same⟩
    · exact carried carries
    · exact same

theorem handle_run (d : Dispatcher (Station β × τ)) (events : List (Event τ β)) :
    (run rest runner d events).world.1.worker.handle = d.world.1.worker.handle := by
  induction events generalizing d with
  | nil => rfl
  | cons event events ih => exact (ih _).trans (handle_step ..)

variable {rest runner}

/-- **The dispatcher wakes the worker**, and with this the worker is alert. -/
theorem alert_of_woken {d : Dispatcher (Station β × τ)} (lulled : d.world.1.Lulled) {event : Event τ β}
    (other : ¬ event.Serves) {k : Handle} {ok : Bool}
    (woken : .errand (.wake k) ok ∈ d.since (step rest runner d event))
    (own : k.serial = d.world.1.worker.handle.serial) : (step rest runner d event).world.1.Alert := by
  rcases carries_or_follows d other with ⟨es, journal, world⟩ | ⟨journal, -⟩
  case inr =>
    rw [Dispatcher.since, journal, List.drop_length] at woken
    cases woken
  rw [Dispatcher.since_eq journal] at woken
  obtain ⟨earlier, later, rfl⟩ := List.mem_iff_append.mp woken
  -- what was done before this ring leaves the worker lulled, and what was done after it leaves it alert
  have before := carriedOut_induction runner rest (fun s => (Station.follows_ring runner s).lulled)
    earlier lulled
  have same := handle_carried rest runner earlier d.world
  rw [world, List.foldl_append, List.foldl_cons]
  generalize earlier.foldl (Entry.carriedOut (.besideWorker runner rest)) d.world = w at before same ⊢
  have rung : (Entry.carriedOut (.besideWorker runner rest) w (.errand (.wake k) ok)).1
      = w.1.tell runner .ring := if_pos (same ▸ own)
  refine carriedOut_induction runner rest (fun s => (Station.follows_ring runner s).alert) later ?_
  exact rung ▸ before.ring runner

/-! ### The call of the worker is served -/

variable (rest runner)

/-- While its call is served, a worker stays where it stands. -/
theorem stands_move {d : Dispatcher (Station β × τ)}
    (asks : d.world.1.Stands .asking 0 [] [] none) (present : Attendance) (call : Call) :
    (d.move (.besideWorker runner rest) (.call present call)).world.1.Stands .asking 0 [] [] none := by
  obtain ⟨es, -, world⟩ := (Dispatcher.does_serveOrRefuse (.besideWorker runner rest) d present call).carries
  have ring (s : Station β) (asks : s.Stands .asking 0 [] [] none) :
      (s.tell runner .ring).Stands .asking 0 [] [] none := by
    obtain ⟨⟨_, ⟨_, ⟨_, _⟩, _⟩, _, _, _, _, _⟩, _, _, _⟩ := s
    obtain ⟨rfl, rfl, rfl, rfl, rfl⟩ := asks
    exact ⟨rfl, rfl, rfl, rfl, rfl⟩
  show Station.Stands (Dispatcher.serveOrRefuse _ present d call).world.1 _ _ _ _ _
  rw [world]
  exact carriedOut_induction runner rest ring es asks

theorem ended_move {d : Dispatcher (Station β × τ)} {reason : StopReason}
    (ended : d.world.1.worker.phase = .ended reason) (present : Attendance) (call : Call) :
    (d.move (.besideWorker runner rest) (.call present call)).world.1.worker.phase = .ended reason := by
  obtain ⟨es, -, world⟩ := (Dispatcher.does_serveOrRefuse (.besideWorker runner rest) d present call).carries
  have ring (s : Station β) (ended : s.worker.phase = .ended reason) :
      (s.tell runner .ring).worker.phase = .ended reason := by
    obtain ⟨⟨_, _, _, _, _, _, _⟩, _, _, _⟩ := s
    obtain rfl : _ = _ := ended
    rfl
  show (Dispatcher.serveOrRefuse _ present d call).world.1.worker.phase = _
  rw [world]
  exact carriedOut_induction (P := fun s => s.worker.phase = .ended reason) runner rest ring es ended

variable {rest runner}

/-- Once its call is served, the answer is on its way, unless the worker has given the call up. -/
theorem at_serve {d : Dispatcher (Station β × τ)} {stage : Station.Stage} (here : d.world.1.At stage)
    {r : Request} {calls : List Request} (own : d.world.1.calls = r :: calls) (present : Attendance)
    (caller : Nat) :
    (∃ a, (step rest runner d (.serve present caller)).world.1.At (.asking (.told a))) ∨
      ∃ reason, (step rest runner d (.serve present caller)).world.1.At (.ended reason) ∧
        reason ≠ .terminated := by
  have served : step rest runner d (.serve present caller)
      = serve rest runner (withStation d { d.world.1 with calls }) present ⟨caller, r⟩ := by
    simp only [step, own]
  rw [served]
  cases stage with
  | fresh => cases own.symm.trans here.calls
  | working => cases own.symm.trans here.calls
  | resting => cases own.symm.trans here.1.calls
  | asking line =>
    left
    obtain ⟨phase, waiting, same, answers, hand⟩ := here
    cases line with
    | told | read => cases own.symm.trans same
    | called =>
      obtain ⟨rfl, rfl⟩ := List.cons.inj (own.symm.trans same)
      have asks : (withStation d { d.world.1 with calls := [] }).world.1.Stands .asking 0 [] [] none :=
        ⟨phase, waiting, rfl, answers, hand⟩
      obtain ⟨phase, waiting, calls, answers, hand⟩ := stands_move rest runner asks present ⟨caller, r⟩
      exact ⟨_, phase, waiting, calls, congrArg (· ++ [_]) answers, hand⟩
  | ended reason =>
    right
    obtain ⟨ended, last⟩ := here
    have given : reason ≠ .terminated := by
      intro terminated
      rw [last terminated] at own
      cases own
    have ended : (withStation d { d.world.1 with calls }).world.1.worker.phase = .ended reason := ended
    have still := ended_move rest runner ended present ⟨caller, r⟩
    exact ⟨reason, ⟨still, fun terminated => absurd terminated given⟩, given⟩

/-- Every step leaves a worker somewhere on its way. -/
theorem exists_at_step {d : Dispatcher (Station β × τ)} (here : ∃ stage, d.world.1.At stage)
    (event : Event τ β) : ∃ stage, (step rest runner d event).world.1.At stage := by
  obtain ⟨stage, here⟩ := here
  by_cases own : event.Serves
  case neg =>
    obtain ⟨stage', here', -⟩ := follows_step rest runner d own stage here
    exact ⟨stage', here'⟩
  cases event with
  | serve present caller =>
    cases own : d.world.1.calls with
    | nil =>
      have same : step rest runner d (.serve present caller) = d := by simp only [step, own]
      exact ⟨stage, same.symm ▸ here⟩
    | cons r calls =>
      rcases at_serve here own present caller with ⟨a, here⟩ | ⟨reason, here, -⟩
      · exact ⟨_, here⟩
      · exact ⟨_, here⟩
  | _ => cases own

theorem exists_at_run {d : Dispatcher (Station β × τ)} (here : ∃ stage, d.world.1.At stage)
    (events : List (Event τ β)) : ∃ stage, (run rest runner d events).world.1.At stage := by
  induction events generalizing d with
  | nil => exact here
  | cons event events ih => exact ih (exists_at_step here event)

/-- A worker whose call is answered with no task is lulled. -/
theorem lulled_serve {d : Dispatcher (Station β × τ)} (here : ∃ stage, d.world.1.At stage)
    {present : Attendance} {caller : Nat}
    (told : (step rest runner d (.serve present caller)).world.1.answers
      = d.world.1.answers ++ [.ok .noTask]) :
    (step rest runner d (.serve present caller)).world.1.Lulled := by
  obtain ⟨stage, here⟩ := here
  cases own : d.world.1.calls with
  | nil =>
    have same : step rest runner d (.serve present caller) = d := by simp only [step, own]
    rw [same] at told
    simp at told
  | cons r calls =>
    rcases at_serve here own present caller with ⟨a, here⟩ | ⟨reason, here, given⟩
    · rw [here.answers] at told
      have same : a = .ok .noTask := by simpa [Station.Line.answers] using congrArg List.getLast? told
      exact ⟨.asking (.told a), here, same⟩
    · exact ⟨.ended reason, here, given⟩

variable (rest runner)

/-- **A worker that was woken does not wait before its next call is served.** Its call was answered with no
task, and the dispatcher rings its bell before it serves the next one, whatever else happens in between. From
then on, until that call is served, the call is on its way already; or the bell keeps the ring, and when the
worker has read the answer and begins to rest, it is over with this at once and makes its call. Only if it was
cancelled or killed it calls no more. -/
theorem roused (order : DeliveryOrder) (h : Handle) (memory : Memory) (backoff : Backoff β) (x : τ)
    (before middle after : List (Event τ β)) (present : Attendance) (caller : Nat) (wakes : Event τ β)
    (others : ∀ event ∈ middle ++ wakes :: after, ¬ event.Serves) (k : Handle) (ok : Bool)
    (own : k.serial = h.serial) :
    let d₁ := run rest runner (start order h memory backoff x) before
    let d₂ := step rest runner d₁ (.serve present caller)
    let d₃ := run rest runner d₂ middle
    let d₄ := step rest runner d₃ wakes
    let s := (run rest runner d₄ after).world.1
    d₂.world.1.answers = d₁.world.1.answers ++ [.ok .noTask] → .errand (.wake k) ok ∈ d₃.since d₄ →
      (∃ reason ∈ [StopReason.cancelled, .killed], s.worker.phase = .ended reason) ∨
      s.worker.phase = .asking ∧ (∃ r, s.calls = [r]) ∨
      s.worker.phase = .asking ∧ s.calls = [] ∧ s.worker.link.bell.kept = true ∧
        ∀ factor, (s.read.act runner factor).worker.phase = .asking ∧
          ∃ r, (s.read.act runner factor).calls = [r] := by
  intro d₁ d₂ d₃ d₄ s told woken
  have fresh : (start order h memory backoff x).world.1.At .fresh := ⟨rfl, rfl, rfl, rfl, rfl⟩
  have here : ∃ stage, d₁.world.1.At stage := exists_at_run ⟨.fresh, fresh⟩ before
  have lulled : d₃.world.1.Lulled :=
    (follows_run rest runner d₂ fun e mem => others e (by simp [mem])).lulled (lulled_serve here told)
  have same : d₃.world.1.worker.handle = h := by
    rw [handle_run, handle_step, handle_run]
    rfl
  have rung : d₄.world.1.Alert := alert_of_woken lulled (others wakes (by simp)) woken (same ▸ own)
  have alert : s.Alert := (follows_run rest runner d₄ fun e mem => others e (by simp [mem])).alert rung
  have begins (answered : s.At (.asking (.told (.ok .noTask))) ∨ s.At (.asking (.read (.ok .noTask))))
      (kept : s.worker.link.bell.kept = true) (factor : β) :
      (s.read.act runner factor).worker.phase = .asking ∧ ∃ r, (s.read.act runner factor).calls = [r] := by
    obtain ⟨here, same⟩ := Station.at_read answered
    have called := Station.act_of_kept runner here (same ▸ kept) factor
    exact ⟨called.phase, _, called.calls⟩
  obtain ⟨stage, here, alert⟩ := alert
  cases stage with
  | fresh | working | resting => cases alert
  | ended reason =>
    refine .inl ⟨reason, ?_, here.1⟩
    cases reason with
    | terminated => exact absurd rfl alert
    | cancelled | killed => simp
  | asking line =>
    right
    cases line with
    | called r => exact .inl ⟨here.phase, r, here.calls⟩
    | told a =>
      obtain ⟨rfl, kept⟩ := alert
      exact .inr ⟨here.phase, here.calls, kept, begins (.inl here) kept⟩
    | read a =>
      obtain ⟨rfl, kept⟩ := alert
      exact .inr ⟨here.phase, here.calls, kept, begins (.inr here) kept⟩

/-- A worker of a run in which it is woken early. -/
def ann : Handle := ⟨1, "ann"⟩

/-- Every task comes out as its payload. -/
def copier : Runner := { perform := fun t m => (.ok t.payload, m) }

/-- A worker that begins with a ring that its bell has kept. -/
def rung : List (Event Vault Float) := [.tell .ring, .tell .start]

/-- The dispatcher wakes a worker that has read its answer and has not begun to rest. Its rest is over as soon
as it begins. -/
theorem roused_rung :
    let d₁ := run .ofVault copier (start .completion ann ∅ ⟨.fixed, 1, 1, false⟩ {}) rung
    let d₂ := step .ofVault copier d₁ (.serve {} 5)
    let d₃ := run .ofVault copier d₂ [.read]
    let d₄ := step .ofVault copier d₃ (.call {} ⟨6, .submit [⟨1⟩]⟩)
    let s := (run .ofVault copier d₄ [.act 1]).world.1
    d₂.world.1.answers = [.ok .noTask] ∧ d₃.world.1.hand = some (.ok .noTask) ∧
      s.worker.phase = .asking ∧ ∃ r, s.calls = [r] := by
  have alert := roused .ofVault copier .completion ann ∅ ⟨.fixed, 1, 1, false⟩ {} rung [.read] [.act 1] {} 5
    (.call {} ⟨6, .submit [⟨1⟩]⟩) (by simp [Event.Serves]) ann true rfl rfl
    (List.mem_of_getElem? (i := 1) rfl)
  refine ⟨rfl, rfl, (alert.resolve_left ?lives).resolve_right ?calls⟩
  case lives =>
    rintro ⟨reason, -, ended⟩
    cases ended
  case calls =>
    rintro ⟨-, none, -⟩
    cases none

end Rousing

end WorkFarm
