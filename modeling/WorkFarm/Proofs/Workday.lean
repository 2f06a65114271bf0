import Mathlib.Data.List.DropRight
import WorkFarm.Worker.Basic
/-!
# A day of a worker

What a worker does is told by the answers that it gets. It asks, and then everything follows from one answer after
another: a task is run and its result handed in, and when there is nothing to do the worker rests and asks
again. When its bell rings, or how long a rest or a task takes, does not matter; what matters is which answers
came before. The memory on which a task is run is the one that the earlier tasks have left, and the delay of a
rest depends on how many answers in a row, up to this one, have said that there is nothing to do.

So the account of a day (`account`) is written from the answers alone. It is ahead of the worker by one call at
most, the one that is due when its task has been run or its rest is over (`due`).

A runner need not do the same every time: `runners n` is what it does when it runs a task after `n` others.

## Main definitions

* `Worker.Turn` — an answer that a worker takes in
* `Worker.remembered`, `Worker.idleCount` — what the earlier answers have left
* `Worker.response`, `Worker.account` — what follows from one answer, and from all of them
* `Worker.Day`, `Worker.Day.after` — a worker with what it did and the answers that it took in

## Main statements

* `Worker.account_eq` — what a worker does is the account of the answers that it took in
-/

namespace WorkFarm

universe u

namespace Worker

variable {β : Type u}

/-! ### The account of a day -/

/-- An answer that a worker takes in. If it rests then, jitter multiplies the delay by `factor`. -/
structure Turn (β : Type u) where
  answer : Except SourceError Assignment
  factor : β

namespace Turn

/-- The task that was handed out, if one was. -/
def task? (turn : Turn β) : Option Task :=
  match turn.answer with
  | .ok a => a.task?
  | .error _ => none

/-- Whether there is nothing to do now, or the source is unavailable. -/
def isIdle (turn : Turn β) : Bool :=
  match turn.answer with
  | .ok .noTask | .error (.unavailable _) => true
  | _ => false

/-- Whether the source has stopped. -/
def isEnd (turn : Turn β) : Bool :=
  match turn.answer with
  | .error .terminated => true
  | _ => false

end Turn

/-- The tasks that were handed out, in turn. -/
def tasks (script : List (Turn β)) : List Task := script.filterMap Turn.task?

/-- What a worker remembers when it has run some tasks. -/
def remembered (runners : Nat → Runner) (memory : Memory) (ran : List Task) : Memory :=
  ran.zipIdx.foldl (fun m e => ((runners e.2).perform e.1 m).2) memory

/-- The outcome of a task that a worker runs after some others. -/
def outcome (runners : Nat → Runner) (memory : Memory) (ran : List Task) (t : Task) : Outcome :=
  ((runners ran.length).perform t (remembered runners memory ran)).1

/-- How many of the last answers in a row have said that there is nothing to do. -/
def idleCount (script : List (Turn β)) : Nat := (script.rtakeWhile Turn.isIdle).length

/-- The number of an attempt; from the greatest word on, attempts are not counted. -/
def attempt (n : Nat) : UInt32 := .ofNat (min n (wordCount 32 - 1))

variable [Quantity β] (runners : Nat → Runner) (h : Handle) (memory : Memory) (backoff : Backoff β)

/-- What a worker does upon an answer, when it has taken in others before. -/
def response (before : List (Turn β)) (turn : Turn β) : List Act :=
  match turn.answer with
  | .ok (.task t) => [.work t, .handIn ⟨t.id, outcome runners memory (tasks before) t, h.name⟩]
  | .ok .noTask | .error (.unavailable _) =>
    [.rest (backoff.delay turn.factor (attempt (idleCount (before ++ [turn])))), .ask]
  | .error .terminated => [.stop .terminated]

/-- What a worker does upon answers, when it has taken in others before. -/
def responses (before : List (Turn β)) : List (Turn β) → List Act
  | [] => []
  | turn :: later =>
    response runners h memory backoff before turn ++ responses (before ++ [turn]) later

/-- What a worker does in all: it asks, and then does what follows from the answers. -/
def account (script : List (Turn β)) : List Act := .ask :: responses runners h memory backoff [] script

section

omit [Quantity β]

theorem tasks_concat (script : List (Turn β)) (turn : Turn β) :
    tasks (script ++ [turn]) = tasks script ++ turn.task?.toList := by
  rw [tasks, List.filterMap_append, tasks]
  cases handed : turn.task? <;> simp [handed]

theorem remembered_concat (ran : List Task) (t : Task) :
    remembered runners memory (ran ++ [t]) =
      ((runners ran.length).perform t (remembered runners memory ran)).2 := by
  rw [remembered, List.zipIdx_append, List.foldl_append]
  simp [remembered]

theorem idleCount_concat (script : List (Turn β)) (turn : Turn β) :
    idleCount (script ++ [turn]) = if turn.isIdle then idleCount script + 1 else 0 := by
  rw [idleCount, List.rtakeWhile_concat]
  split <;> simp [idleCount]

end

theorem response_of_idle (before : List (Turn β)) {turn : Turn β} (idle : turn.isIdle = true) :
    response runners h memory backoff before turn =
      [.rest (backoff.delay turn.factor (attempt (idleCount (before ++ [turn])))), .ask] := by
  obtain ⟨answer, factor⟩ := turn
  unfold Turn.isIdle at idle
  unfold response
  split at idle <;> simp_all

theorem responses_concat (before script : List (Turn β)) (turn : Turn β) :
    responses runners h memory backoff before (script ++ [turn]) =
      responses runners h memory backoff before script
        ++ response runners h memory backoff (before ++ script) turn := by
  induction script generalizing before with
  | nil => simp [responses]
  | cons first script ih => simp [responses, ih, List.append_assoc]

theorem account_concat (script : List (Turn β)) (turn : Turn β) :
    account runners h memory backoff (script ++ [turn]) =
      account runners h memory backoff script ++ response runners h memory backoff script turn := by
  rw [account, responses_concat]
  rfl

theorem account_concat_of_idle (script : List (Turn β)) {turn : Turn β} (idle : turn.isIdle = true) :
    account runners h memory backoff (script ++ [turn]) =
      account runners h memory backoff script
        ++ [.rest (backoff.delay turn.factor (attempt (idleCount (script ++ [turn])))), .ask] := by
  rw [account_concat, response_of_idle _ _ _ _ _ idle]

/-! ### A worker and what is told of it -/

/-- Whether a signal takes a worker back, or ends it by force. -/
def Signal.isCut : Signal β → Bool
  | .cancel | .kill => true
  | _ => false

/-- The answer that a worker takes in with a signal, if it takes in one. -/
def turn? (w : Worker β) (s : Signal β) : Option (Turn β) :=
  match w.phase, s with
  | .asking, .reply answer factor => some ⟨answer, factor⟩
  | _, _ => none

/-- The call that a worker makes when its task has been run or its rest is over, or to begin with. -/
def due (runner : Runner) (w : Worker β) : List Act :=
  match w.phase with
  | .fresh | .resting => [.ask]
  | .working t => [.handIn ⟨t.id, (runner.perform t w.memory).1, w.handle.name⟩]
  | .asking | .ended _ => []

/-- A worker, what it did, and the answers that it took in. -/
structure Day (β : Type u) where
  worker : Worker β
  acts : List Act := []
  script : List (Turn β) := []

namespace Day

/-- Tells the worker something. -/
def tell (d : Day β) (s : Signal β) : Day β where
  worker := (d.worker.step (runners d.worker.completed) s).1
  acts := d.acts ++ (d.worker.step (runners d.worker.completed) s).2
  script := d.script ++ (d.worker.turn? s).toList

def after (d : Day β) (signals : List (Signal β)) : Day β := signals.foldl (tell runners) d

/-- A worker takes in the answer that it waits for. -/
theorem script_tell_reply {d : Day β} (asking : d.worker.phase = .asking) (turn : Turn β) :
    (d.tell runners (.reply turn.answer turn.factor)).script = d.script ++ [turn] := by
  simp [tell, turn?, asking]

/-- A worker whose runner does the same every time. -/
theorem after_const (runner : Runner) (d : Day β) (signals : List (Signal β)) :
    (d.after (fun _ => runner) signals).worker = (d.worker.run runner signals).1 ∧
      (d.after (fun _ => runner) signals).acts = d.acts ++ (d.worker.run runner signals).2 := by
  induction signals generalizing d with
  | nil => exact ⟨rfl, (List.append_nil _).symm⟩
  | cons s signals ih =>
    obtain ⟨worker, acts⟩ := ih (d.tell (fun _ => runner) s)
    refine ⟨worker, acts.trans ?_⟩
    exact List.append_assoc ..

end Day

/-! ### Where a worker stands -/

omit [Quantity β] in
theorem attempt_advance {p : Pacer β} {n : Nat} (counted : p.attempt = attempt n) :
    p.advance.attempt = attempt (n + 1) := by
  have words : wordCount 32 = 2 ^ 32 := rfl
  rw [Pacer.advance]
  dsimp only
  rw [counted, attempt, attempt]
  by_cases full : wordCount 32 - 1 ≤ n
  · rw [Nat.min_eq_right full, Nat.min_eq_right (Nat.le_succ_of_le full)]
    rfl
  · have more : min (n + 1) (wordCount 32 - 1) = n + 1 := by omega
    rw [Nat.min_eq_left (by omega), more, if_neg, UInt32.ofNat_add]
    · rfl
    · intro greatest
      have same := congrArg UInt32.toNat greatest
      rw [UInt32.toNat_ofNat_of_lt' (by rw [words] at full; show n < 2 ^ 32; omega)] at same
      rw [words] at full
      have : n = 2 ^ 32 - 1 := same
      omega

/-- A worker that has taken in answers and has run all the tasks that it was given. -/
def stood (script : List (Turn β)) (phase : Phase) (bell : Bell) : Worker β where
  handle := h
  link := { name := h.name, bell }
  memory := remembered runners memory (tasks script)
  pacer := { backoff, attempt := attempt (idleCount script) }
  phase
  completed := (tasks script).length

omit [Quantity β] in
theorem stood_concat_task (script : List (Turn β)) (t : Task) (factor : β) (phase : Phase) (bell : Bell) :
    stood runners h memory backoff (script ++ [⟨.ok (.task t), factor⟩]) phase bell =
      { stood runners h memory backoff script phase bell with
        memory := ((runners (tasks script).length).perform t (remembered runners memory (tasks script))).2
        pacer := { backoff }
        completed := (tasks script).length + 1 } := by
  have handed : tasks (script ++ [⟨.ok (.task t), factor⟩]) = tasks script ++ [t] := tasks_concat ..
  have busy : idleCount (script ++ [⟨.ok (.task t), factor⟩]) = 0 := idleCount_concat ..
  rw [stood, handed, busy, remembered_concat, List.length_append]
  rfl

omit [Quantity β] in
theorem stood_concat_idle (script : List (Turn β)) {turn : Turn β} (idle : turn.isIdle = true) (phase : Phase)
    (bell : Bell) :
    stood runners h memory backoff (script ++ [turn]) phase bell =
      { stood runners h memory backoff script phase bell with
        pacer := { backoff, attempt := attempt (idleCount (script ++ [turn])) } } := by
  have none : turn.task? = none := by
    unfold Turn.isIdle at idle
    unfold Turn.task?
    split at idle <;> simp_all [Assignment.task?]
  rw [stood, tasks_concat, none, Option.toList_none, List.append_nil]
  rfl

/-- The next delay is that of one more attempt. -/
theorem next_stood (script : List (Turn β)) {turn : Turn β} (idle : turn.isIdle = true) (phase : Phase)
    (bell : Bell) :
    (stood runners h memory backoff script phase bell).pacer.next turn.factor =
      (backoff.delay turn.factor (attempt (idleCount (script ++ [turn]))),
        { backoff, attempt := attempt (idleCount (script ++ [turn])) }) := by
  have counted : (stood runners h memory backoff script phase bell).pacer.advance.attempt =
      attempt (idleCount (script ++ [turn])) := by
    rw [idleCount_concat, if_pos idle]
    exact attempt_advance rfl
  rw [← counted]
  rfl

/-- Where a worker stands that is not taken back: what it is, what it did, and which answers it took in. -/
inductive Day.Stands : Day β → Prop
  /-- It has not begun. -/
  | fresh (kept : Bool) : Stands { worker := stood runners h memory backoff [] .fresh ⟨kept, 0⟩ }
  /-- It waits for the answer to a call. -/
  | asking (script : List (Turn β)) (kept : Bool) (goes : ∀ turn ∈ script, turn.isEnd = false) :
    Stands
      { worker := stood runners h memory backoff script .asking ⟨kept, 0⟩
        acts := account runners h memory backoff script
        script }
  /-- It runs the task that it was given last. -/
  | working (script : List (Turn β)) (t : Task) (factor : β) (kept : Bool)
    (goes : ∀ turn ∈ script, turn.isEnd = false) :
    Stands
      { worker :=
          { stood runners h memory backoff script (.working t) ⟨kept, 0⟩ with pacer := { backoff } }
        acts := account runners h memory backoff script ++ [.work t]
        script := script ++ [⟨.ok (.task t), factor⟩] }
  /-- It rests, since there was nothing to do. -/
  | resting (script : List (Turn β)) (turn : Turn β) (idle : turn.isIdle = true)
    (goes : ∀ turn ∈ script, turn.isEnd = false) :
    Stands
      { worker := stood runners h memory backoff (script ++ [turn]) .resting ⟨false, 1⟩
        acts := account runners h memory backoff script
          ++ [.rest (backoff.delay turn.factor (attempt (idleCount (script ++ [turn]))))]
        script := script ++ [turn] }
  /-- The source has stopped, and so has the worker. -/
  | ended (script : List (Turn β)) (factor : β) (bell : Bell) (goes : ∀ turn ∈ script, turn.isEnd = false) :
    Stands
      { worker :=
          { stood runners h memory backoff script (.ended .terminated) bell with
            link := { name := h.name, bell, alive := false } }
        acts := account runners h memory backoff script ++ [.stop .terminated]
        script := script ++ [⟨.error .terminated, factor⟩] }

namespace Day.Stands

variable {runners h memory backoff} {d : Day β}

/-- A signal that does not fit changes nothing. -/
theorem still (stands : d.Stands runners h memory backoff) :
    Stands runners h memory backoff { d with acts := d.acts ++ [], script := d.script ++ [] } := by
  rw [List.append_nil, List.append_nil]
  exact stands

omit [Quantity β] in
theorem goes_concat {script : List (Turn β)} (goes : ∀ turn ∈ script, turn.isEnd = false) {turn : Turn β}
    (more : turn.isEnd = false) : ∀ turn' ∈ script ++ [turn], turn'.isEnd = false := by
  intro turn' mem
  rcases List.mem_append.mp mem with mem | last
  · exact goes turn' mem
  · exact List.mem_singleton.mp last ▸ more

omit [Quantity β] in
theorem isEnd_of_isIdle {turn : Turn β} (idle : turn.isIdle = true) : turn.isEnd = false := by
  unfold Turn.isIdle at idle
  unfold Turn.isEnd
  split at idle <;> simp_all

/-- With nothing to do, the worker rests, unless the bell has kept a ring; then it asks at once. -/
theorem rests (script : List (Turn β)) (turn : Turn β) (idle : turn.isIdle = true) (kept : Bool)
    (goes : ∀ turn ∈ script, turn.isEnd = false) :
    let rested := (stood runners h memory backoff script .asking ⟨kept, 0⟩).rest turn.factor
    Stands runners h memory backoff
      { worker := rested.1
        acts := account runners h memory backoff script ++ rested.2
        script := script ++ [turn] } := by
  intro rested
  have next := next_stood runners h memory backoff script idle .asking ⟨kept, 0⟩
  cases kept with
  | false =>
    have stands : Stands runners h memory backoff _ := .resting script turn idle goes
    rw [stood_concat_idle _ _ _ _ _ idle] at stands
    simp only [rested, Worker.rest, next]
    exact stands
  | true =>
    have stands : Stands runners h memory backoff _ :=
      .asking (script ++ [turn]) false (goes_concat goes (isEnd_of_isIdle idle))
    rw [account_concat_of_idle _ _ _ _ _ idle, stood_concat_idle _ _ _ _ _ idle] at stands
    simp only [rested, Worker.rest, next]
    exact stands

theorem tell (stands : d.Stands runners h memory backoff) {s : Signal β} (uncut : s.isCut = false) :
    (d.tell runners s).Stands runners h memory backoff := by
  cases stands with
  | fresh kept =>
    cases s with
    | start => exact .asking [] kept (List.forall_mem_nil _)
    | reply | finish | alarm => exact .fresh kept
    | ring => exact .fresh true
    | cancel | kill => cases uncut
  | asking script kept goes =>
    cases s with
    | start | finish | alarm => exact still (.asking script kept goes)
    | ring => exact still (.asking script true goes)
    | reply answer factor =>
      cases answer with
      | ok a =>
        cases a with
        | task t => exact .working script t factor kept goes
        | noTask => exact rests script ⟨.ok .noTask, factor⟩ rfl kept goes
      | error e =>
        cases e with
        | terminated => exact .ended script factor ⟨kept, 0⟩ goes
        | unavailable reason =>
          exact rests script ⟨.error (.unavailable reason), factor⟩ rfl kept goes
    | cancel | kill => cases uncut
  | working script t factor kept goes =>
    cases s with
    | start | reply | alarm => exact still (.working script t factor kept goes)
    | ring => exact still (.working script t factor true goes)
    | finish =>
      have stands : Stands runners h memory backoff _ :=
        .asking (script ++ [⟨.ok (.task t), factor⟩]) kept (goes_concat goes rfl)
      rw [account_concat, stood_concat_task] at stands
      show Stands _ _ _ _ ⟨_, (_ ++ [_]) ++ [_], _ ++ []⟩
      rw [List.append_assoc, List.append_nil]
      exact stands
    | cancel | kill => cases uncut
  | resting script turn idle goes =>
    cases s with
    | start | reply | finish => exact still (.resting script turn idle goes)
    | alarm | ring =>
      have stands : Stands runners h memory backoff _ :=
        .asking (script ++ [turn]) false (goes_concat goes (isEnd_of_isIdle idle))
      rw [account_concat_of_idle _ _ _ _ _ idle] at stands
      show Stands _ _ _ _ ⟨_, (_ ++ [_]) ++ [_], _ ++ []⟩
      rw [List.append_assoc, List.append_nil]
      exact stands
    | cancel | kill => cases uncut
  | ended script factor bell goes => exact still (.ended script factor bell goes)

theorem after (stands : d.Stands runners h memory backoff) {signals : List (Signal β)}
    (uncut : ∀ s ∈ signals, s.isCut = false) : (d.after runners signals).Stands runners h memory backoff := by
  induction signals generalizing d with
  | nil => exact stands
  | cons s signals ih =>
    obtain ⟨first, rest⟩ := List.forall_mem_cons.mp uncut
    exact ih (stands.tell first) rest

theorem acts_eq (stands : d.Stands runners h memory backoff) :
    d.acts ++ d.worker.due (runners d.worker.completed) = account runners h memory backoff d.script := by
  cases stands with
  | fresh => rfl
  | asking => exact List.append_nil _
  | working =>
    rw [account_concat]
    exact List.append_assoc ..
  | resting script turn idle =>
    rw [account_concat_of_idle _ _ _ _ _ idle]
    exact List.append_assoc ..
  | ended =>
    rw [account_concat]
    exact List.append_nil _

/-- Nothing is taken in after the answer that the source has stopped. -/
theorem isEnd_of_mem_dropLast (stands : d.Stands runners h memory backoff) :
    ∀ turn ∈ d.script.dropLast, turn.isEnd = false := by
  cases stands with
  | fresh => exact List.forall_mem_nil _
  | asking script kept goes => exact fun turn mem => goes turn ((List.dropLast_sublist _).subset mem)
  | working script t factor kept goes | resting script turn idle goes | ended script factor bell goes =>
    dsimp only
    rw [List.dropLast_concat]
    exact goes

/-- A worker has ended if it was told that the source has stopped. -/
theorem hasEnded_eq (stands : d.Stands runners h memory backoff) :
    d.worker.hasEnded = d.script.any Turn.isEnd := by
  have none {script : List (Turn β)} (goes : ∀ turn ∈ script, turn.isEnd = false) :
      false = script.any Turn.isEnd :=
    (List.any_eq_false.mpr fun turn mem => Bool.eq_false_iff.mp (goes turn mem)).symm
  cases stands with
  | fresh => rfl
  | asking script kept goes => exact none goes
  | working script t factor kept goes => exact none (goes_concat goes rfl)
  | resting script turn idle goes => exact none (goes_concat goes (isEnd_of_isIdle idle))
  | ended script factor bell goes =>
    dsimp only
    rw [List.any_append, ← none goes]
    rfl

/-- A worker that has ended has run all its tasks, and its link says so. -/
theorem of_hasEnded (stands : d.Stands runners h memory backoff) (ends : d.worker.hasEnded = true) :
    d.worker.phase = .ended .terminated ∧ d.worker.completed = (tasks d.script).length ∧
      d.worker.link.ping = .error (.stopped h.name) := by
  cases stands with
  | fresh | asking | working | resting => cases ends
  | ended script factor bell goes =>
    refine ⟨rfl, ?_, rfl⟩
    dsimp only
    rw [tasks_concat]
    exact (congrArg List.length (List.append_nil _)).symm

theorem ping_of_goes (stands : d.Stands runners h memory backoff) (goes : d.worker.hasEnded = false) :
    d.worker.link.ping = .ok () := by
  cases stands with
  | fresh | asking | working | resting => rfl
  | ended => cases goes

/-- Whatever a worker waits for, when it is over, it has made a call. -/
theorem asks (stands : d.Stands runners h memory backoff) (goes : d.worker.hasEnded = false) :
    (d.after runners [.start, .finish, .alarm]).worker.phase = .asking ∧
      (d.after runners [.start, .finish, .alarm]).script = d.script := by
  cases stands with
  | fresh kept => exact ⟨rfl, rfl⟩
  | asking script kept => exact ⟨rfl, by simp [Day.after, Day.tell, stood, Worker.step, turn?]⟩
  | working script t factor kept =>
    exact ⟨rfl, by simp [Day.after, Day.tell, stood, Worker.step, turn?, finish]⟩
  | resting script turn => exact ⟨rfl, by simp [Day.after, Day.tell, stood, Worker.step, turn?]⟩
  | ended => cases goes

theorem takes (stands : d.Stands runners h memory backoff) (goes : d.worker.hasEnded = false)
    (turn : Turn β) :
    (d.after runners [.start, .finish, .alarm, .reply turn.answer turn.factor]).script =
      d.script ++ [turn] := by
  obtain ⟨asking, same⟩ := stands.asks goes
  calc
    _ = ((d.after runners [.start, .finish, .alarm]).tell runners (.reply turn.answer turn.factor)).script :=
      rfl
    _ = (d.after runners [.start, .finish, .alarm]).script ++ [turn] := script_tell_reply runners asking turn
    _ = d.script ++ [turn] := by rw [same]

end Day.Stands

/-- **What a worker does is told by the answers that it gets.** Let a worker be told anything in any order, but let
it not be taken back or killed. What it did, and the call that is due, are the account of the answers that it
took in: it asks to begin with; when it was given a task, it runs this on the memory that the tasks before have
left, and hands in what came of it; when there was nothing to do, it rests for the delay of the attempt, counted
since the last task, and asks. Nothing is taken in after the answer that the source has stopped. With this the
worker has ended, has run as many tasks as it was given, and does not answer a ping. Otherwise it has not ended,
and takes in whatever is answered next, when its task has been run or its rest is over. -/
theorem account_eq (signals : List (Signal β)) (uncut : ∀ s ∈ signals, s.isCut = false) :
    let d := Day.after runners { worker := .new h memory backoff } signals
    d.acts ++ d.worker.due (runners d.worker.completed) = account runners h memory backoff d.script ∧
      (∀ turn ∈ d.script.dropLast, turn.isEnd = false) ∧
      (d.script.any Turn.isEnd = true →
        d.worker.phase = .ended .terminated ∧ d.worker.completed = (tasks d.script).length ∧
          d.worker.link.ping = .error (.stopped h.name)) ∧
      (d.script.any Turn.isEnd = false →
        d.worker.hasEnded = false ∧ d.worker.link.ping = .ok () ∧
          ∀ turn : Turn β, (d.after runners
            [.start, .finish, .alarm, .reply turn.answer turn.factor]).script = d.script ++ [turn]) := by
  intro d
  have stands : d.Stands runners h memory backoff := (Day.Stands.fresh false).after uncut
  refine ⟨stands.acts_eq, stands.isEnd_of_mem_dropLast, ?_, ?_⟩
  · intro ends
    exact stands.of_hasEnded (stands.hasEnded_eq.trans ends)
  · intro goes
    have goes : d.worker.hasEnded = false := stands.hasEnded_eq.trans goes
    exact ⟨goes, stands.ping_of_goes goes, stands.takes goes⟩

/-- It gives out what it remembers of the task before, and fails if it remembers none. -/
def recaller : Runner where
  perform t m :=
    (match m.get? "last" with
      | some j => .ok j
      | none => .error ⟨"nothing before", none⟩, m.insert "last" t.payload)

/-- A worker is woken early and late, is given two tasks, and is told that the source has stopped. -/
def busy : List (Signal Float) :=
  [.ring, .start, .reply (.ok .noTask) 1, .reply (.error (.unavailable "away")) 1, .ring,
    .reply (.ok (.task ⟨⟨7⟩, .str "a"⟩)) 1, .finish, .reply (.ok (.task ⟨⟨8⟩, .str "b"⟩)) 1, .ring,
    .finish, .reply (.ok .noTask) 1, .reply (.error .terminated) 1, .reply (.ok .noTask) 1]

/-- The kept ring ends the first rest at once, and the second rest is longer nevertheless. The first task
fails, and the second one still finds what it has left. -/
theorem account_eq_busy :
    (∀ s ∈ busy, s.isCut = false) ∧
      let w := (new ⟨1, "ann"⟩ ∅ ⟨.linear, 10, 25, false⟩).run recaller busy
      w.2 =
          [.ask, .rest 10, .ask, .rest 20, .ask,
            .work ⟨⟨7⟩, .str "a"⟩, .handIn ⟨⟨7⟩, .error ⟨"nothing before", none⟩, "ann"⟩,
            .work ⟨⟨8⟩, .str "b"⟩, .handIn ⟨⟨8⟩, .ok (.str "a"), "ann"⟩,
            .rest 10, .ask, .stop .terminated] ∧
        w.1.phase = .ended .terminated ∧ w.1.completed = 2 ∧ w.1.link.ping = .error (.stopped "ann") := by
  have uncut : ∀ s ∈ busy, s.isCut = false := by decide
  obtain ⟨told, -, ends, -⟩ :=
    account_eq (fun _ => recaller) ⟨1, "ann"⟩ ∅ ⟨.linear, 10, 25, false⟩ busy uncut
  obtain ⟨worker, acts⟩ :=
    Day.after_const recaller { worker := new ⟨1, "ann"⟩ ∅ ⟨.linear, 10, 25, false⟩ } busy
  rw [acts] at told
  rw [worker] at ends
  exact ⟨uncut, (List.append_nil _).symm.trans told, ends rfl⟩

end Worker

end WorkFarm
