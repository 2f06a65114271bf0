import WorkFarm.Dispatcher.Batch
/-!
# Moves of a dispatcher

`Dispatcher.run` serves whole batches, and a batch has one `Attendance` from its first call to its
last. But an invariant has to hold at every point between two calls, while callers may leave at any
time and the world of the collaborators goes on by itself. So the theory is about *moves*: one call is
served, the parked wait is looked at once more, or something happens to the world that the dispatcher
takes no part in. A list of moves is a run, cut wherever one likes.

Moves may come in any order, so what holds after all lists of moves does not hang on the order in which
a batch is served. Where that order matters, the moves are those of a *round*: the calls of a batch are
served in turn, and at the end there is a look. Between two calls of a round anybody may leave. A batch
is a round in which the same callers are away from beginning to end, so that every run of batches is a
run of moves (`run_eq_moves`).

## Main definitions

* `Dispatcher.Move`, `Dispatcher.move` — what happens in one go
* `Dispatcher.moves` — a run
* `Dispatcher.since` — what was done from one dispatcher to another
* `Move.worker?`, `Move.result?`, `Move.call?`, `Move.present?` — who makes a move, the result that it
  brings, the call that is served, and who is still there
* `Move.Misses` — somebody is away while a move is made
* `Dispatcher.Serves` — calls are served in turn
* `Dispatcher.Round` — the moves by which a batch is served
* `Dispatcher.Batch.moves`, `Dispatcher.Batch.round` — a batch as a run, and as a round
-/

namespace WorkFarm

/-- The answer that was given last, if this is what was done last. -/
def Journal.lastAnswer? (j : Journal) : Option Answer :=
  match j.getLast? with
  | some (.answered _ a) => some a
  | _ => none

/-- The instance of a worker that calls, if one does. -/
def Call.worker? (call : Call) : Option Handle :=
  match call.request with
  | .requestTask h => some h
  | .handIn _ h => some h
  | _ => none

/-- The result that is handed in, if one is. -/
def Call.result? (call : Call) : Option TaskResult :=
  match call.request with
  | .handIn r _ => some r
  | _ => none

/-- The caller has gone, or leaves while its answer is on its way. -/
def Attendance.Misses (present : Attendance) (caller : Nat) : Prop :=
  present.gone caller = true ∨ present.leaves caller = true

namespace Dispatcher

universe u

/-- What happens to a dispatcher in one go. -/
inductive Move (σ : Type u) where
  /-- A call is served, or refused. -/
  | call (present : Attendance) (call : Call)
  /-- The parked wait is looked at. -/
  | look (present : Attendance)
  /-- The world of the collaborators changes by itself. -/
  | outside (change : σ → σ)

variable {σ : Type u} (c : Collaborators σ)

/-- The instance of a worker that makes a move, if one does. -/
def Move.worker? : Move σ → Option Handle
  | .call _ asked => asked.worker?
  | _ => none

/-- The result that a move brings, if it brings one. -/
def Move.result? : Move σ → Option TaskResult
  | .call _ asked => asked.result?
  | _ => none

/-- The call that is served by a move, if one is. -/
def Move.call? : Move σ → Option Call
  | .call _ asked => some asked
  | _ => none

/-- Who is still there while a move is made, if anybody is asked. -/
def Move.present? : Move σ → Option Attendance
  | .call present _ | .look present => some present
  | .outside _ => none

/-- A caller is away while a move is made. -/
def Move.Misses (m : Move σ) (caller : Nat) : Prop :=
  ∃ present ∈ m.present?, present.Misses caller

/-- Makes a move. -/
def move (d : Dispatcher σ) : Move σ → Dispatcher σ
  | .call present call => d.serveOrRefuse c present call
  | .look present => d.serveParked present
  | .outside change => { d with world := change d.world }

/-- Makes moves, one after another. -/
def moves (d : Dispatcher σ) (ms : List (Move σ)) : Dispatcher σ := ms.foldl (move c) d

@[simp] theorem moves_nil (d : Dispatcher σ) : d.moves c [] = d := rfl

@[simp] theorem moves_cons (d : Dispatcher σ) (m : Move σ) (ms : List (Move σ)) :
    d.moves c (m :: ms) = (d.move c m).moves c ms := rfl

theorem moves_append (d : Dispatcher σ) (ms ms' : List (Move σ)) :
    d.moves c (ms ++ ms') = (d.moves c ms).moves c ms' :=
  List.foldl_append ..

/-! ### What was done -/

/-- What was done from one dispatcher to another, if the second has come from the first. -/
def since (d d' : Dispatcher σ) : Journal := d'.journal.drop d.journal.length

theorem since_eq {d d' : Dispatcher σ} {es : Journal} (h : d'.journal = d.journal ++ es) :
    d.since d' = es := by
  rw [since, h, List.drop_left]

/-- What was done stays done. -/
theorem mem_since_of_prefix {d d₁ d₂ : Dispatcher σ} {e : Entry}
    (later : d₁.journal <+: d₂.journal) (mem : e ∈ d.since d₁) : e ∈ d.since d₂ := by
  obtain ⟨es, journal⟩ := later
  rw [since, ← journal, List.drop_append]
  exact List.mem_append_left _ mem

/-- What was done later was done since before. -/
theorem mem_since_of_since {d d₁ d₂ : Dispatcher σ} {e : Entry}
    (earlier : d.journal <+: d₁.journal) (mem : e ∈ d₁.since d₂) : e ∈ d.since d₂ :=
  (List.drop_sublist_drop_left _ earlier.length_le).subset mem

/-! ### Rounds -/

/-- Some calls are served in turn, and the parked wait is not looked at between them. Meanwhile callers
may leave, and the world may change. -/
inductive Serves : List Call → List (Move σ) → Prop
  | done : Serves [] []
  | call (present : Attendance) (call : Call) {calls : List Call} {ms : List (Move σ)}
    (rest : Serves calls ms) : Serves (call :: calls) (.call present call :: ms)
  | outside (change : σ → σ) {calls : List Call} {ms : List (Move σ)} (rest : Serves calls ms) :
    Serves calls (.outside change :: ms)

namespace Serves

variable {calls calls' : List Call} {ms ms' : List (Move σ)}

/-- The calls that are served can be read off the moves. -/
theorem calls_eq (serves : Serves calls ms) : ms.filterMap Move.call? = calls := by
  induction serves with
  | done => rfl
  | call present call _ ih => exact congrArg (call :: ·) ih
  | outside _ _ ih => exact ih

theorem of_calls (present : Attendance) (calls : List Call) :
    Serves calls (calls.map (Move.call (σ := σ) present)) := by
  induction calls with
  | nil => exact .done
  | cons call calls ih => exact .call present call ih

/-- If calls are served in turn, those in front are served first. -/
theorem of_append (serves : Serves (calls ++ calls') ms) :
    ∃ ms₁ ms₂, ms = ms₁ ++ ms₂ ∧ Serves calls ms₁ ∧ Serves calls' ms₂ := by
  generalize whole : calls ++ calls' = all at serves
  induction serves generalizing calls with
  | done =>
    obtain ⟨rfl, rfl⟩ := List.append_eq_nil_iff.mp whole
    exact ⟨[], [], rfl, .done, .done⟩
  | @call present call all ms rest ih =>
    cases calls with
    | nil =>
      subst whole
      exact ⟨[], _, rfl, .done, .call present call rest⟩
    | cons first calls =>
      obtain ⟨rfl, later⟩ := List.cons.inj whole
      obtain ⟨ms₁, ms₂, rfl, front, back⟩ := ih later
      exact ⟨_, ms₂, rfl, .call present first front, back⟩
  | outside change _ ih =>
    obtain ⟨ms₁, ms₂, rfl, front, back⟩ := ih whole
    exact ⟨_, ms₂, rfl, .outside change front, back⟩

/-- Wherever the moves are cut, the calls are cut, too. -/
theorem split (serves : Serves calls (ms ++ ms')) :
    ∃ front back, calls = front ++ back ∧ Serves front ms ∧ Serves back ms' := by
  induction ms generalizing calls with
  | nil => exact ⟨[], calls, rfl, .done, serves⟩
  | cons m ms ih =>
    cases serves with
    | call present call rest =>
      obtain ⟨front, back, rfl, first, last⟩ := ih rest
      exact ⟨call :: front, back, rfl, .call present call first, last⟩
    | outside change rest =>
      obtain ⟨front, back, rfl, first, last⟩ := ih rest
      exact ⟨front, back, rfl, .outside change first, last⟩

/-- A call is served by a move of its own. -/
theorem of_cons {call : Call} (serves : Serves (call :: calls) ms) :
    ∃ ms₁ present ms₂, ms = ms₁ ++ .call present call :: ms₂ ∧ Serves [] ms₁ ∧ Serves calls ms₂ := by
  generalize whole : call :: calls = all at serves
  induction serves with
  | done => cases whole
  | call present _ rest =>
    obtain ⟨rfl, rfl⟩ := List.cons.inj whole
    exact ⟨[], present, _, rfl, .done, rest⟩
  | outside change _ ih =>
    obtain ⟨ms₁, present, ms₂, rfl, front, back⟩ := ih whole
    exact ⟨_, present, ms₂, rfl, .outside change front, back⟩

theorem append (front : Serves calls ms) (back : Serves calls' ms') :
    Serves (calls ++ calls') (ms ++ ms') := by
  induction front with
  | done => exact back
  | call present call _ ih => exact .call present call ih
  | outside change _ ih => exact .outside change ih

end Serves

/-- A batch is served: all its calls in turn, and then the parked wait is looked at. -/
structure Round (σ : Type u) where
  /-- The calls, in order of arrival. -/
  calls : List Call
  /-- The moves by which the calls are served. -/
  serving : List (Move σ)
  /-- Who is still there in the end. -/
  present : Attendance := {}
  serves : Serves (inTurn calls) serving

/-- The moves of a round. -/
def Round.moves (r : Round σ) : List (Move σ) := r.serving ++ [.look r.present]

/-! ### Batches -/

/-- A batch is a round during which nobody comes or goes. -/
def Batch.round (b : Batch) : Round σ where
  calls := b.calls
  serving := (inTurn b.calls).map (.call b.present)
  present := b.present
  serves := .of_calls b.present _

/-- The moves of a batch: its calls in turn, and a look at the parked wait. -/
def Batch.moves (b : Batch) : List (Move σ) :=
  (inTurn b.calls).map (.call b.present) ++ [.look b.present]

theorem moves_calls (d : Dispatcher σ) (present : Attendance) (calls : List Call) :
    d.moves c (calls.map (.call present)) = calls.foldl (serveOrRefuse c present) d :=
  List.foldl_map

theorem process_eq_moves (d : Dispatcher σ) (b : Batch) :
    d.process c b.present b.calls = d.moves c b.moves := by
  rw [Batch.moves, moves_append, moves_calls]
  rfl

/-- A run of batches is the run of all their moves. -/
theorem run_eq_moves (d : Dispatcher σ) (batches : List Batch) :
    d.run c batches = d.moves c (batches.flatMap Batch.moves) := by
  induction batches generalizing d with
  | nil => rfl
  | cons b batches ih =>
    rw [List.flatMap_cons, moves_append, ← process_eq_moves]
    exact ih (d.process c b.present b.calls)

end Dispatcher

end WorkFarm
