import Mathlib.Data.List.Chain
import WorkFarm.Proofs.Workday
import WorkFarm.Worker.Script
/-!
# Handing results in

A worker that has run a task hands the result in together with its next request, and keeps no copy. If the
source is unavailable then, the worker takes this for the answer that there is nothing to do: it rests, and asks
for a task without the result. So the result is lost. The task stays with the dispatcher, which takes a worker
that asks without a result for one that holds no task.

Whether results are lost therefore depends on the source alone. Call a diary *kept* if no call is made while a
result is owed, except to hand this result in. The diary of a worker is kept unless a call follows the answer,
to a result that was handed in, that the source is unavailable (`Worker.kept_iff`).

In a diary every note follows from the one before it: a call is answered, the answer says what is done, and a
task that was run is handed in. All of the above is read off this one relation (`Worker.Note.Leads`).

## Main definitions

* `Worker.Note`, `Worker.Diary` — what a worker does and learns, in turn
* `Worker.Note.Leads` — which note follows from which
* `Worker.Taken`, `Worker.Kept`, `Worker.Dropped` — what becomes of results

## Main statements

* `Worker.Diary.Sound.after` — every note of a diary follows from the one before it
* `Worker.kept_iff` — a diary is kept unless a result was dropped
-/

namespace WorkFarm

universe u

namespace Worker

variable {β : Type u}

/-! ### Diaries -/

/-- Something that a worker does or learns. -/
inductive Note where
  /-- Its call is answered. -/
  | heard (answer : Except SourceError Assignment)
  /-- It has run a task. -/
  | ran (r : TaskResult)
  | did (act : Act)

/-- Whether it is a call to the source. -/
def Act.isCall : Act → Bool
  | .ask | .handIn _ => true
  | _ => false

/-- What a worker learns with a signal. -/
def learnt (runner : Runner) (w : Worker β) (s : Signal β) : List Note :=
  match w.phase, s with
  | .asking, .reply answer _ => [.heard answer]
  | .working t, .finish => [.ran ⟨t.id, (runner.perform t w.memory).1, w.handle.name⟩]
  | _, _ => []

variable [Quantity β] (runners : Nat → Runner)

/-- What a worker notes upon a signal. -/
def noted (runner : Runner) (w : Worker β) (s : Signal β) : List Note :=
  w.learnt runner s ++ (w.step runner s).2.map .did

/-- A worker with its diary. -/
structure Diary (β : Type u) where
  worker : Worker β
  notes : List Note := []

namespace Diary

/-- Tells the worker something. -/
def tell (d : Diary β) (s : Signal β) : Diary β where
  worker := (d.worker.step (runners d.worker.completed) s).1
  notes := d.notes ++ d.worker.noted (runners d.worker.completed) s

def after (d : Diary β) (signals : List (Signal β)) : Diary β := signals.foldl (tell runners) d

end Diary

/-- Which note follows from which, if nobody takes the worker back or kills it. -/
inductive Note.Leads : Note → Note → Prop
  | heard {call : Act} (calls : call.isCall = true) (answer : Except SourceError Assignment) :
    Leads (.did call) (.heard answer)
  | work (t : Task) : Leads (.heard (.ok (.task t))) (.did (.work t))
  | rest (delay : Nat) : Leads (.heard (.ok .noTask)) (.did (.rest delay))
  | retry (reason : String) (delay : Nat) :
    Leads (.heard (.error (.unavailable reason))) (.did (.rest delay))
  | stop : Leads (.heard (.error .terminated)) (.did (.stop .terminated))
  | ran (t : Task) (outcome : Outcome) (name : String) :
    Leads (.did (.work t)) (.ran ⟨t.id, outcome, name⟩)
  | handIn (r : TaskResult) : Leads (.ran r) (.did (.handIn r))
  | ask (delay : Nat) : Leads (.did (.rest delay)) (.did .ask)

/-- Where a worker stands by the last note of its diary. -/
inductive Phase.Fits : Phase → Option Note → Prop
  | fresh : Fits .fresh none
  | asking {call : Act} (calls : call.isCall = true) : Fits .asking (some (.did call))
  | working (t : Task) : Fits (.working t) (some (.did (.work t)))
  | resting (delay : Nat) : Fits .resting (some (.did (.rest delay)))
  | ended : Fits (.ended .terminated) (some (.did (.stop .terminated)))

/-- How many wait for the bell of a worker: the worker itself, if it rests. -/
def Phase.waiting : Phase → Nat
  | .resting => 1
  | _ => 0

/-- A diary in which everything follows from what was before. -/
structure Diary.Sound (d : Diary β) : Prop where
  chain : d.notes.IsChain Note.Leads
  opens : ∀ n ∈ d.notes.head?, n = .did .ask
  stands : d.worker.phase.Fits d.notes.getLast?
  waits : d.worker.link.bell.waiting = d.worker.phase.waiting
  goes : d.worker.cancelled = false

namespace Diary.Sound

variable {runners} {d : Diary β}

omit [Quantity β] in
/-- The worker goes on, and nothing is noted. -/
theorem still (sound : d.Sound) {w : Worker β} (stands : w.phase = d.worker.phase)
    (waits : w.link.bell.waiting = d.worker.link.bell.waiting) (goes : w.cancelled = false) :
    Sound { worker := w, notes := d.notes ++ [] } := by
  rw [List.append_nil]
  exact ⟨sound.chain, sound.opens, stands ▸ sound.stands, by rw [waits, sound.waits, stands], goes⟩

omit [Quantity β] in
/-- Something is noted that follows from the last note. -/
theorem more (sound : d.Sound) {w : Worker β} {last n : Note} {notes : List Note}
    (last? : d.notes.getLast? = some last) (chain : (last :: n :: notes).IsChain Note.Leads)
    (stands : w.phase.Fits (n :: notes).getLast?) (waits : w.link.bell.waiting = w.phase.waiting)
    (goes : w.cancelled = false) : Sound { worker := w, notes := d.notes ++ n :: notes } where
  chain := by
    refine sound.chain.append chain.tail fun m mem first same => ?_
    cases last?.symm.trans mem
    cases same
    exact chain.rel
  opens := by
    intro first mem
    cases begun : d.notes with
    | nil => cases begun ▸ last?
    | cons m rest =>
      rw [begun] at mem
      exact sound.opens first (by rw [begun]; exact mem)
  stands := by
    rw [List.getLast?_append_cons]
    exact stands
  waits
  goes

/-- With nothing to do, the worker rests, unless the bell has kept a ring; then it asks at once. -/
theorem rests (sound : d.Sound) (asking : d.worker.phase = .asking)
    {call : Act} (calls : call.isCall = true) (last? : d.notes.getLast? = some (.did call))
    {answer : Except SourceError Assignment} (idle : ∀ delay, Note.Leads (.heard answer) (.did (.rest delay)))
    (factor : β) :
    Sound
      { worker := (d.worker.rest factor).1
        notes := d.notes ++ .heard answer :: (d.worker.rest factor).2.map .did } := by
  obtain ⟨⟨h, ⟨name, ⟨kept, waiting⟩, alive⟩, memory, pacer, phase, completed, cancelled⟩, notes⟩ := d
  obtain rfl : phase = .asking := asking
  obtain rfl : waiting = 0 := sound.waits
  cases kept with
  | false =>
    refine sound.more last? (.cons_cons (.heard calls answer) ?_) (.resting _) rfl sound.goes
    exact List.isChain_pair.mpr (idle _)
  | true =>
    refine sound.more last? (.cons_cons (.heard calls answer) ?_) (.asking rfl) rfl sound.goes
    exact .cons_cons (idle _) (List.isChain_pair.mpr (.ask _))

theorem tell (sound : d.Sound) {s : Signal β} (uncut : s.isCut = false) : (d.tell runners s).Sound := by
  obtain ⟨⟨h, ⟨name, ⟨kept, waiting⟩, alive⟩, memory, pacer, phase, completed, cancelled⟩, notes⟩ := d
  obtain rfl : cancelled = false := sound.goes
  obtain rfl : waiting = phase.waiting := sound.waits
  -- where the worker stands, its last note is known, and what it notes next follows from this note
  have stands : phase.Fits notes.getLast? := sound.stands
  generalize last? : notes.getLast? = last at stands
  cases stands with
  | fresh =>
    obtain rfl : notes = [] := List.getLast?_eq_none_iff.mp last?
    cases s with
    | start => exact ⟨.singleton _, fun n mem => (Option.some.inj mem).symm, .asking rfl, rfl, rfl⟩
    | reply | finish | alarm | ring => exact sound.still rfl rfl rfl
    | cancel | kill => cases uncut
  | asking calls =>
    cases s with
    | start | finish | alarm | ring => exact sound.still rfl rfl rfl
    | reply answer factor =>
      have heard := Note.Leads.heard calls answer
      cases answer with
      | ok a =>
        cases a with
        | task t =>
          exact sound.more last? (.cons_cons heard (List.isChain_pair.mpr (.work t))) (.working t) rfl rfl
        | noTask => exact sound.rests rfl calls last? .rest factor
      | error e =>
        cases e with
        | terminated =>
          exact sound.more last? (.cons_cons heard (List.isChain_pair.mpr .stop)) .ended rfl rfl
        | unavailable reason => exact sound.rests rfl calls last? (.retry reason) factor
    | cancel | kill => cases uncut
  | working t =>
    cases s with
    | start | reply | alarm | ring => exact sound.still rfl rfl rfl
    | finish =>
      refine sound.more last? (.cons_cons (.ran t _ _) ?_) (.asking rfl) rfl rfl
      exact List.isChain_pair.mpr (.handIn _)
    | cancel | kill => cases uncut
  | resting delay =>
    cases s with
    | start | reply | finish => exact sound.still rfl rfl rfl
    | alarm | ring => exact sound.more last? (List.isChain_pair.mpr (.ask delay)) (.asking rfl) rfl rfl
    | cancel | kill => cases uncut
  | ended => exact sound.still rfl rfl rfl

/-- **Every note of a diary follows from the one before it**, and the first one is that the worker asks. -/
theorem after (sound : d.Sound) {signals : List (Signal β)} (uncut : ∀ s ∈ signals, s.isCut = false) :
    (d.after runners signals).Sound := by
  induction signals generalizing d with
  | nil => exact sound
  | cons s signals ih =>
    obtain ⟨first, rest⟩ := List.forall_mem_cons.mp uncut
    exact ih (sound.tell first) rest

end Diary.Sound

/-! ### What becomes of a result -/

/-- Whether the source was there to take what a call has brought. -/
def wasThere : Except SourceError Assignment → Bool
  | .error (.unavailable _) => false
  | _ => true

/-- A result was handed in, and the answer was an assignment, or that the source has stopped. -/
def Taken (r : TaskResult) (notes : List Note) : Prop :=
  ∃ answer, wasThere answer = true ∧ [.did (.handIn r), .heard answer] <:+: notes

/-- When a task was run, no call is made before its result is taken, except to hand it in. -/
def Kept (notes : List Note) : Prop :=
  ∀ before r between call, before ++ .ran r :: (between ++ [.did call]) <+: notes →
    call.isCall = true → Taken r between ∨ call = .handIn r

/-- A result was handed in, the source was unavailable, and then another call was made. -/
def Dropped (notes : List Note) : Prop :=
  ∃ before r reason between call, call.isCall = true ∧
    before ++ .did (.handIn r) :: .heard (.error (.unavailable reason)) :: (between ++ [.did call]) <+: notes

theorem not_taken (r : TaskResult) (reason : String) (delay : Nat) :
    ¬ Taken r [.did (.handIn r), .heard (.error (.unavailable reason)), .did (.rest delay)] := by
  rintro ⟨answer, there, pre, post, same⟩
  match pre, same with
  | [], same =>
    cases same
    cases there
  | [_], same => cases same
  | _ :: _ :: pre, same =>
    have long := congrArg List.length same
    simp only [List.length_append, List.length_cons, List.length_nil] at long
    omega

namespace Note.Leads

variable {n : Note} {r : TaskResult}

theorem of_ran (leads : Leads (.ran r) n) : n = .did (.handIn r) := by
  cases leads
  rfl

theorem to_handIn (leads : Leads n (.did (.handIn r))) : n = .ran r := by
  cases leads
  rfl

theorem of_handIn (leads : Leads (.did (.handIn r)) n) : ∃ answer, n = .heard answer := by
  cases leads with
  | heard calls answer => exact ⟨answer, rfl⟩

theorem of_unavailable {reason : String} (leads : Leads (.heard (.error (.unavailable reason))) n) :
    ∃ delay, n = .did (.rest delay) := by
  cases leads with
  | retry reason delay => exact ⟨delay, rfl⟩

theorem of_rest {delay : Nat} (leads : Leads (.did (.rest delay)) n) : n = .did .ask := by
  cases leads with
  | heard calls => cases calls
  | ask => rfl

end Note.Leads

namespace Diary.Sound

variable {d : Diary β}

omit [Quantity β]

theorem leads (sound : d.Sound) {before rest : List Note} {m n : Note}
    (found : before ++ m :: n :: rest <+: d.notes) : m.Leads n := by
  obtain ⟨later, same⟩ := found
  have chain := same ▸ sound.chain
  rw [List.append_assoc] at chain
  exact (List.isChain_append_cons_cons.mp chain).2.1

/-- When a task has been run, its result is handed in at once. -/
theorem handIn_of_ran (sound : d.Sound) {before rest : List Note} {r : TaskResult}
    (found : d.notes = before ++ .ran r :: rest) : ∃ more, rest = .did (.handIn r) :: more := by
  cases rest with
  | nil =>
    have stands := sound.stands
    rw [found, List.getLast?_concat] at stands
    generalize d.worker.phase = phase at stands
    cases stands
  | cons n more =>
    have part : before ++ .ran r :: n :: more <+: d.notes := found ▸ List.prefix_refl _
    exact ⟨more, by rw [(sound.leads part).of_ran]⟩

/-- A result that is handed in comes from a task that was run just before. -/
theorem ran_of_handIn (sound : d.Sound) {before rest : List Note} {r : TaskResult}
    (found : before ++ .did (.handIn r) :: rest <+: d.notes) : ∃ earlier, before = earlier ++ [.ran r] := by
  rcases List.eq_nil_or_concat before with rfl | ⟨earlier, last, rfl⟩
  · obtain ⟨later, same⟩ := found
    have asks := sound.opens (.did (.handIn r)) (by rw [← same]; rfl)
    cases asks
  · rw [List.concat_eq_append, List.append_assoc, List.singleton_append] at found
    exact ⟨earlier, by rw [(sound.leads found).to_handIn, List.concat_eq_append]⟩

/-- When the source was unavailable, the worker rests and then asks. -/
theorem asks_of_unavailable (sound : d.Sound) {before rest : List Note} {reason : String} {m n : Note}
    (found : before ++ .heard (.error (.unavailable reason)) :: m :: n :: rest <+: d.notes) :
    (∃ delay, m = .did (.rest delay)) ∧ n = .did .ask := by
  obtain ⟨delay, rfl⟩ := (sound.leads found).of_unavailable
  rw [List.append_cons] at found
  exact ⟨⟨delay, rfl⟩, (sound.leads found).of_rest⟩

/-- What is dropped was not kept: the next call is to ask for a task. -/
theorem not_kept (sound : d.Sound) (dropped : Dropped d.notes) : ¬ Kept d.notes := by
  obtain ⟨before, r, reason, between, call, calls, found⟩ := dropped
  obtain ⟨earlier, rfl⟩ := sound.ran_of_handIn found
  intro kept
  -- between the answer and the first call after it, the worker only rests
  have asked : ∃ delay rest, between ++ [.did call] = .did (.rest delay) :: .did .ask :: rest := by
    rw [List.append_cons] at found
    match between, found with
    | [], found =>
      obtain ⟨delay, same⟩ := (sound.leads found).of_unavailable
      cases same
      cases calls
    | [m], found =>
      obtain ⟨⟨delay, rfl⟩, same⟩ := sound.asks_of_unavailable found
      exact ⟨delay, [], by rw [← same]; rfl⟩
    | m :: n :: rest, found =>
      obtain ⟨⟨delay, rfl⟩, rfl⟩ := sound.asks_of_unavailable found
      exact ⟨delay, rest ++ [.did call], rfl⟩
  obtain ⟨delay, rest, same⟩ := asked
  have first : earlier ++ .ran r ::
      ([.did (.handIn r), .heard (.error (.unavailable reason)), .did (.rest delay)] ++ [.did .ask]) <+:
      d.notes := by
    refine List.IsPrefix.trans ⟨rest, ?_⟩ found
    rw [same]
    simp
  rcases kept _ _ _ _ first rfl with taken | same
  · exact not_taken r reason delay taken
  · cases same

/-- A result that was not dropped is kept: it is handed in at once, and the answer takes it. -/
theorem kept (sound : d.Sound) (none : ¬ Dropped d.notes) : Kept d.notes := by
  intro before r between call found calls
  -- before there are two notes in between, the call is the one that hands the result in
  match between, found with
  | [], found =>
    cases (sound.leads found).of_ran
    exact .inr rfl
  | [m], found =>
    obtain rfl := (sound.leads found).of_ran
    rw [List.append_cons] at found
    obtain ⟨answer, same⟩ := (sound.leads found).of_handIn
    cases same
  | m :: n :: rest, found =>
    obtain rfl := (sound.leads found).of_ran
    rw [List.append_cons] at found
    obtain ⟨answer, rfl⟩ := (sound.leads found).of_handIn
    cases there : wasThere answer with
    | true => exact .inl ⟨answer, there, [], rest, rfl⟩
    | false =>
      refine absurd ?_ none
      unfold wasThere at there
      split at there
      · exact ⟨_, r, _, rest, call, calls, found⟩
      · cases there

end Diary.Sound

/-- **A worker keeps a result unless the source is unavailable when it is handed in.** Let a worker be told
anything in any order, but let it not be taken back or killed. It hands in a result as soon as it has run the
task, and only then, so it does this once. If the source is unavailable then, it rests and asks without the
result. So no call is made before a result is taken, except to hand it in, if and only if no result was
dropped. -/
theorem kept_iff (h : Handle) (memory : Memory) (backoff : Backoff β) (signals : List (Signal β))
    (uncut : ∀ s ∈ signals, s.isCut = false) :
    let notes := (Diary.after runners { worker := .new h memory backoff } signals).notes
    (∀ before r rest, notes = before ++ .ran r :: rest → ∃ more, rest = .did (.handIn r) :: more) ∧
      (∀ before r rest, before ++ .did (.handIn r) :: rest <+: notes →
        ∃ earlier, before = earlier ++ [.ran r]) ∧
      (∀ before r reason m n rest,
        before ++ .did (.handIn r) :: .heard (.error (.unavailable reason)) :: m :: n :: rest <+: notes →
          (∃ delay, m = .did (.rest delay)) ∧ n = .did .ask) ∧
      (Kept notes ↔ ¬ Dropped notes) := by
  intro notes
  have fresh : Diary.Sound { worker := new h memory backoff } := ⟨.nil, nofun, .fresh, rfl, rfl⟩
  have sound : (Diary.after runners { worker := new h memory backoff } signals).Sound := fresh.after uncut
  refine ⟨fun before r rest => sound.handIn_of_ran, fun before r rest => sound.ran_of_handIn, ?_, ?_⟩
  · intro before r reason m n rest found
    rw [List.append_cons] at found
    exact sound.asks_of_unavailable found
  · exact ⟨fun kept dropped => sound.not_kept dropped kept, sound.kept⟩

/-- The output of this task is 9. -/
def nine : Task := ⟨⟨1⟩, .obj [("out", .nat 9)]⟩

/-- The source is unavailable when it is asked for the first time, and is there for the result. -/
def wavering : List (Signal Float) :=
  [.start, .reply (.error (.unavailable "away")) 1, .alarm, .reply (.ok (.task nine)) 1, .finish,
    .reply (.ok .noTask) 1, .ring, .reply (.error .terminated) 1]

/-- What the worker notes then. -/
def story : List Note :=
  [.did .ask, .heard (.error (.unavailable "away")), .did (.rest 10),
    .did .ask, .heard (.ok (.task nine)), .did (.work nine), .ran ⟨⟨1⟩, .ok (.nat 9), "worker-0"⟩,
    .did (.handIn ⟨⟨1⟩, .ok (.nat 9), "worker-0"⟩), .heard (.ok .noTask), .did (.rest 10),
    .did .ask, .heard (.error .terminated), .did (.stop .terminated)]

/-- Nothing is lost. -/
theorem kept_iff_wavering :
    (∀ s ∈ wavering, s.isCut = false) ∧
      let notes := (Diary.after (fun _ => .plain)
        { worker := .new ⟨0, "worker-0"⟩ ∅ ⟨.fixed, 10, 100, false⟩ } wavering).notes
      notes = story ∧ Kept notes := by
  have uncut : ∀ s ∈ wavering, s.isCut = false := by decide
  obtain ⟨-, -, -, kept⟩ :=
    kept_iff (fun _ => .plain) ⟨0, "worker-0"⟩ ∅ ⟨.fixed, 10, 100, false⟩ wavering uncut
  refine ⟨uncut, rfl, kept.mpr ?_⟩
  rintro ⟨before, r, reason, between, call, -, later, same⟩
  have found : [.did (.handIn r), .heard (.error (.unavailable reason))] <:+: story :=
    ⟨before, between ++ .did call :: later, Eq.trans (by simp) same⟩
  simp [story, List.infix_cons_iff] at found

/-- The source is unavailable when the result is handed in. -/
def absent : List (Signal Float) :=
  [.start, .reply (.ok (.task nine)) 1, .finish, .reply (.error (.unavailable "away")) 1, .alarm,
    .reply (.error .terminated) 1]

/-- The result is lost: the worker asks without it, and ends. -/
theorem not_kept_absent :
    (∀ s ∈ absent, s.isCut = false) ∧
      ¬ Kept (Diary.after (fun _ => .plain) { worker := .new ⟨0, "worker-0"⟩ ∅ ⟨.fixed, 10, 100, false⟩ }
        absent).notes := by
  refine ⟨by decide, fun kept => ?_⟩
  rcases kept [.did .ask, .heard (.ok (.task nine)), .did (.work nine)] ⟨⟨1⟩, .ok (.nat 9), "worker-0"⟩
      [.did (.handIn ⟨⟨1⟩, .ok (.nat 9), "worker-0"⟩), .heard (.error (.unavailable "away")),
        .did (.rest 10)] .ask
      ⟨[.heard (.error .terminated), .did (.stop .terminated)], rfl⟩ rfl with taken | same
  · exact not_taken _ _ _ taken
  · cases same

end Worker

end WorkFarm
