import WorkFarm.Proofs.Waits
/-!
# In whose custody a task is

A task is with the dispatcher while it is pending, and with some worker while it is launched; its payload
is with the collaborators all along. The books leave the collaborators out, and the errands leave the
tasks out, so neither says what becomes of a payload. The custody of a dispatcher shows both at once: the
backlog, the world, and what the journal says of tasks that came and of tasks that were handed out.

Few things can happen to it (`Custody.Change`). Handing out a task is one of them: its id is launched, its
payload is fetched and staged, and the worker is answered with it. If the payload cannot be had the id goes
back to where it was, and that is another one. An errand that no payload is concerned in is a change of the
world and of nothing else. Most steps of a dispatcher are no more than such a change (`Step.custody`), and
every call is a chain of changes (`custody_serveOrRefuse`).

## Main definitions

* `Mark`, `Journal.marks`, `Journal.handed` — tasks that came, and tasks that were handed out
* `Custody`, `Dispatcher.custody` — the backlog, the world, and the marks of a journal
* `Custody.Change` — what can happen to the custody
* `Dispatcher.Act.Beside` — a step that no payload is concerned in

## Main statements

* `Does.custody`, `custody_serveOrRefuse` — steps and calls are chains of changes
-/

namespace WorkFarm

universe u

/-- A task came, or was handed out. -/
inductive Mark where
  /-- The submission of an id was accepted. -/
  | admitted (id : TaskId)
  /-- A worker was answered with the task of an id. -/
  | handed (id : TaskId)
deriving DecidableEq, Repr

namespace Mark

/-- The id whose submission was accepted, if one was. -/
def admission? : Mark → Option TaskId
  | admitted id => some id
  | handed _ => none

/-- The id that was handed out, if one was. -/
def hand? : Mark → Option TaskId
  | admitted _ => none
  | handed id => some id

end Mark

/-- The task that was handed out by an answer, if one was. -/
def Answer.mark? : Answer → Option Mark
  | .assignment a => a.taskId?.map .handed
  | _ => none

/-- No task is handed out by an answer to a wait. -/
theorem Wait.Suits.mark?_eq_none {a : Answer} {w : Wait} (suits : w.Suits a) : a.mark? = none := by
  cases w with
  | one =>
    obtain ⟨r, rfl⟩ := suits
    rfl
  | all | exactly =>
    obtain ⟨rs, -, rfl⟩ := suits
    rfl

/-- The mark that an entry leaves, if it leaves one. -/
def Entry.mark? : Entry → Option Mark
  | .admitted id => some (.admitted id)
  | .answered _ a => a.mark?
  | _ => none

namespace Journal

/-- The tasks that came and the tasks that were handed out, in order. -/
def marks (j : Journal) : List Mark := j.filterMap Entry.mark?

/-- The ids that workers were handed, in order. -/
def handed (j : Journal) : List TaskId := j.marks.filterMap Mark.hand?

theorem marks_concat (j : Journal) (e : Entry) : marks (j ++ [e]) = marks j ++ e.mark?.toList := by
  rw [marks, marks, List.filterMap_append, List.filterMap_cons]
  cases e.mark? <;> rfl

theorem admitted_eq_marks (j : Journal) : admitted j = j.marks.filterMap Mark.admission? := by
  rw [admitted, marks, List.filterMap_filterMap]
  refine List.filterMap_congr fun e _ => ?_
  cases e with
  | answered caller a =>
    cases a with
    | assignment a => cases a <;> rfl
    | _ => rfl
  | _ => rfl

end Journal

/-- An errand that no payload is concerned in. -/
def Errand.Beside : Errand → Prop
  | .watch _ | .unwatch _ | .addResources _ | .release _ | .wake _ => True
  | _ => False

/-- An errand that no payload is concerned in, whatever came of it. -/
def Collaborators.RunsBeside {σ : Type u} (c : Collaborators σ) (w w' : σ) : Prop :=
  ∃ e : Errand, e.Beside ∧ c.carry e w = w'

/-- What a dispatcher shows of tasks, of the world, and of the tasks that came and were handed out. -/
structure Custody (σ : Type u) where
  backlog : Backlog
  world : σ
  marks : List Mark
  closed : Bool

namespace Custody

variable {σ : Type u}

/-- The ids whose submission was accepted. -/
def admitted (v : Custody σ) : List TaskId := v.marks.filterMap Mark.admission?

/-- The ids that workers were handed. -/
def handed (v : Custody σ) : List TaskId := v.marks.filterMap Mark.hand?

theorem admitted_of_marks {v v' : Custody σ} {m : Mark} (marks : v'.marks = v.marks ++ [m]) :
    v'.admitted = v.admitted ++ m.admission?.toList := by
  rw [admitted, marks, List.filterMap_append]
  cases m <;> rfl

theorem handed_of_marks {v v' : Custody σ} {m : Mark} (marks : v'.marks = v.marks ++ [m]) :
    v'.handed = v.handed ++ m.hand?.toList := by
  rw [handed, marks, List.filterMap_append]
  cases m <;> rfl

/-- What can happen to the custody. The ids that may be admitted are those for which `enters` holds. -/
inductive Change (c : Collaborators σ) (enters : TaskId → Prop) : Custody σ → Custody σ → Prop
  /-- An errand that no payload is concerned in. -/
  | errand {v : Custody σ} {world : σ} (runs : c.RunsBeside v.world world) :
    Change c enters v { v with world }
  /-- An unknown id is admitted. -/
  | submit {v : Custody σ} {id : TaskId} {backlog : Backlog}
    (h : v.backlog.enqueue? id = some backlog) (entered : enters id) :
    Change c enters v { v with backlog, marks := v.marks ++ [.admitted id] }
  /-- The oldest pending id is launched, its payload is fetched and staged, and a worker has the task. -/
  | hand {v : Custody σ} {id : TaskId} {backlog : Backlog} {t : Task}
    (h : v.backlog.launchNext? = some (id, backlog)) (fetched : (c.fetch id v.world).1 = .ok t) :
    Change c enters v { v with
      backlog
      world := (c.stage id (c.fetch id v.world).2).2
      marks := v.marks ++ [.handed t.id] }
  /-- The oldest pending id is launched, its payload cannot be had, and it goes back to where it was. -/
  | miss {v : Custody σ} {id : TaskId} {launched backlog : Backlog} {e : StoreError}
    (h : v.backlog.launchNext? = some (id, launched)) (failed : (c.fetch id v.world).1 = .error e)
    (back : launched.restoreFront? id = some backlog) :
    Change c enters v { v with backlog, world := (c.fetch id v.world).2 }
  /-- A launched id goes back behind the pending ones. -/
  | requeue {v : Custody σ} {id : TaskId} {backlog : Backlog}
    (h : v.backlog.requeue? id = some backlog) : Change c enters v { v with backlog }
  /-- A launched id is completed, and its payload is evicted. -/
  | complete {v : Custody σ} {id : TaskId} {backlog : Backlog}
    (h : v.backlog.complete? id = some backlog) :
    Change c enters v { v with backlog, world := (c.evict id v.world).2 }
  /-- Completed ids are forgotten. -/
  | forget {v : Custody σ} (rs : List TaskResult) :
    Change c enters v { v with backlog := v.backlog.forgetAll rs }
  /-- Everything is forgotten, and the collaborators are let go. -/
  | close {v : Custody σ} (world : σ) :
    Change c enters v { v with backlog := {}, world, closed := true }

/-- Any number of changes. -/
abbrev Changes (c : Collaborators σ) (enters : TaskId → Prop) : Custody σ → Custody σ → Prop :=
  Relation.ReflTransGen (Change c enters)

variable {c : Collaborators σ} {enters : TaskId → Prop} {v v' : Custody σ}

/-- What has stopped does not run again. -/
theorem Change.running (change : Change c enters v v') (running : v'.closed = false) :
    v.closed = false := by
  cases change <;> first | exact running | cases running

theorem Changes.running (changes : Changes c enters v v') (running : v'.closed = false) :
    v.closed = false := by
  induction changes with
  | refl => exact running
  | tail _ last ih => exact ih (last.running running)

/-- No mark is struck. -/
theorem Change.marks (change : Change c enters v v') : v.marks <+: v'.marks := by
  cases change with
  | submit | hand => exact List.prefix_append ..
  | errand | miss | requeue | complete | forget | close => exact List.prefix_rfl

/-- What every change preserves that does not stop the dispatcher, any number of them preserves. -/
theorem Changes.preserve {P : Custody σ → Prop}
    (step : ∀ {v v'}, Change c enters v v' → v'.closed = false → P v → P v')
    (changes : Changes c enters v v') (running : v'.closed = false) (start : P v) : P v' := by
  induction changes with
  | refl => exact start
  | tail _ last ih => exact step last running (ih (last.running running))

/-- The ids that are pending are listed once, after every change. -/
theorem sound_change (change : Change c enters v v') (sound : v.backlog.Sound) :
    v'.backlog.Sound := by
  cases change with
  | errand => exact sound
  | submit h => exact sound.enqueue? h
  | hand h => exact sound.launchNext? h
  | miss h _ back => exact (sound.launchNext? h).restoreFront? back
  | requeue h => exact sound.requeue? h
  | complete h => exact sound.complete? h
  | forget rs => exact sound.forgetAll rs
  | close => exact .empty

theorem sound_changes (changes : Changes c enters v v') (sound : v.backlog.Sound) :
    v'.backlog.Sound := by
  induction changes with
  | refl => exact sound
  | tail _ last ih => exact sound_change last ih

end Custody

namespace Dispatcher

open Custody (Changes)

variable {σ : Type u} (c : Collaborators σ) {enters : TaskId → Prop}

/-- What a dispatcher shows of tasks, of the world, and of the tasks that came and were handed out. -/
def custody (d : Dispatcher σ) : Custody σ where
  backlog := d.backlog
  world := d.world
  marks := d.journal.marks
  closed := d.closed

theorem admitted_custody (d : Dispatcher σ) : d.custody.admitted = Journal.admitted d.journal :=
  (Journal.admitted_eq_marks d.journal).symm

theorem custody_record (d : Dispatcher σ) (e : Entry) :
    (d.record e).custody = { d.custody with marks := d.custody.marks ++ e.mark?.toList } := by
  simp only [custody, record, Journal.marks_concat]

/-- An entry that is no mark does not show in the custody. -/
theorem custody_record_of_mark?_eq_none (d : Dispatcher σ) {e : Entry} (quiet : e.mark? = none) :
    (d.record e).custody = d.custody := by
  simp [custody_record, quiet]

theorem custody_answer_of_mark?_eq_none (d : Dispatcher σ) (caller : Nat) {a : Answer}
    (quiet : a.mark? = none) : (d.answer caller a).custody = d.custody :=
  custody_record_of_mark?_eq_none d quiet

/-- An errand shows in the world only. -/
theorem custody_send {ε α : Type} (d : Dispatcher σ) (e : Errand) (run : σ → Except ε α × σ) :
    (d.send e run).2.custody = { d.custody with world := (run d.world).2 } :=
  custody_record_of_mark?_eq_none { d with world := (run d.world).2 } rfl

theorem custody_of_sent {e : Errand} {d d' : Dispatcher σ} (sent : Sent c e d d') :
    d'.custody = { d.custody with world := c.carry e d.world } := by
  obtain ⟨ok⟩ := sent
  exact custody_record_of_mark?_eq_none { d with world := c.carry e d.world } rfl

/-- Errands show in the world only. -/
theorem custody_of_errands {kind : Errand → Prop} {d d' : Dispatcher σ} (errands : Errands c kind d d') :
    d'.custody = { d.custody with world := d'.world } := by
  induction errands with
  | refl => rfl
  | tail _ last ih =>
    obtain ⟨e, -, sent⟩ := last
    rw [custody_of_sent c sent, ih]
    cases sent
    rfl

theorem custody_beside {e : Errand} {d d' : Dispatcher σ} (sent : Sent c e d d') (beside : e.Beside) :
    Changes c enters d.custody d'.custody := by
  rw [custody_of_sent c sent]
  exact .single (.errand ⟨e, beside, rfl⟩)

/-- Steps that no payload is concerned in, and by which no task is handed out. -/
def Act.Beside (enters : TaskId → Prop) : Act → Prop
  | .errand e => e.Beside
  | .enter id => enters id
  | .answer _ a => a.mark? = none
  | .launch | .miss | .accept _ | .close => False
  | _ => True

variable {c} in
theorem Step.custody {a : Act} {d d' : Dispatcher σ} (step : Step c d a d') (beside : a.Beside enters) :
    Changes c enters d.custody d'.custody := by
  cases step with
  | errand sent => exact custody_beside c sent beside
  | enroll | remove | sleep | reorder | park => exact .refl
  | requeue requeued => exact .single (.requeue requeued)
  | @rouse _ _ backlog requeued =>
    have put : Changes c enters d.custody { d with backlog }.custody := .single (.requeue requeued)
    have errands := errands_wakeSleepers c { d with backlog }
    generalize wakeSleepers c { d with backlog } = d' at errands ⊢
    refine put.trans ?_
    induction errands with
    | refl => exact .refl
    | tail _ last ih =>
      obtain ⟨e, ⟨h, rfl⟩, sent⟩ := last
      exact ih.trans (custody_beside c sent trivial)
  | enter enqueued =>
    refine .single ?_
    rw [custody_record]
    exact .submit enqueued beside
  | answer => rw [custody_answer_of_mark?_eq_none _ _ beside]
  | refuse =>
    rw [custody_answer_of_mark?_eq_none _ _ rfl]
    exact .refl
  | drop =>
    rw [custody_record_of_mark?_eq_none _ rfl]
    exact .refl
  | deliver k _ suits =>
    rw [custody_answer_of_mark?_eq_none _ _ suits.mark?_eq_none]
    exact .single (.forget (d.outbox.takeFirst k).1)
  | launch | miss | accept | close => exact beside.elim

variable {c} in
theorem Does.custody {kind : Act → Prop} {d d' : Dispatcher σ} (does : Does c kind d d')
    (beside : ∀ a, kind a → a.Beside enters) : Changes c enters d.custody d'.custody := by
  induction does with
  | refl => exact .refl
  | tail _ fits last ih => exact ih.trans (last.custody (beside _ fits))

theorem Act.Staffs.beside {a : Act} (staffs : a.Staffs) : a.Beside enters := by
  cases staffs <;> trivial

theorem Act.Waits.beside {a : Act} (waits : a.Waits) : a.Beside enters := by
  cases waits <;> trivial

/-- A worker is answered after it was registered, with a task or without. -/
theorem custody_hand (d : Dispatcher σ) (h : Handle) (caller : Nat) :
    Changes c enters (d.register c h).custody
      ((d.dispatch c h).2.answer caller (.assignment (d.dispatch c h).1)).custody := by
  have hand := hand_dispatch c d h
  generalize d.register c h = d, (d.dispatch c h).1 = a, (d.dispatch c h).2 = d' at hand ⊢
  cases hand with
  | idle =>
    rw [custody_answer_of_mark?_eq_none _ _ rfl]
    exact .refl
  | task launched fetched =>
    refine .single ?_
    rw [Dispatcher.answer, custody_record, custody_send, custody_send]
    exact .hand launched fetched
  | @miss _ _ backlog _ launch failed back =>
    have miss : Custody.Change c enters d.custody _ := .miss launch failed back
    refine .single ?_
    rw [custody_answer_of_mark?_eq_none _ _ rfl]
    show Custody.Change c enters d.custody (record _ _).custody
    rw [custody_record_of_mark?_eq_none _ rfl]
    exact miss

theorem custody_acceptResult (d : Dispatcher σ) (r : TaskResult) (h : Handle) :
    Changes c enters d.custody (d.acceptResult c r h).custody := by
  unfold acceptResult
  split
  · exact .refl
  · rename_i backlog completed
    have complete : Custody.Change c enters d.custody _ := .complete completed
    refine .single ?_
    dsimp only
    rw [custody_send, custody_record_of_mark?_eq_none _ rfl]
    exact complete

theorem custody_refuseParked (d : Dispatcher σ) : d.refuseParked.custody = d.custody := by
  unfold refuseParked
  split
  · rfl
  · exact custody_answer_of_mark?_eq_none _ _ rfl

theorem custody_terminate (d : Dispatcher σ) (free : Bool) :
    Changes c enters d.custody (d.terminate c free).custody := by
  unfold terminate
  refine .single ?_
  dsimp only
  rw [custody_refuseParked, custody_of_errands c (errands_letGo c _ _ free)]
  exact .close _

theorem custody_serve (present : Attendance) (d : Dispatcher σ) (call : Call)
    (entered : ∀ ids, call.request = .submit ids → ∀ id ∈ ids, enters id) :
    Changes c enters d.custody (d.serve c present call).custody := by
  obtain ⟨caller, request⟩ := call
  have silent (d' : Dispatcher σ) {a : Answer} (quiet : a.mark? = none)
      (changes : Changes c enters d.custody d'.custody) :
      Changes c enters d.custody (d'.answer caller a).custody := by
    rw [custody_answer_of_mark?_eq_none d' caller quiet]
    exact changes
  have register (d : Dispatcher σ) (h : Handle) : Changes c enters d.custody (d.register c h).custody :=
    (does_register c d h).custody fun _ => Act.Staffs.beside
  cases request with
  | requestTask h => exact (register d h).trans (custody_hand c d h caller)
  | handIn r h =>
    have accept : Changes c enters d.custody (d.acceptResult c r h).custody :=
      custody_acceptResult c d r h
    exact (accept.trans (register _ h)).trans (custody_hand c _ h caller)
  | reportDead name => exact silent _ rfl ((does_reportDead c d name).custody fun _ => Act.Staffs.beside)
  | submit ids =>
    refine silent _ rfl ((does_submit c d ids).custody fun a kind => ?_)
    rcases kind with ⟨id, mem, rfl⟩ | ⟨h, rfl⟩
    · exact entered ids rfl id mem
    · trivial
  | setOrder order => exact silent _ rfl .refl
  | countAvailable => exact silent _ rfl .refl
  | isEmpty => exact silent _ rfl .refl
  | poolSize => exact silent _ rfl .refl
  | addResources resource =>
    have provide : Changes c enters d.custody
        (d.send (.addResources resource) (c.addResources resource)).2.custody :=
      custody_beside c (.send d (.addResources resource) rfl) trivial
    unfold serve
    dsimp only
    split
    · rename_i d' sent
      rw [sent] at provide
      exact silent d' rfl provide
    · rename_i e d' sent
      rw [sent] at provide
      exact silent d' rfl provide
  | terminate free => exact silent _ rfl (custody_terminate c d free)
  | wait w => exact (does_park c d present caller w).custody fun _ => Act.Waits.beside

/-- **What a call does to the custody.** Every call is a chain of changes, and admits no ids but those that
are submitted. -/
theorem custody_serveOrRefuse (present : Attendance) (d : Dispatcher σ) (call : Call)
    (entered : ∀ ids, call.request = .submit ids → ∀ id ∈ ids, enters id) :
    Changes c enters d.custody (d.serveOrRefuse c present call).custody := by
  unfold serveOrRefuse
  split
  · rw [custody_answer_of_mark?_eq_none _ _ rfl]
  · exact custody_serve c present d call entered

end Dispatcher

end WorkFarm
