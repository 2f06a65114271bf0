import Mathlib.Logic.Relation
import WorkFarm.Proofs.Looks
/-!
# The steps of a dispatcher

Much is said of how one dispatcher comes from another: its books went through few kinds of changes, nobody
was told anything, whoever sleeps was woken, the journal lists what was done to the world. All of these
are relations between two dispatchers, and each of them would have to be followed through all operations,
one inside the other. So the operations are taken apart here, once and for all.

A dispatcher does only few kinds of things at a time (`Step`), and every operation is a chain of them
(`Does`). For each operation one lemma says which kinds occur in its chain. A relation that is reflexive
and transitive, and that holds of these kinds of steps, holds of the operation (`Does.relates`).

Two steps are more than they seem. When the first pending task comes back, then the sleeping workers are
woken for it before anything else is done; and a task whose payload cannot be had goes back to where it
was in the same step in which it was launched. In between a dispatcher is not to be seen.

## Main definitions

* `Collaborators.carry` — what an errand does to the world
* `Dispatcher.Sent`, `Dispatcher.Errands` — collaborators are sent on errands, and nothing else is done
* `Dispatcher.Act`, `Dispatcher.Step` — what a dispatcher does at a time
* `Dispatcher.Does` — chains of steps
* `Dispatcher.Hand` — what a worker is handed, once it is on the roster
* `Call.Passes` — a call that neither waits nor stops the dispatcher
* `Call.Takes`, `Call.Fits` — the steps in which a call is served

## Main statements

* `Does.relates` — what holds of steps holds of chains of them
* `does_passing` — a passing call takes its steps, and is answered at its end
* `does_serveParked`, `does_serveOrRefuse` — a look and a call are chains of steps
-/

namespace WorkFarm

universe u

/-- What an errand does to the world. -/
def Collaborators.carry {σ : Type u} (c : Collaborators σ) : Errand → σ → σ
  | .fetch id, w => (c.fetch id w).2
  | .stage id, w => (c.stage id w).2
  | .evict id, w => (c.evict id w).2
  | .watch h, w => (c.watch h w).2
  | .unwatch h, w => (c.unwatch h w).2
  | .stopWatching, w => (c.stopWatching w).2
  | .addResources r, w => (c.addResources r w).2
  | .release hs, w => (c.release hs w).2
  | .stopProvisioning free, w => (c.stopProvisioning free w).2
  | .wake h, w => c.wake h w

/-- A call that neither waits nor stops the dispatcher. -/
def Call.Passes (call : Call) : Prop :=
  (∀ w, call.request ≠ .wait w) ∧ ∀ free, call.request ≠ .terminate free

theorem Call.waits_or_terminates_or_passes (call : Call) :
    (∃ w, call.request = .wait w) ∨ (∃ free, call.request = .terminate free) ∨ call.Passes := by
  obtain ⟨caller, request⟩ := call
  cases request with
  | wait w => exact .inl ⟨w, rfl⟩
  | terminate free => exact .inr (.inl ⟨free, rfl⟩)
  | _ => exact .inr (.inr ⟨nofun, nofun⟩)

/-- Only workers ask for tasks. -/
theorem Call.priority_of_worker? {call : Call} (asks : call.worker? ≠ none) :
    call.priority = .worker := by
  obtain ⟨caller, request⟩ := call
  cases request <;> first | rfl | exact absurd rfl asks

/-- Only workers bring results. -/
theorem Call.priority_of_result? {call : Call} {r : TaskResult} (brought : call.result? = some r) :
    call.priority = .worker := by
  obtain ⟨caller, request⟩ := call
  cases request <;> first | rfl | cases brought

namespace Dispatcher

variable {σ : Type u} (c : Collaborators σ)

/-! ### Errands -/

/-- A collaborator is sent on an errand, whatever comes of it. -/
inductive Sent (e : Errand) (d : Dispatcher σ) : Dispatcher σ → Prop
  | intro (ok : Bool) : Sent e d (record { d with world := c.carry e d.world } (.errand e ok))

/-- Collaborators are sent on errands of some kind, and nothing else is done. -/
abbrev Errands (kind : Errand → Prop) : Dispatcher σ → Dispatcher σ → Prop :=
  Relation.ReflTransGen fun d d' => ∃ e, kind e ∧ Sent c e d d'

variable {c} in
theorem Sent.send {ε α : Type} (d : Dispatcher σ) (e : Errand) {run : σ → Except ε α × σ}
    (own : (run d.world).2 = c.carry e d.world) : Sent c e d (d.send e run).2 := by
  rw [show (d.send e run).2 = record { d with world := (run d.world).2 } (.errand e _) from rfl, own]
  exact .intro _

/-- What holds item by item holds of the whole list. -/
theorem relates_foldl {R : Dispatcher σ → Dispatcher σ → Prop} [Std.Refl R] [IsTrans _ R] {α : Type}
    {step : Dispatcher σ → α → Dispatcher σ} {as : List α} (one : ∀ d, ∀ a ∈ as, R d (step d a))
    (d : Dispatcher σ) : R d (as.foldl step d) := by
  induction as generalizing d with
  | nil => exact refl_of R d
  | cons a as ih =>
    have rest := ih (fun d a mem => one d a (List.mem_cons_of_mem _ mem)) (step d a)
    exact trans_of R (one d a List.mem_cons_self) rest

variable {c} in
/-- What holds of every errand holds of any number of them. -/
theorem relates_errands {R : Dispatcher σ → Dispatcher σ → Prop} [Std.Refl R] [IsTrans _ R]
    {kind : Errand → Prop} (one : ∀ {e d d'}, kind e → Sent c e d d' → R d d') {d d' : Dispatcher σ}
    (errands : Errands c kind d d') : R d d' := by
  induction errands with
  | refl => exact refl_of R d
  | tail _ last ih =>
    obtain ⟨e, about, sent⟩ := last
    exact trans_of R ih (one about sent)

theorem errands_wakeSleepers (d : Dispatcher σ) :
    Errands c (fun e => ∃ h, e = .wake h) d (d.wakeSleepers c) :=
  relates_foldl (fun _ h _ => .single ⟨.wake h, ⟨h, rfl⟩, .intro true⟩) d

theorem errands_letGo (d : Dispatcher σ) (workers : List Handle) (free : Bool) :
    Errands c (fun _ => True) d (d.letGo c workers free) := by
  have send {ε α : Type} (d : Dispatcher σ) (e : Errand) {run : σ → Except ε α × σ}
      (own : (run d.world).2 = c.carry e d.world) :
      Errands c (fun _ => True) d (d.send e run).2 :=
    .single ⟨e, trivial, .send d e own⟩
  have unwatch : Errands c (fun _ => True) d
      (workers.foldl (fun d h => (d.send (.unwatch h) (c.unwatch h)).2) d) :=
    relates_foldl (fun d h _ => send d (.unwatch h) rfl) d
  unfold letGo
  dsimp only
  generalize workers.foldl _ d = d₁ at unwatch ⊢
  have release : Errands c (fun _ => True) d₁ (if workers.isEmpty then d₁
      else (d₁.send (.release workers) (c.release workers)).2) := by
    split
    · exact .refl
    · exact send d₁ (.release workers) rfl
  generalize (if workers.isEmpty then d₁ else _) = d₂ at release ⊢
  exact ((unwatch.trans release).trans (send d₂ .stopWatching rfl)).trans
    (send _ (.stopProvisioning free) rfl)

/-! ### Steps -/

/-- What a dispatcher does at a time. -/
inductive Act where
  /-- A collaborator is sent on an errand. -/
  | errand (e : Errand)
  /-- A worker is entered on the roster. -/
  | enroll
  /-- A worker is taken off the roster. -/
  | remove
  /-- A launched task goes back behind the pending ones. -/
  | requeue
  /-- The oldest pending task is launched. -/
  | launch
  /-- The payload of the oldest pending task is wanted, and cannot be had. -/
  | miss
  /-- A worker is put to sleep. -/
  | sleep
  /-- A submission is accepted. -/
  | enter (id : TaskId)
  /-- A result is accepted. -/
  | accept (r : TaskResult)
  /-- The order of delivery is set. -/
  | reorder
  /-- A call is answered, without results. -/
  | answer (caller : Nat) (a : Answer)
  /-- A wait is parked. -/
  | park
  /-- The parked wait is refused. -/
  | refuse
  /-- The parked wait is dropped. -/
  | drop
  /-- The parked wait is answered with results. -/
  | deliver
  /-- Everything is forgotten, for good. -/
  | close

/-- What a dispatcher does at a time, and what it is then. -/
inductive Step : Dispatcher σ → Act → Dispatcher σ → Prop
  | errand {d d' : Dispatcher σ} {e : Errand} (sent : Sent c e d d') : Step d (.errand e) d'
  | enroll {d : Dispatcher σ} {h : Handle} {roster : Roster}
    (registered : d.roster.register? h = some roster) : Step d .enroll { d with roster }
  | remove {d : Dispatcher σ} {name : String} {h : Handle} {assigned : Option TaskId} {roster : Roster}
    (removed : d.roster.remove? name = some (h, assigned, roster)) : Step d .remove { d with roster }
  | requeue {d : Dispatcher σ} {id : TaskId} {backlog : Backlog}
    (requeued : d.backlog.requeue? id = some backlog) (some : d.backlog.pending ≠ []) :
    Step d .requeue { d with backlog }
  /-- The task is the first one that is pending, and the sleeping workers are woken for it. -/
  | rouse {d : Dispatcher σ} {id : TaskId} {backlog : Backlog}
    (requeued : d.backlog.requeue? id = some backlog) (none : d.backlog.pending = []) :
    Step d .requeue (wakeSleepers c { d with backlog })
  | launch {d : Dispatcher σ} {id : TaskId} {backlog : Backlog} (name : String)
    (launched : d.backlog.launchNext? = some (id, backlog)) : Step d .launch (d.launch name id backlog)
  | miss {d : Dispatcher σ} {id : TaskId} {launched backlog : Backlog} (name : String)
    (launch : d.backlog.launchNext? = some (id, launched))
    (back : launched.restoreFront? id = some backlog) :
    Step d .miss (record { d.launch name id launched with
      backlog
      world := c.carry (.fetch id) d.world } (.errand (.fetch id) false))
  | sleep (d : Dispatcher σ) (name : String) : Step d .sleep (d.putToSleep name)
  | enter {d : Dispatcher σ} {id : TaskId} {backlog : Backlog}
    (enqueued : d.backlog.enqueue? id = some backlog) :
    Step d (.enter id)
      (record { d with backlog, outbox := d.outbox.addPending id } (.admitted id))
  | accept {d : Dispatcher σ} {r : TaskResult} {backlog : Backlog} (h : Handle)
    (completed : d.backlog.complete? r.id = some backlog) :
    Step d (.accept r) (record { d with
      backlog
      roster := if d.roster.assignment? h.name = some r.id
        then d.roster.clearAssignment h.name else d.roster
      outbox := d.outbox.addCompleted r } (.accepted r))
  | reorder (d : Dispatcher σ) (order : DeliveryOrder) :
    Step d .reorder { d with outbox := d.outbox.setOrder order }
  | answer {a : Answer} (d : Dispatcher σ) (caller : Nat) (quiet : a.delivery = []) :
    Step d (.answer caller a) (d.answer caller a)
  | park {d : Dispatcher σ} (free : d.parked = none) (caller : Nat) (w : Wait) :
    Step d .park { d with parked := some (caller, w) }
  | refuse {d : Dispatcher σ} {caller : Nat} {w : Wait} (parked : d.parked = some (caller, w))
    (e : Refusal) : Step d .refuse (answer { d with parked := none } caller (.refused e))
  | drop {d : Dispatcher σ} {caller : Nat} {w : Wait} (parked : d.parked = some (caller, w)) :
    Step d .drop (record { d with parked := none } (.dropped caller))
  | deliver {d : Dispatcher σ} {caller : Nat} {w : Wait} {a : Answer} (k : Nat)
    (parked : d.parked = some (caller, w)) (suits : w.Suits a)
    (bears : a.delivery = (d.outbox.takeFirst k).1) :
    Step d .deliver (answer { d with
      backlog := d.backlog.forgetAll (d.outbox.takeFirst k).1
      outbox := (d.outbox.takeFirst k).2
      parked := none } caller a)
  | close (d : Dispatcher σ) : Step d .close { d with
      backlog := {}, outbox := d.outbox.clear, roster := d.roster.drain.2, closed := true }

/-- Any number of steps of some kind are taken. -/
inductive Does (kind : Act → Prop) (d : Dispatcher σ) : Dispatcher σ → Prop
  | refl : Does kind d d
  | tail {d₁ d₂ : Dispatcher σ} {a : Act} (before : Does kind d d₁) (fits : kind a)
    (last : Step c d₁ a d₂) : Does kind d d₂

variable {c} {kind kind' : Act → Prop} {d d₁ d' : Dispatcher σ}

theorem Step.does {a : Act} (step : Step c d a d') (fits : kind a) : Does c kind d d' :=
  .tail .refl fits step

namespace Does

theorem trans (h₁ : Does c kind d d₁) (h₂ : Does c kind d₁ d') : Does c kind d d' := by
  induction h₂ with
  | refl => exact h₁
  | tail _ fits last ih => exact .tail ih fits last

instance : Std.Refl (Does c kind) := ⟨fun _ => .refl⟩

instance : IsTrans (Dispatcher σ) (Does c kind) := ⟨fun _ _ _ => trans⟩

/-- **What holds of the steps holds of chains of them.** -/
theorem relates {R : Dispatcher σ → Dispatcher σ → Prop} [Std.Refl R] [IsTrans _ R]
    (step : ∀ {d a d'}, kind a → Step c d a d' → R d d') (does : Does c kind d d') : R d d' := by
  induction does with
  | refl => exact refl_of R d
  | tail _ fits last ih => exact trans_of R ih (step fits last)

theorem mono (le : ∀ a, kind a → kind' a) (does : Does c kind d d') : Does c kind' d d' :=
  does.relates fun fits step => step.does (le _ fits)

theorem send {ε α : Type} (d : Dispatcher σ) (e : Errand) {run : σ → Except ε α × σ}
    (own : (run d.world).2 = c.carry e d.world) (fits : kind (.errand e)) :
    Does c kind d (d.send e run).2 :=
  Step.does (.errand (.send d e own)) fits

theorem of_errands {errand : Errand → Prop} (fits : ∀ e, errand e → kind (.errand e))
    (errands : Errands c errand d d') : Does c kind d d' :=
  relates_errands (fun about sent => Step.does (.errand sent) (fits _ about)) errands

end Does

/-! ### The steps of each operation -/

namespace Act

/-- Steps by which the workers become others. -/
inductive Staffs : Act → Prop
  | watch (h : Handle) : Staffs (.errand (.watch h))
  | unwatch (h : Handle) : Staffs (.errand (.unwatch h))
  | release (hs : List Handle) : Staffs (.errand (.release hs))
  | enroll : Staffs .enroll
  | remove : Staffs .remove
  | requeue : Staffs .requeue

/-- Steps by which a worker is handed a task, or put to sleep. -/
inductive Hands : Act → Prop
  | fetch (id : TaskId) : Hands (.errand (.fetch id))
  | stage (id : TaskId) : Hands (.errand (.stage id))
  | launch : Hands .launch
  | miss : Hands .miss
  | sleep : Hands .sleep

/-- Steps by which a wait is served. -/
inductive Waits : Act → Prop
  | park : Waits .park
  | refuse : Waits .refuse
  | drop : Waits .drop
  | deliver : Waits .deliver
  | reject (caller : Nat) (e : Refusal) : Waits (.answer caller (.refused e))

/-- Steps by which a dispatcher stops. -/
inductive Stops : Act → Prop
  | close : Stops .close
  | errand (e : Errand) : Stops (.errand e)
  | refuse : Stops .refuse

end Act

variable (c) (d)

theorem does_requeue (id : TaskId) : Does c (· = .requeue) d (d.requeue c id) := by
  unfold requeue
  split
  · exact .refl
  · rename_i requeued
    dsimp only
    split
    · rename_i none
      exact Step.does (.rouse requeued (List.isEmpty_iff.mp none)) rfl
    · rename_i some
      exact Step.does (.requeue requeued fun none => some (List.isEmpty_iff.mpr none)) rfl

theorem does_retire (name : String) : Does c Act.Staffs d (d.retire c name).2 := by
  unfold retire
  split
  · exact .refl
  · rename_i h assigned roster removed
    have remove : Does c Act.Staffs d { d with roster } := Step.does (.remove removed) .remove
    have unwatch := remove.trans (.send { d with roster } (.unwatch h) rfl (.unwatch h))
    dsimp only
    split
    · exact unwatch
    · exact unwatch.trans ((does_requeue c _ _).mono fun a (here : a = .requeue) => here ▸ .requeue)

theorem does_enroll (h : Handle) : Does c Act.Staffs d (register.enroll c h d) := by
  unfold register.enroll
  split
  · exact .refl
  · rename_i roster registered
    have enroll : Does c Act.Staffs d { d with roster } := Step.does (.enroll registered) .enroll
    exact enroll.trans (.send { d with roster } (.watch h) rfl (.watch h))

theorem does_register (h : Handle) : Does c Act.Staffs d (d.register c h) := by
  unfold register
  split
  · split
    · exact .refl
    · exact (does_retire c d h.name).trans (does_enroll c _ h)
  · exact does_enroll c d h

theorem does_reportDead (name : String) : Does c Act.Staffs d (d.reportDead c name) := by
  have retire := does_retire c d name
  unfold reportDead
  split
  · rename_i d' retired
    rwa [retired] at retire
  · rename_i h d' retired
    rw [retired] at retire
    exact retire.trans (.send d' (.release [h]) rfl (.release [h]))

/-- What a worker is handed, once it is on the roster, and what the dispatcher is then. -/
inductive Hand (name : String) (d : Dispatcher σ) : Assignment → Dispatcher σ → Prop
  /-- There is nothing to do. -/
  | idle (none : d.backlog.launchNext? = none) : Hand name d .noTask (d.putToSleep name)
  /-- The oldest pending task is handed out. -/
  | task {id : TaskId} {backlog : Backlog} {t : Task}
    (launched : d.backlog.launchNext? = some (id, backlog)) (fetched : (c.fetch id d.world).1 = .ok t) :
    Hand name d (.task t) (((d.launch name id backlog).send (.fetch id) (c.fetch id)).2.send
      (.stage id) (c.stage id)).2
  /-- The payload of the oldest pending task cannot be had. -/
  | miss {id : TaskId} {launched backlog : Backlog} {e : StoreError}
    (launch : d.backlog.launchNext? = some (id, launched)) (failed : (c.fetch id d.world).1 = .error e)
    (back : launched.restoreFront? id = some backlog) :
    Hand name d .noTask (putToSleep (record { d.launch name id launched with
      backlog
      world := c.carry (.fetch id) d.world } (.errand (.fetch id) false)) name)

/-- **What a worker is handed** that asks for work. -/
theorem hand_dispatch (h : Handle) :
    Hand c h.name (d.register c h) (d.dispatch c h).1 (d.dispatch c h).2 := by
  unfold dispatch
  generalize d.register c h = d
  dsimp only
  split
  · rename_i none
    exact .idle none
  · rename_i id launched launch
    split
    · rename_i t d' sent
      obtain rfl := congrArg Prod.snd sent
      exact .task launch (congrArg Prod.fst sent)
    · rename_i e d' sent
      have failed : (c.fetch id d.world).1 = .error e := congrArg Prod.fst sent
      obtain rfl := congrArg Prod.snd sent
      obtain ⟨backlog, back, -⟩ := Backlog.undo_launchNext? launch
      have miss : Hand c h.name d .noTask _ := .miss launch failed back
      simpa [putBack, Dispatcher.send, Dispatcher.launch, record, Collaborators.carry, back, failed,
        Except.isOk, Except.toBool] using miss

theorem does_hand (h : Handle) : Does c Act.Hands (d.register c h) (d.dispatch c h).2 := by
  have hand := hand_dispatch c d h
  generalize d.register c h = d, (d.dispatch c h).1 = a, (d.dispatch c h).2 = d' at hand ⊢
  cases hand with
  | idle => exact Step.does (.sleep d h.name) .sleep
  | @task id backlog _ launched _ =>
    have launch : Does c Act.Hands d (d.launch h.name id backlog) :=
      Step.does (.launch h.name launched) .launch
    have fetch := launch.trans (.send (d.launch h.name id backlog) (.fetch id) rfl (.fetch id))
    exact fetch.trans (.send _ (.stage id) rfl (.stage id))
  | miss launch _ back =>
    have missed : Does c Act.Hands d _ := Step.does (.miss h.name launch back) .miss
    exact missed.trans (Step.does (.sleep _ h.name) .sleep)

theorem does_dispatch (h : Handle) :
    Does c (fun a => a.Staffs ∨ a.Hands) d (d.dispatch c h).2 :=
  ((does_register c d h).mono fun _ => .inl).trans ((does_hand c d h).mono fun _ => .inr)

theorem does_acceptResult (r : TaskResult) (h : Handle) :
    Does c (fun a => a = .accept r ∨ a = .errand (.evict r.id)) d (d.acceptResult c r h) := by
  unfold acceptResult
  split
  · exact .refl
  · rename_i backlog completed
    have accept : Does c (fun a => a = .accept r ∨ a = .errand (.evict r.id)) d _ :=
      Step.does (.accept h completed) (.inl rfl)
    exact accept.trans (.send _ (.evict r.id) rfl (.inr rfl))

theorem does_submitOne (id : TaskId) : Does c (· = .enter id) d (d.submitOne id) := by
  unfold submitOne
  split
  · exact .refl
  · rename_i enqueued
    exact Step.does (.enter enqueued) rfl

/-- Ids are entered one by one. -/
theorem does_enter (ids : List TaskId) :
    Does c (fun a => ∃ id ∈ ids, a = .enter id) d (ids.foldl submitOne d) :=
  relates_foldl (fun d id mem => (does_submitOne c d id).mono fun _ here => ⟨id, mem, here⟩) d

theorem does_submit (ids : List TaskId) :
    Does c (fun a => (∃ id ∈ ids, a = .enter id) ∨ ∃ h, a = .errand (.wake h)) d (d.submit c ids) := by
  have enter : Does c (fun a => (∃ id ∈ ids, a = .enter id) ∨ ∃ h, a = .errand (.wake h)) d
      (ids.foldl submitOne d) := (does_enter c d ids).mono fun _ => .inl
  unfold submit
  dsimp only
  split
  · exact enter.trans (.of_errands (fun e ⟨h, wake⟩ => .inr ⟨h, congrArg _ wake⟩)
      (errands_wakeSleepers c _))
  · exact enter

theorem does_refuseParked : Does c (· = .refuse) d d.refuseParked := by
  unfold refuseParked
  split
  · exact .refl
  · rename_i parked
    exact Step.does (.refuse parked .terminated) rfl

theorem does_terminate (free : Bool) : Does c Act.Stops d (d.terminate c free) := by
  unfold terminate
  have close : Does c Act.Stops d _ := Step.does (.close d) .close
  have letGo := close.trans (.of_errands (fun e _ => .errand e) (errands_letGo c _ d.roster.drain.1 free))
  exact letGo.trans ((does_refuseParked c _).mono fun a (here : a = .refuse) => here ▸ .refuse)

theorem does_serveParked (present : Attendance) : Does c Act.Waits d (d.serveParked present) := by
  have look := look_serveParked present d
  generalize d.serveParked present = d' at look ⊢
  cases look with
  | idle | stays => exact .refl
  | dropped parked _ => exact Step.does (.drop parked) .drop
  | refused parked _ _ => exact Step.does (.refuse parked _) .refuse
  | served k parked _ _ _ suits bears => exact Step.does (.deliver k parked suits bears) .deliver

theorem does_park (present : Attendance) (caller : Nat) (w : Wait) :
    Does c Act.Waits d (d.park present caller w) := by
  have look := does_serveParked c d present
  unfold park
  dsimp only
  generalize d.serveParked present = d₁ at look ⊢
  split
  · exact look.trans (Step.does (.answer d₁ caller rfl) (.reject caller .alreadyWaiting))
  · rename_i free
    have none : d₁.parked = none := Option.not_isSome_iff_eq_none.mp free
    have park : Does c Act.Waits d₁ _ := Step.does (.park none caller w) .park
    exact (look.trans park).trans (does_serveParked c _ present)

end Dispatcher

/-! ### The steps of a call -/

open Dispatcher (Act)

/-- The steps in which a call that passes is served, up to its answer. -/
inductive Call.Takes (call : Call) : Act → Prop
  | staff {a : Act} (staffs : a.Staffs) (worker : call.priority = .worker) : Takes call a
  | hand {a : Act} (hands : a.Hands) (asks : call.worker? ≠ none) : Takes call a
  | accept {r : TaskResult} (brought : call.result? = some r) : Takes call (.accept r)
  | evict (id : TaskId) : Takes call (.errand (.evict id))
  | enter {ids : List TaskId} {id : TaskId} (asked : call.request = .submit ids) (mem : id ∈ ids) :
    Takes call (.enter id)
  | wake (h : Handle) : Takes call (.errand (.wake h))
  | reorder {order : DeliveryOrder} (asked : call.request = .setOrder order) : Takes call .reorder
  | provide (r : Resource) : Takes call (.errand (.addResources r))

/-- No result is accepted but the one that is handed in, and no submission but those that are made. A
worker is put to sleep only if one asks for a task, and the order of delivery is set only if a client asks
for it. -/
def Call.Fits (call : Call) : Act → Prop
  | .accept r => call.result? = some r
  | .enter id => ∃ ids, call.request = .submit ids ∧ id ∈ ids
  | .sleep => call.worker? ≠ none
  | .reorder => ∃ order, call.request = .setOrder order
  | _ => True

theorem Call.Takes.fits {call : Call} {a : Act} (takes : call.Takes a) : call.Fits a := by
  cases takes with
  | staff staffs => cases staffs <;> trivial
  | hand hands asks =>
    cases hands with
    | sleep => exact asks
    | fetch | stage | launch | miss => trivial
  | accept brought => exact brought
  | enter asked mem => exact ⟨_, asked, mem⟩
  | reorder asked => exact ⟨_, asked⟩
  | evict | wake | provide => trivial

theorem Dispatcher.Act.Waits.fits {call : Call} {a : Act} (waits : a.Waits) : call.Fits a := by
  cases waits <;> trivial

theorem Dispatcher.Act.Stops.fits {call : Call} {a : Act} (stops : a.Stops) : call.Fits a := by
  cases stops <;> trivial

namespace Dispatcher

variable {σ : Type u} (c : Collaborators σ) (d : Dispatcher σ)

theorem serve_wait {present : Attendance} {d : Dispatcher σ} {call : Call} {v : Wait}
    (asked : call.request = .wait v) : d.serve c present call = d.park present call.caller v := by
  simp [serve, asked]

theorem serve_terminate {present : Attendance} {d : Dispatcher σ} {call : Call} {free : Bool}
    (asked : call.request = .terminate free) :
    d.serve c present call = (d.terminate c free).answer call.caller (.flag true) := by
  simp [serve, asked]

/-- **A passing call takes its steps, and is answered at its end.** The answer brings no results. -/
theorem does_passing (present : Attendance) {call : Call} (passes : call.Passes) :
    ∃ d₁ a, Does c call.Takes d d₁ ∧ a.delivery = [] ∧
      d.serve c present call = d₁.answer call.caller a := by
  obtain ⟨caller, request⟩ := call
  cases request with
  | requestTask h =>
    refine ⟨_, _, (does_dispatch c d h).mono ?_, rfl, rfl⟩
    exact fun a kind => kind.elim (.staff · rfl) (.hand · nofun)
  | handIn r h =>
    have accept : Does c (Call.Takes ⟨caller, .handIn r h⟩) d (d.acceptResult c r h) := by
      refine (does_acceptResult c d r h).mono fun a kind => ?_
      rcases kind with rfl | rfl
      · exact .accept rfl
      · exact .evict r.id
    refine ⟨_, _, accept.trans ((does_dispatch c _ h).mono ?_), rfl, rfl⟩
    exact fun a kind => kind.elim (.staff · rfl) (.hand · nofun)
  | reportDead name =>
    exact ⟨_, _, (does_reportDead c d name).mono fun a staffs => .staff staffs rfl, rfl, rfl⟩
  | submit ids =>
    refine ⟨_, _, (does_submit c d ids).mono fun a kind => ?_, rfl, rfl⟩
    rcases kind with ⟨id, mem, rfl⟩ | ⟨h, rfl⟩
    · exact .enter rfl mem
    · exact .wake h
  | setOrder order => exact ⟨_, .done, Step.does (.reorder d order) (.reorder rfl), rfl, rfl⟩
  | countAvailable => exact ⟨d, .count d.outbox.countAvailable, .refl, rfl, rfl⟩
  | isEmpty => exact ⟨d, .flag d.outbox.isEmpty, .refl, rfl, rfl⟩
  | poolSize => exact ⟨d, .count d.roster.size, .refl, rfl, rfl⟩
  | addResources resource =>
    refine ⟨(d.send (.addResources resource) (c.addResources resource)).2,
      match (d.send (.addResources resource) (c.addResources resource)).1 with
        | .ok _ => .done
        | .error e => .refused (.provision e),
      .send d (.addResources resource) rfl (.provide resource), ?_, ?_⟩
    · split <;> rfl
    · unfold serve
      dsimp only
      split <;> simp [*]
  | terminate free => exact absurd rfl (passes.2 free)
  | wait w => exact absurd rfl (passes.1 w)

theorem does_serve (present : Attendance) (call : Call) :
    Does c call.Fits d (d.serve c present call) := by
  rcases call.waits_or_terminates_or_passes with ⟨w, asked⟩ | ⟨free, asked⟩ | passes
  · rw [serve_wait c asked]
    exact (does_park c d present call.caller w).mono fun _ => Act.Waits.fits
  · rw [serve_terminate c asked]
    have stop : Does c call.Fits d (d.terminate c free) :=
      (does_terminate c d free).mono fun _ => Act.Stops.fits
    exact stop.trans (Step.does (.answer _ call.caller rfl) trivial)
  · obtain ⟨d₁, a, does, quiet, served⟩ := does_passing c d present passes
    have takes := does.mono fun _ => Call.Takes.fits
    exact served ▸ takes.trans (Step.does (.answer d₁ call.caller quiet) trivial)

/-- **Every call is a chain of steps.** -/
theorem does_serveOrRefuse (present : Attendance) (call : Call) :
    Does c call.Fits d (d.serveOrRefuse c present call) := by
  unfold serveOrRefuse
  split
  · exact Step.does (.answer d call.caller rfl) trivial
  · exact does_serve c d present call

end Dispatcher

end WorkFarm
