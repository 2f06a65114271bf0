import WorkFarm.Proofs.Accounting
import WorkFarm.Proofs.Conduct
import WorkFarm.Proofs.Workers
/-!
# No launched task is stranded

A launched task comes back to the pending ones only if the worker that the roster notes for it is taken
out. So a task that is launched while nobody is noted for it would be lost for good. Nothing in the
dispatcher excludes this: it writes a new task over what it had noted for a worker, without a look at
it. What excludes it is the conduct of the workers. An instance that was told to run a task calls next
to hand in the result of that task, if it calls at all (`Dispatcher.WellBehaved`).

The invariant ties what the roster notes for an instance to what this instance was told last
(`Dispatcher.Staffed`). An instance that was reported dead by mistake is off the roster, and may come
back; then it brings a result, and whatever happened to its task in the meantime, the task is not
launched for its sake any more.

Two workers may be noted for one task only after an id has been submitted again: the first worker has
run the task, another one brought a result before, and the id was delivered and launched anew.
`Dispatcher.Single` says that this does not happen otherwise.

## Main statements

* `launched_held` — every launched task has a registered worker, and only one if no id comes back
-/

namespace WorkFarm

universe u

namespace Dispatcher

variable {σ : Type u} (c : Collaborators σ)

/-! ### The invariant -/

/-- Every launched task is noted for a worker, and what is noted for a worker is what its instance was
told last. -/
structure Staffed (name : Nat → String) (told : Handle → Option TaskId) (d : Dispatcher σ) :
    Prop where
  roster : d.roster.Sound name
  told : ∀ n h id, d.roster.handle? n = some h → d.roster.assignment? n = some id →
    told h = some id
  held : ∀ id, d.backlog.stage? id = some .launched → ∃ n, d.roster.assignment? n = some id

/-- No launched task is noted for two workers, no pending task is noted for any, and whatever is noted
was submitted. -/
structure Single (d : Dispatcher σ) : Prop where
  launched : ∀ n m id, d.roster.assignment? n = some id → d.roster.assignment? m = some id →
    d.backlog.stage? id = some .launched → n = m
  pending : ∀ n id, d.roster.assignment? n = some id → d.backlog.stage? id ≠ some .pending
  admitted : ∀ n id, d.roster.assignment? n = some id → id ∈ Journal.admitted d.journal

/-- What the instance `h` was told to run is not launched any more. -/
def Idle (d : Dispatcher σ) (h : Handle) : Prop :=
  ∀ id, d.roster.handle? h.name = some h → d.roster.assignment? h.name = some id →
    d.backlog.stage? id ≠ some .launched

section

variable {c} {name : Nat → String} {told : Handle → Option TaskId} {d d' : Dispatcher σ} {h : Handle}

theorem Staffed.spares (staffed : Staffed name told d) (spares : Spares d d') :
    Staffed name told d' := by
  obtain ⟨roster, told, held⟩ := staffed
  rw [← spares.roster] at roster told held
  exact ⟨roster, told, fun id launched => held id ((spares.launched_iff id).mp launched)⟩

theorem Single.spares (single : Single d) (spares : Spares d d') : Single d' := by
  obtain ⟨launched, pending, admitted⟩ := single
  rw [← spares.roster] at launched pending admitted
  refine ⟨?_, ?_, ?_⟩
  · intro n m id hn hm here
    exact launched n m id hn hm ((spares.launched_iff id).mp here)
  · intro n id hn here
    exact pending n id hn ((spares.pending_iff id).mp here)
  · intro n id hn
    rw [spares.admitted]
    exact admitted n id hn

/-! ### Taking a worker out -/

/-- A task that goes back to the pending ones is launched no more, and all other stages are as they
were. -/
theorem stage?_requeue_getD (b : Backlog) (assigned : Option TaskId) (id : TaskId) :
    ((assigned.bind b.requeue?).getD b).stage? id =
      if assigned = some id ∧ b.stage? id = some .launched then some .pending
      else b.stage? id := by
  cases assigned with
  | none => simp
  | some j =>
    rw [Option.bind_some]
    cases requeued : b.requeue? j with
    | none =>
      have : b.stage? j ≠ some .launched := fun launched => by
        rw [← Backlog.isSome_requeue?, requeued] at launched
        cases launched
      by_cases here : j = id
      · subst here
        simp [this]
      · simp [here]
    | some b' =>
      rw [Option.getD_some, Backlog.stage?_requeue? requeued]
      have launched := (Backlog.requeue?_eq_some requeued).1
      by_cases here : id = j
      · subst here
        simp [launched]
      · simp [here, Ne.symm here]

theorem Staffed.retire (staffed : Staffed name told d) (n : String) :
    Staffed name told (d.retire c n).2 := by
  rcases retire_cases c d n with ⟨-, same⟩ | ⟨h, assigned, roster, removed, spares⟩
  · rwa [same]
  · refine Staffed.spares ?_ spares
    obtain ⟨found, rfl, handles, -, assignments⟩ := Roster.remove?_eq_some removed
    refine ⟨staffed.roster.remove? removed, ?_, ?_⟩
    · intro m k id member task
      simp only [handles, assignments] at member task
      split at member
      · cases member
      · rename_i other
        rw [if_neg other] at task
        exact staffed.told m k id member task
    · intro id launched
      simp only [stage?_requeue_getD] at launched
      split at launched
      · cases launched
      · rename_i stays
        obtain ⟨m, task⟩ := staffed.held id launched
        -- the worker that is taken out cannot be the one, or its task would be pending now
        have other : m ≠ n := fun same => stays ⟨same ▸ task, launched⟩
        exact ⟨m, by simp only [assignments, if_neg other, task]⟩

theorem Single.retire (single : Single d) (n : String) : Single (d.retire c n).2 := by
  rcases retire_cases c d n with ⟨-, same⟩ | ⟨h, assigned, roster, removed, spares⟩
  · rwa [same]
  · refine Single.spares ?_ spares
    obtain ⟨found, rfl, -, -, assignments⟩ := Roster.remove?_eq_some removed
    refine ⟨?_, ?_, ?_⟩
    · intro m m' id hm hm' launched
      simp only [stage?_requeue_getD, assignments] at launched hm hm'
      split at launched
      · cases launched
      · split at hm
        · cases hm
        · split at hm'
          · cases hm'
          · exact single.launched m m' id hm hm' launched
    · intro m id hm pending
      simp only [stage?_requeue_getD, assignments] at pending hm
      split at hm
      · cases hm
      · rename_i other
        split at pending
        · rename_i requeued
          exact other (single.launched m n id hm requeued.1 requeued.2)
        · exact single.pending m id hm pending
    · intro m id hm
      simp only [assignments] at hm
      split at hm
      · cases hm
      · exact single.admitted m id hm

/-! ### Registering a worker -/

/-- An instance whose name is free is enrolled, with nothing noted for it. -/
theorem Staffed.enroll (staffed : Staffed name told d) (own : h.name = name h.serial)
    (free : d.roster.handle? h.name = none) :
    Staffed name told (register.enroll c h d) ∧
      (register.enroll c h d).roster.handle? h.name = some h ∧ Idle (register.enroll c h d) h := by
  obtain ⟨roster, registered⟩ :=
    Option.ne_none_iff_exists'.mp (staffed.roster.register?_ne_none own free)
  have spares := enroll_spec c registered
  obtain ⟨-, -, handles, -, assignments⟩ := Roster.register?_eq_some registered
  have nothing : roster.assignment? h.name = none := by
    rw [assignments, staffed.roster.assignment?_eq_none free]
  refine ⟨Staffed.spares ?_ spares, ?_, ?_⟩
  · refine ⟨staffed.roster.register? own registered, ?_, ?_⟩
    · intro m k id member task
      simp only [handles] at member
      split at member
      · rename_i here
        cases member
        rw [here, nothing] at task
        cases task
      · exact staffed.told m k id member (assignments m ▸ task)
    · intro id launched
      obtain ⟨m, task⟩ := staffed.held id launched
      exact ⟨m, (assignments m).trans task⟩
  · rw [spares.roster, handles, if_pos rfl]
  · intro id _ task
    rw [spares.roster, nothing] at task
    cases task

theorem Single.enroll (single : Single d) : Single (register.enroll c h d) := by
  cases registered : d.roster.register? h with
  | none => simpa only [register.enroll, registered] using single
  | some roster =>
    refine Single.spares ?_ (enroll_spec c registered)
    obtain ⟨-, -, -, -, assignments⟩ := Roster.register?_eq_some registered
    obtain ⟨launched, pending, admitted⟩ := single
    simp only [← assignments] at launched pending admitted
    exact ⟨launched, pending, admitted⟩

/-- An instance that calls is on the roster afterwards, and is idle if it was before. -/
theorem Staffed.register (staffed : Staffed name told d) (own : h.name = name h.serial)
    (idle : Idle d h) :
    Staffed name told (d.register c h) ∧ (d.register c h).roster.handle? h.name = some h ∧
      Idle (d.register c h) h := by
  rcases register_cases c d h with ⟨known, found, serial, same⟩ | ⟨known, found, -, same⟩ |
    ⟨free, same⟩
  · have instance_ : known = h := by
      obtain ⟨named, -⟩ := staffed.roster.named _ known found
      cases known
      cases h
      simp_all
    rw [same]
    exact ⟨staffed, instance_ ▸ found, idle⟩
  · rw [same]
    exact (staffed.retire h.name).enroll own (by rw [handle?_retire, if_pos rfl])
  · rw [same]
    exact staffed.enroll own free

theorem Single.register (single : Single d) : Single (d.register c h) := by
  rcases register_cases c d h with ⟨-, -, -, same⟩ | ⟨-, -, -, same⟩ | ⟨-, same⟩
  · rwa [same]
  · rw [same]
    exact (single.retire h.name).enroll
  · rw [same]
    exact single.enroll

/-! ### Handing out a task -/

/-- An idle worker may be handed any task, or nothing, when it is told so. -/
theorem Staffed.hands {a : Option TaskId} (staffed : Staffed name told d)
    (member : d.roster.handle? h.name = some h) (idle : Idle d h) (hands : Hands h.name a d d') :
    Staffed name (Function.update told h a) d' := by
  have handle : ∀ n, d'.roster.handle? n = d.roster.handle? n := fun n => by
    rw [Roster.handle?, hands.byName, Roster.handle?]
  refine ⟨staffed.roster.of_members hands.byName hands.byHandle ?_, ?_, ?_⟩
  · intro n id task
    rw [hands.assignment] at task
    split at task
    · rename_i here
      exact ⟨h, here ▸ member⟩
    · exact staffed.roster.assigned n id task
  · intro n k id found task
    rw [handle] at found
    rw [hands.assignment] at task
    split at task
    · rename_i here
      rw [here, member] at found
      cases found
      rw [Function.update_self, task]
    · rename_i other
      have apart : k ≠ h := fun same => other (same ▸ (staffed.roster.named n k found).1.symm)
      rw [Function.update_of_ne apart]
      exact staffed.told n k id found task
  · intro id launched
    rcases (hands.launched id).mp launched with handed | launched
    · exact ⟨h.name, by rw [hands.assignment, if_pos rfl, handed]⟩
    · obtain ⟨n, task⟩ := staffed.held id launched
      -- what is written over for the idle worker is not launched
      have other : n ≠ h.name := fun same => idle id member (same ▸ task) launched
      exact ⟨n, by rw [hands.assignment, if_neg other, task]⟩

theorem Single.hands {a : Option TaskId} {n : String} (single : Single d)
    (admitted : ∀ id, d.backlog.stage? id = some .pending → id ∈ Journal.admitted d.journal)
    (hands : Hands n a d d') : Single d' := by
  -- a task that is handed out was pending, so no other worker was noted for it
  have fresh : ∀ m id, a = some id → d.roster.assignment? m ≠ some id :=
    fun m id handed task => single.pending m id task (hands.front id handed)
  refine ⟨?_, ?_, ?_⟩
  · intro m m' id hm hm' launched
    rw [hands.assignment] at hm hm'
    rw [hands.launched] at launched
    split at hm <;> split at hm'
    · rename_i here here'
      rw [here, here']
    · exact absurd hm' (fresh m' id hm)
    · exact absurd hm (fresh m id hm')
    · rcases launched with handed | launched
      · exact absurd hm (fresh m id handed)
      · exact single.launched m m' id hm hm' launched
  · intro m id hm pending
    rw [hands.assignment] at hm
    rw [hands.pending] at pending
    split at hm
    · exact pending.1 hm
    · exact single.pending m id hm pending.2
  · intro m id hm
    rw [hands.admitted]
    rw [hands.assignment] at hm
    split at hm
    · exact admitted id (hands.front id hm)
    · exact single.admitted m id hm

/-! ### Taking in a result -/

/-- Clearing what is noted for a worker, if it is a certain task, adds no note. -/
theorem assignment?_clear_if {r : Roster} {n m : String} {id j : TaskId}
    (task : (if r.assignment? n = some j then r.clearAssignment n else r).assignment? m = some id) :
    r.assignment? m = some id := by
  split at task
  · rw [Roster.assignment?_clearAssignment] at task
    split at task
    · cases task
    · exact task
  · exact task

theorem Staffed.acceptResult (staffed : Staffed name told d) (r : TaskResult) (h : Handle) :
    Staffed name told (d.acceptResult c r h) := by
  rcases acceptResult_cases c d r h with ⟨-, same⟩ | ⟨backlog, completed, spares⟩
  · rwa [same]
  · refine Staffed.spares ?_ spares
    have handle : ∀ n, (if d.roster.assignment? h.name = some r.id
        then d.roster.clearAssignment h.name else d.roster).handle? n = d.roster.handle? n :=
      fun n => by split <;> rfl
    refine ⟨staffed.roster.of_members (by split <;> rfl) (by split <;> rfl) ?_, ?_, ?_⟩
    · intro n id task
      exact staffed.roster.assigned n id (assignment?_clear_if task)
    · intro n k id found task
      rw [handle] at found
      exact staffed.told n k id found (assignment?_clear_if task)
    · intro id launched
      simp only [Backlog.stage?_complete? completed] at launched
      split at launched
      · cases launched
      · rename_i other
        obtain ⟨n, task⟩ := staffed.held id launched
        refine ⟨n, ?_⟩
        dsimp only
        split
        · rename_i done
          have apart : n ≠ h.name := fun same => by
            rw [same, done] at task
            cases task
            exact other rfl
          rw [Roster.assignment?_clearAssignment, if_neg apart, task]
        · exact task

theorem Single.acceptResult (single : Single d) (r : TaskResult) (h : Handle) :
    Single (d.acceptResult c r h) := by
  rcases acceptResult_cases c d r h with ⟨-, same⟩ | ⟨backlog, completed, spares⟩
  · rwa [same]
  · refine Single.spares ?_ spares
    have stages := Backlog.stage?_complete? completed
    refine ⟨?_, ?_, ?_⟩
    · intro n m id hn hm launched
      simp only [stages] at launched
      split at launched
      · cases launched
      · exact single.launched n m id (assignment?_clear_if hn) (assignment?_clear_if hm) launched
    · intro n id hn pending
      simp only [stages] at pending
      split at pending
      · cases pending
      · exact single.pending n id (assignment?_clear_if hn) pending
    · intro n id hn
      exact single.admitted n id (assignment?_clear_if hn)

theorem Staffed.idle_of_told (staffed : Staffed name told d) (free : told h = none) :
    Idle d h := by
  intro id member task
  have told := staffed.told h.name h id member task
  rw [free] at told
  cases told

/-- An instance that has handed in the result of what it was told to run is idle. -/
theorem Staffed.idle_acceptResult (staffed : Staffed name told d) (r : TaskResult)
    (brings : ∀ id ∈ told h, r.id = id) : Idle (d.acceptResult c r h) h := by
  intro id member task launched
  rcases acceptResult_cases c d r h with ⟨late, same⟩ | ⟨backlog, completed, spares⟩
  · rw [same] at member task launched
    have own := brings id (staffed.told h.name h id member task)
    exact late (own ▸ launched)
  · rw [spares.roster] at member task
    have member : d.roster.handle? h.name = some h := by
      dsimp only at member
      split at member <;> exact member
    have own := brings id (staffed.told h.name h id member (assignment?_clear_if task))
    rw [spares.launched_iff, Backlog.stage?_complete? completed, if_pos own.symm] at launched
    cases launched

/-! ### Submitting -/

theorem Staffed.submitOne (staffed : Staffed name told d) (id : TaskId) :
    Staffed name told (d.submitOne id) := by
  unfold Dispatcher.submitOne
  cases entered : d.backlog.enqueue? id with
  | none => exact staffed
  | some backlog =>
    obtain ⟨roster, told, held⟩ := staffed
    refine ⟨roster, told, ?_⟩
    intro j launched
    have launched : backlog.stage? j = some .launched := launched
    rw [Backlog.stage?_enqueue? entered] at launched
    split at launched
    · cases launched
    · exact held j launched

/-- A task may be submitted if it is known already, or was never submitted. -/
theorem Single.submitOne {id : TaskId} (single : Single d)
    (new : d.backlog.stage? id = none → id ∉ Journal.admitted d.journal) :
    Single (d.submitOne id) := by
  unfold Dispatcher.submitOne
  cases entered : d.backlog.enqueue? id with
  | none => exact single
  | some backlog =>
    have stages := Backlog.stage?_enqueue? entered
    have absent := new (Backlog.enqueue?_eq_some entered).1
    refine ⟨?_, ?_, ?_⟩
    · intro n m j hn hm launched
      have launched : backlog.stage? j = some .launched := launched
      rw [stages] at launched
      split at launched
      · cases launched
      · exact single.launched n m j hn hm launched
    · intro n j hn pending
      have pending : backlog.stage? j = some .pending := pending
      rw [stages] at pending
      split at pending
      · rename_i here
        exact absent (here ▸ single.admitted n j hn)
      · exact single.pending n j hn pending
    · intro n j hn
      simp only [Dispatcher.record, Journal.admitted_concat]
      exact List.mem_append_left _ (single.admitted n j hn)

/-! ### Every move keeps the order -/

/-- The books are in order, every launched task has a worker, and no two workers share one unless an id
has returned. -/
structure Orderly (name : Nat → String) (told : Handle → Option TaskId) (d : Dispatcher σ) :
    Prop where
  agree : d.books.Agree
  balanced : d.books.Balanced
  staffed : Staffed name told d
  single : d.journal.NeverReturns → Single d

theorem orderly_start (name : Nat → String) (order : DeliveryOrder) (world : σ) :
    Orderly name (fun _ => none) (start order world) where
  agree := Books.agree_start order
  balanced := balanced_start order world
  staffed :=
    { roster := .empty
      told := fun _ _ _ found => by cases found
      held := fun _ launched => by cases launched }
  single := fun _ =>
    { launched := fun _ _ _ task => by cases task
      pending := fun _ _ task => by cases task
      admitted := fun _ _ task => by cases task }

namespace Orderly

variable {told' : Handle → Option TaskId}

/-- Of what a dispatcher does, only its effect on workers has to be looked at. -/
theorem next (orderly : Orderly name told d) (leads : LeadsOn c d d')
    (running : d'.closed = false) (staffed : Staffed name told' d')
    (single : d'.journal.NeverReturns → Single d → Single d') : Orderly name told' d' where
  agree := leads.books.preserve Books.agree_change orderly.agree
  balanced := orderly.balanced.changes orderly.agree leads.books running
  staffed := staffed
  single never := single never (orderly.single (never.of_prefix leads.journal))

theorem spares (orderly : Orderly name told d) (leads : LeadsOn c d d')
    (running : d'.closed = false) (spares : Spares d d') : Orderly name told d' :=
  orderly.next leads running (orderly.staffed.spares spares) fun _ single => single.spares spares

/-- An id that is submitted is not noted for any worker, unless it has returned. -/
theorem submitOne (c : Collaborators σ) (orderly : Orderly name told d) (id : TaskId)
    (running : (d.submitOne id).closed = false) : Orderly name told (d.submitOne id) := by
  refine orderly.next (does_submitOne c d id).leadsOn running (orderly.staffed.submitOne id) ?_
  intro never single
  refine single.submitOne ?_
  intro new submitted
  rw [Dispatcher.submitOne] at never
  cases entered : d.backlog.enqueue? id with
  | none =>
    rw [← Backlog.isSome_enqueue?, entered] at new
    cases new
  | some backlog =>
    simp only [entered] at never
    -- an id that is not known was delivered if it was ever submitted
    exact never.not_mem_delivered (orderly.balanced.mem_delivered new submitted)

theorem submit (orderly : Orderly name told d) (ids : List TaskId)
    (running : (d.submit c ids).closed = false) : Orderly name told (d.submit c ids) := by
  have enter : ∀ (ids : List TaskId) (d : Dispatcher σ), Orderly name told d →
      (ids.foldl Dispatcher.submitOne d).closed = false →
      Orderly name told (ids.foldl Dispatcher.submitOne d) := by
    intro ids
    induction ids with
    | nil => exact fun d orderly _ => orderly
    | cons id ids ih =>
      intro d orderly running
      have rest := (does_enter c (d.submitOne id) ids).leadsOn
      exact ih _ (orderly.submitOne c id (rest.books.running running)) running
  unfold Dispatcher.submit at running ⊢
  dsimp only at running ⊢
  split
  · rename_i wake
    rw [if_pos wake] at running
    have woken := errands_wakeSleepers c (ids.foldl Dispatcher.submitOne d)
    have leads : LeadsOn c (ids.foldl Dispatcher.submitOne d) _ := Leads.of_errands woken
    exact (enter ids d orderly (leads.books.running running)).spares leads running
      (.of_errands woken)
  · rename_i quiet
    rw [if_neg quiet] at running
    exact enter ids d orderly running

/-- An idle instance may ask for work; it is told what it is handed. -/
theorem dispatch (faithful : c.Faithful) (orderly : Orderly name told d)
    (own : h.name = name h.serial) (idle : Idle d h)
    (running : (d.dispatch c h).2.closed = false) :
    Orderly name (Function.update told h (d.dispatch c h).1.taskId?) (d.dispatch c h).2 := by
  obtain ⟨staffed, member, idle⟩ := orderly.staffed.register own idle (c := c)
  have leads := (does_register c d h).leadsOn
  have hand := (does_hand c d h).leadsOn
  have agree := leads.books.preserve Books.agree_change orderly.agree
  have hands := hands_dispatch c faithful d h agree.sound
  refine orderly.next (does_dispatch c d h).leadsOn running (staffed.hands member idle hands)
    fun _ single => single.register.hands (fun id pending => ?_) hands
  have ready : (d.register c h).closed = false := hand.books.running running
  have balanced := orderly.balanced.changes orderly.agree leads.books ready
  exact balanced.mem_admitted (by simp [books, pending])

/-- A worker that has brought what it was told to run may ask for work again. -/
theorem handIn (faithful : c.Faithful) (orderly : Orderly name told d) (r : TaskResult)
    (own : h.name = name h.serial) (brings : ∀ id ∈ told h, r.id = id)
    (running : ((d.acceptResult c r h).dispatch c h).2.closed = false) :
    Orderly name (Function.update told h ((d.acceptResult c r h).dispatch c h).1.taskId?)
      ((d.acceptResult c r h).dispatch c h).2 := by
  have ask := (does_dispatch c (d.acceptResult c r h) h).leadsOn
  have ready := ask.books.running running
  have accept : Orderly name told (d.acceptResult c r h) :=
    orderly.next (does_acceptResult c d r h).leadsOn ready (orderly.staffed.acceptResult r h)
      fun _ single => single.acceptResult r h
  exact accept.dispatch faithful own (orderly.staffed.idle_acceptResult r brings) running

theorem reportDead (orderly : Orderly name told d) (n : String)
    (running : (d.reportDead c n).closed = false) : Orderly name told (d.reportDead c n) := by
  have spares := spares_reportDead c d n
  exact orderly.next (does_reportDead c d n).leadsOn running ((orderly.staffed.retire n).spares spares)
    fun _ single => (single.retire n).spares spares

end Orderly

/-- A call that is answered with an assignment tells its worker of it. -/
theorem tell_answer (m : Move σ) {h : Handle} (worker : m.worker? = some h) (d : Dispatcher σ)
    (caller : Nat) (a : Assignment) :
    m.tell (d.answer caller (.assignment a)).journal told = Function.update told h a.taskId? := by
  simp [Move.tell, worker, Journal.lastTask?, Journal.lastAnswer?,
    Dispatcher.answer, Dispatcher.record]

/-- An answer that delivers nothing changes nothing about the workers. -/
theorem Orderly.answer (c : Collaborators σ) (orderly : Orderly name told d) (caller : Nat)
    {a : Answer} (quiet : a.delivery = []) (running : (d.answer caller a).closed = false) :
    Orderly name told (d.answer caller a) :=
  orderly.spares (c := c) (.answer d caller quiet) running (.answer d caller a)

/-- A worker that calls is told of its answer, and the order is kept. -/
theorem Orderly.serve (faithful : c.Faithful) (orderly : Orderly name told d) (present : Attendance)
    (call : Call) (proper : Move.Proper (σ := σ) told (.call present call))
    (own : ∀ h ∈ call.worker?, h.name = name h.serial)
    (running : (d.serve c present call).closed = false) :
    Orderly name (Move.tell (σ := σ) (.call present call) (d.serve c present call).journal told)
      (d.serve c present call) := by
  have leads := (does_serve c d present call).leadsOn
  obtain ⟨caller, request⟩ := call
  cases request with
  | requestTask h =>
    have free : told h = none := by
      cases task : told h with
      | none => rfl
      | some id => exact absurd (proper h rfl id task) (by simp [Move.result?, Call.result?])
    have dispatch := orderly.dispatch faithful (own h rfl) (orderly.staffed.idle_of_told free)
      running
    have served : d.serve c present ⟨caller, .requestTask h⟩ =
        (d.dispatch c h).2.answer caller (.assignment (d.dispatch c h).1) := rfl
    rw [served] at running ⊢
    rw [tell_answer _ rfl]
    exact dispatch.answer c caller rfl running
  | handIn r h =>
    have brings : ∀ id ∈ told h, r.id = id := by
      intro id task
      simpa [Move.result?, Call.result?] using proper h rfl id task
    have dispatch := orderly.handIn faithful r (own h rfl) brings running
    have served : d.serve c present ⟨caller, .handIn r h⟩ =
        ((d.acceptResult c r h).dispatch c h).2.answer caller
          (.assignment ((d.acceptResult c r h).dispatch c h).1) := rfl
    rw [served] at running ⊢
    rw [tell_answer _ rfl]
    exact dispatch.answer c caller rfl running
  | reportDead n => exact (orderly.reportDead n running).answer c caller rfl running
  | submit ids => exact (orderly.submit ids running).answer c caller rfl running
  | terminate free => cases (closed_terminate c d free).symm.trans running
  | wait | setOrder | countAvailable | isEmpty | poolSize | addResources =>
    exact orderly.spares leads running (spares_serve c present d nofun nofun nofun)

/-- **Every move keeps the order**, if the worker that calls behaves well and the dispatcher goes on. -/
theorem Orderly.move (faithful : c.Faithful) (orderly : Orderly name told d) (m : Move σ)
    (proper : m.Proper told) (own : ∀ h ∈ m.worker?, h.name = name h.serial)
    (running : (d.move c m).closed = false) :
    Orderly name (m.tell (d.move c m).journal told) (d.move c m) := by
  have ready := (changes_move c d m fun _ _ => trivial).running running
  cases m with
  | look present =>
    have look := does_serveParked c d present
    exact orderly.spares look.leadsOn running (look.spares fun _ => Act.Waits.spares)
  | outside change =>
    exact ⟨orderly.agree, orderly.balanced, orderly.staffed.spares ⟨rfl, fun _ => .inl rfl, rfl, rfl⟩,
      fun never => (orderly.single never).spares ⟨rfl, fun _ => .inl rfl, rfl, rfl⟩⟩
  | call present call =>
    have serve : d.move c (.call present call) = d.serve c present call := by
      have open_ : d.closed = false := ready
      simp [Dispatcher.move, serveOrRefuse, open_]
    rw [serve] at running ⊢
    exact orderly.serve faithful present call proper own running

theorem Orderly.moves (faithful : c.Faithful) (ms : List (Move σ)) (orderly : Orderly name told d)
    (behaved : WellBehaved c d told ms)
    (own : ∀ m ∈ ms, ∀ h ∈ m.worker?, h.name = name h.serial)
    (running : (d.moves c ms).closed = false) : ∃ told', Orderly name told' (d.moves c ms) := by
  induction ms generalizing d told with
  | nil => exact ⟨told, orderly⟩
  | cons m ms ih =>
    obtain ⟨proper, rest⟩ := behaved
    have ready := (changes_any c (d.move c m) ms).running running
    have step := orderly.move faithful m proper (own m List.mem_cons_self) ready
    exact ih step rest (fun m' mem => own m' (List.mem_cons_of_mem m mem)) running

end

/-! ### Reporting every worker dead -/

/-- Death reports take the workers that they name off the roster, and do not stop the dispatcher. -/
theorem moves_reports (d : Dispatcher σ) (present : Attendance) (caller : Nat) (names : List String)
    (running : d.closed = false) :
    (d.moves c (reports present caller names)).closed = false ∧
      ∀ m, (d.moves c (reports present caller names)).roster.handle? m =
        if m ∈ names then none else d.roster.handle? m := by
  induction names generalizing d with
  | nil => exact ⟨running, fun m => by simp [reports]⟩
  | cons n names ih =>
    set m : Move σ := .call present ⟨caller, .reportDead n⟩
    have served : d.move c m = (d.reportDead c n).answer caller .done := by
      simp [m, move, serveOrRefuse, running, serve]
    have spares : Spares (d.retire c n).2 (d.move c m) :=
      served ▸ (spares_reportDead c d n).trans (.answer _ caller .done)
    have open_ : (d.retire c n).2.closed = false := by
      rcases retire_cases c d n with ⟨-, same⟩ | ⟨h, assigned, roster, -, out⟩
      · rw [same, running]
      · rw [out.closed, running]
    obtain ⟨running, handles⟩ := ih (d.move c m) (spares.closed.trans open_)
    refine ⟨running, ?_⟩
    intro k
    change ((d.move c m).moves c (reports present caller names)).roster.handle? k = _
    rw [handles, spares.roster, handle?_retire]
    by_cases here : k = n <;> simp [here]

/-- **No launched task is stranded.** If the workers behave well and a fetched task is always the one
that was asked for, then after every run of a dispatcher that has not stopped, each launched task is
what some registered worker is noted to work on, and no other worker is if no id was submitted again
after its result was delivered. So nothing is launched once every registered worker was reported
dead. -/
theorem launched_held (faithful : c.Faithful) (name : Nat → String) (order : DeliveryOrder) (world : σ)
    (ms : List (Move σ)) (behaved : WellBehaved c (start order world) (fun _ => none) ms)
    (own : ∀ m ∈ ms, ∀ h ∈ m.worker?, h.name = name h.serial)
    (running : ((start order world).moves c ms).closed = false) :
    let d := (start order world).moves c ms
    (∀ id, d.backlog.stage? id = some .launched →
        ∃ n h, d.roster.handle? n = some h ∧ d.roster.assignment? n = some id) ∧
      (d.journal.NeverReturns → ∀ id, d.backlog.stage? id = some .launched →
        ∃! n, (∃ h, d.roster.handle? n = some h) ∧ d.roster.assignment? n = some id) ∧
      ∀ (present : Attendance) (caller : Nat) (names : List String),
        (∀ n h, d.roster.handle? n = some h → n ∈ names) →
        ∀ id, (d.moves c (reports present caller names)).backlog.stage? id ≠ some .launched := by
  intro d
  obtain ⟨told, orderly⟩ := (orderly_start name order world).moves faithful ms behaved own running
  refine ⟨?_, ?_, ?_⟩
  · intro id launched
    obtain ⟨n, task⟩ := orderly.staffed.held id launched
    obtain ⟨h, member⟩ := orderly.staffed.roster.assigned n id task
    exact ⟨n, h, member, task⟩
  · intro never id launched
    obtain ⟨n, task⟩ := orderly.staffed.held id launched
    refine ⟨n, ⟨orderly.staffed.roster.assigned n id task, task⟩, ?_⟩
    rintro m ⟨-, task'⟩
    exact (orderly.single never).launched m n id task' task launched
  · intro present caller names all id launched
    obtain ⟨running', handles⟩ := moves_reports c d present caller names running
    obtain ⟨told', orderly'⟩ := orderly.moves faithful (reports present caller names)
      (wellBehaved_reports c d told present caller names)
      (fun m mem h worker => by
        obtain ⟨n, -, rfl⟩ := List.mem_map.mp mem
        cases worker) running'
    obtain ⟨n, task⟩ := orderly'.staffed.held id launched
    obtain ⟨h, member⟩ := orderly'.staffed.roster.assigned n id task
    rw [handles] at member
    split at member
    · cases member
    · rename_i absent
      exact absent (all n h member)

/-- One of two workers is reported dead by mistake, its task goes to a new instance with its name, and
then it comes back with the result. -/
def mistaken : List (Move Vault) :=
  [.outside fun v => (v.storeAll [.bool true, .bool false]).2,
    .call {} ⟨0, .submit [⟨1⟩, ⟨2⟩]⟩,
    .call {} ⟨1, .requestTask ⟨0, "ann"⟩⟩,
    .call {} ⟨2, .requestTask ⟨1, "bob"⟩⟩,
    .call {} ⟨3, .reportDead "ann"⟩,
    .call {} ⟨4, .requestTask ⟨2, "ann"⟩⟩,
    .call {} ⟨5, .handIn ⟨⟨1⟩, .ok (.bool true), "ann"⟩ ⟨0, "ann"⟩⟩]

/-- The other task is launched, and is what the other worker works on. -/
theorem launched_held_mistaken :
    let d := (start .completion {}).moves .ofVault mistaken
    d.backlog.stage? ⟨2⟩ = some .launched ∧
      ∃! n, (∃ h, d.roster.handle? n = some h) ∧ d.roster.assignment? n = some ⟨2⟩ := by
  have held := launched_held .ofVault Collaborators.faithful_ofVault
    (fun serial => if serial = 1 then "bob" else "ann") .completion {} mistaken
    (by decide) (by decide) (by decide)
  exact ⟨by decide, held.2.1 (by decide) ⟨2⟩ (by decide)⟩

end Dispatcher

end WorkFarm
