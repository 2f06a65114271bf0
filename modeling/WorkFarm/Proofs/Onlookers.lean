import WorkFarm.Proofs.Delivery
/-!
# Onlookers do not disturb the work

Some clients only look on. They wait for results, say in which order they want them, or ask for numbers.
Their calls are served among the others, and they leave traces: results go out of the outbox, and the
backlog forgets a task whose result was delivered. The work must not depend on any of this. So a run is
compared with the run that is left when all calls of onlookers are struck from it.

The two runs are in step all the time (`Dispatcher.InStep`). They have the same workers, the same pending
tasks and the same world, and have sent their collaborators on the same errands. There is one thing in
which they differ, and it is in the backlog: without onlookers nothing is delivered and nothing forgotten,
so a task is completed there that is unknown here (`Backlog.Recalls`). To hand out, to put back and to
accept a task takes one that is pending or launched, and none of these sees a difference. To submit it
does: an id that was forgotten may be submitted again, and one that is completed may not. This is
why no id must return whose result was delivered.

## Main definitions

* `Call.onlooks` — the call of an onlooker
* `Backlog.Recalls` — a backlog that has not forgotten what another one has
* `Dispatcher.InStep` — two dispatchers that differ only in that

## Main statements

* `work_undisturbed` — without its onlookers, a run does the same work
-/

namespace WorkFarm

universe u

/-- An onlooker collects results, says in which order they are to come, or asks for numbers. -/
def Call.onlooks (call : Call) : Bool :=
  match call.request with
  | .wait _ | .setOrder _ | .countAvailable | .isEmpty | .poolSize => true
  | _ => false

/-- A collaborator was sent on an errand. -/
def Entry.isErrand : Entry → Bool
  | .errand _ _ => true
  | _ => false

namespace Backlog

/-- The second backlog is the first one, but for some ids in `gone`, which are completed there and
unknown here. -/
structure Recalls (gone : List TaskId) (b b' : Backlog) : Prop where
  pending : b'.pending = b.pending
  stage : ∀ id, b'.stage? id = b.stage? id ∨
    id ∈ gone ∧ b.stage? id = none ∧ b'.stage? id = some .completed

namespace Recalls

variable {gone gone' : List TaskId} {b b' : Backlog}

theorem refl (b : Backlog) : Recalls gone b b := ⟨rfl, fun _ => .inl rfl⟩

theorem mono (recalls : Recalls gone b b') (more : gone ⊆ gone') : Recalls gone' b b' :=
  ⟨recalls.pending, fun id => (recalls.stage id).imp_right fun forgotten => ⟨more forgotten.1, forgotten.2⟩⟩

theorem isLaunched (recalls : Recalls gone b b') (id : TaskId) : b'.isLaunched id = b.isLaunched id := by
  rcases recalls.stage id with same | ⟨-, unknown, completed⟩
  · simp [Backlog.isLaunched, same]
  · simp [Backlog.isLaunched, unknown, completed]

/-- An id comes to the same stage in both. -/
theorem insert (recalls : Recalls gone b b') (pending : List TaskId) (id : TaskId) (s : Stage) :
    Recalls gone { pending, stages := b.stages.insert id s }
      { pending, stages := b'.stages.insert id s } := by
  refine ⟨rfl, fun j => ?_⟩
  have old := recalls.stage j
  simp only [stage?, Table.get?_insert] at old ⊢
  by_cases here : j = id
  · simp [here]
  · simpa only [if_neg here] using old

/-- An id that is launched in one is launched in the other, and comes to the same stage in both. -/
theorem of_launched (recalls : Recalls gone b b') (pending : List TaskId) (id : TaskId) (s : Stage) :
    Option.Rel (Recalls gone)
      (if b.isLaunched id then some { pending, stages := b.stages.insert id s } else none)
      (if b'.isLaunched id then some { pending, stages := b'.stages.insert id s } else none) := by
  rw [recalls.isLaunched]
  split
  · exact .some (recalls.insert pending id s)
  · exact .none

theorem requeue? (recalls : Recalls gone b b') (id : TaskId) :
    Option.Rel (Recalls gone) (b.requeue? id) (b'.requeue? id) := by
  simp only [Backlog.requeue?, recalls.pending]
  exact recalls.of_launched _ id _

theorem restoreFront? (recalls : Recalls gone b b') (id : TaskId) :
    Option.Rel (Recalls gone) (b.restoreFront? id) (b'.restoreFront? id) := by
  simp only [Backlog.restoreFront?, recalls.pending]
  exact recalls.of_launched _ id _

theorem complete? (recalls : Recalls gone b b') (id : TaskId) :
    Option.Rel (Recalls gone) (b.complete? id) (b'.complete? id) := by
  simp only [Backlog.complete?, recalls.pending]
  exact recalls.of_launched _ id _

theorem launchNext? (recalls : Recalls gone b b') :
    Option.Rel (fun next next' => next'.1 = next.1 ∧ Recalls gone next.2 next'.2)
      b.launchNext? b'.launchNext? := by
  simp only [Backlog.launchNext?, recalls.pending]
  split
  · exact .none
  · exact .some ⟨rfl, recalls.insert _ _ _⟩

/-- A new id is new to both, unless it was forgotten. -/
theorem enqueue? (recalls : Recalls gone b b') {id : TaskId}
    (fresh : b.stage? id = none → id ∉ gone) :
    Option.Rel (Recalls gone) (b.enqueue? id) (b'.enqueue? id) := by
  have same : b'.knows id = b.knows id := by
    rcases recalls.stage id with same | ⟨forgotten, unknown, -⟩
    · rw [Bool.eq_iff_iff, knows_iff, knows_iff, same]
    · exact absurd forgotten (fresh unknown)
  simp only [Backlog.enqueue?, same, recalls.pending]
  split
  · exact .none
  · exact .some (recalls.insert _ id _)

/-- What one backlog forgets, the other one recalls. -/
theorem forgetAll (recalls : Recalls gone b b') (rs : List TaskResult) :
    Recalls (gone ++ rs.map TaskResult.id) (b.forgetAll rs) b' := by
  refine ⟨recalls.pending.trans (pending_forgetAll b rs).symm, fun id => ?_⟩
  rw [stage?_forgetAll]
  split
  · rename_i forgotten
    obtain ⟨mem, completed⟩ := forgotten
    have kept : b'.stage? id = some .completed := by
      rcases recalls.stage id with same | ⟨-, unknown, -⟩
      · rw [same, completed]
      · rw [unknown] at completed
        cases completed
    exact .inr ⟨List.mem_append_right _ mem, rfl, kept⟩
  · exact (recalls.stage id).imp_right fun old => ⟨List.mem_append_left _ old.1, old.2⟩

end Recalls

end Backlog

namespace Dispatcher

variable {σ : Type u} (c : Collaborators σ)

/-- The ids of the results that were delivered. -/
def gone (d : Dispatcher σ) : List TaskId := (Journal.delivered d.journal).map TaskResult.id

/-- The two dispatchers differ in nothing that has to do with the work. The second one has no onlookers,
and recalls what the first one has forgotten. -/
structure InStep (gone : List TaskId) (d d' : Dispatcher σ) : Prop where
  backlog : Backlog.Recalls gone d.backlog d'.backlog
  roster : d'.roster = d.roster
  world : d'.world = d.world
  closed : d'.closed = d.closed
  errands : d'.journal.filter Entry.isErrand = d.journal.filter Entry.isErrand
  free : d'.parked = none

variable {gone gone' : List TaskId} {d d₁ d' : Dispatcher σ}

theorem gone_subset (later : d.journal <+: d'.journal) : d.gone ⊆ d'.gone := by
  obtain ⟨es, journal⟩ := later
  simp [Dispatcher.gone, ← journal, Journal.delivered]

theorem gone_answer (d : Dispatcher σ) (caller : Nat) (a : Answer) :
    (d.answer caller a).gone = d.gone ++ a.delivery.map TaskResult.id := by
  simp [Dispatcher.gone, answer, record, Journal.delivered_concat, Entry.delivery]

/-- An answer is no errand. -/
theorem filter_answer (d : Dispatcher σ) (caller : Nat) (a : Answer) :
    (d.answer caller a).journal.filter Entry.isErrand = d.journal.filter Entry.isErrand := by
  simp [answer, record, Entry.isErrand]

theorem refuseParked_of_free (free : d.parked = none) : d.refuseParked = d := by
  simp [refuseParked, free]

namespace InStep

/-! ### What both do -/

theorem of_backlog (step : InStep gone d d') {b b' : Backlog} (recalls : Backlog.Recalls gone b b') :
    InStep gone { d with backlog := b } { d' with backlog := b' } :=
  ⟨recalls, step.roster, step.world, step.closed, step.errands, step.free⟩

theorem of_roster (step : InStep gone d d') (roster : Roster) :
    InStep gone { d with roster } { d' with roster } :=
  ⟨step.backlog, rfl, step.world, step.closed, step.errands, step.free⟩

/-- Entries that are no errands do not count, and each may write its own. -/
theorem record (step : InStep gone d d') {e e' : Entry} (quiet : e.isErrand = false)
    (quiet' : e'.isErrand = false) : InStep gone (d.record e) (d'.record e') := by
  refine ⟨step.backlog, step.roster, step.world, step.closed, ?_, step.free⟩
  simp [Dispatcher.record, List.filter_append, step.errands, quiet, quiet']

theorem record_errand (step : InStep gone d d') (world : σ) (e : Errand) (ok : Bool) :
    InStep gone (Dispatcher.record { d with world } (.errand e ok))
      (Dispatcher.record { d' with world } (.errand e ok)) := by
  refine ⟨step.backlog, step.roster, rfl, step.closed, ?_, step.free⟩
  simp [Dispatcher.record, List.filter_append, step.errands]

/-- An errand has the same outcome for both. -/
theorem send {ε α : Type} (step : InStep gone d d') (e : Errand) (run : σ → Except ε α × σ) :
    (d'.send e run).1 = (d.send e run).1 ∧ InStep gone (d.send e run).2 (d'.send e run).2 := by
  simp only [Dispatcher.send, step.world]
  exact ⟨trivial, step.record_errand _ e _⟩

/-- What the first one does need not show in the work. -/
theorem of_left (step : InStep gone d d') (recalls : Backlog.Recalls gone' d₁.backlog d'.backlog)
    (roster : d₁.roster = d.roster) (world : d₁.world = d.world) (closed : d₁.closed = d.closed)
    (errands : d₁.journal.filter Entry.isErrand = d.journal.filter Entry.isErrand) :
    InStep gone' d₁ d' :=
  ⟨recalls, step.roster.trans roster.symm, step.world.trans world.symm, step.closed.trans closed.symm,
    step.errands.trans errands.symm, step.free⟩

theorem foldl {α : Type} {act : Dispatcher σ → α → Dispatcher σ}
    (acts : ∀ {d d'}, InStep gone d d' → ∀ a, InStep gone (act d a) (act d' a))
    (step : InStep gone d d') (as : List α) : InStep gone (as.foldl act d) (as.foldl act d') := by
  induction as generalizing d d' with
  | nil => exact step
  | cons a as ih => exact ih (acts step a)

theorem wakeSleepers (step : InStep gone d d') :
    InStep gone (d.wakeSleepers c) (d'.wakeSleepers c) := by
  unfold Dispatcher.wakeSleepers
  rw [step.roster]
  refine foldl (fun {d d'} step h => ?_) step _
  rw [step.world]
  exact step.record_errand _ _ _

theorem requeue (step : InStep gone d d') (id : TaskId) :
    InStep gone (d.requeue c id) (d'.requeue c id) := by
  have put := step.backlog.requeue? id
  unfold Dispatcher.requeue
  generalize d.backlog.requeue? id = b at put
  generalize d'.backlog.requeue? id = b' at put
  cases put with
  | none => exact step
  | some recalls =>
    have both := step.of_backlog recalls
    dsimp only
    rw [step.backlog.pending]
    split
    · exact both.wakeSleepers c
    · exact both

theorem retire (step : InStep gone d d') (name : String) :
    (d'.retire c name).1 = (d.retire c name).1 ∧
      InStep gone (d.retire c name).2 (d'.retire c name).2 := by
  unfold Dispatcher.retire
  rw [step.roster]
  split
  · exact ⟨rfl, step⟩
  · rename_i h assigned roster _
    have out := ((step.of_roster roster).send (.unwatch h) (c.unwatch h)).2
    dsimp only
    split
    · exact ⟨rfl, out⟩
    · exact ⟨rfl, out.requeue c _⟩

theorem register (step : InStep gone d d') (h : Handle) :
    InStep gone (d.register c h) (d'.register c h) := by
  have enroll : ∀ {d d' : Dispatcher σ}, InStep gone d d' →
      InStep gone (register.enroll c h d) (register.enroll c h d') := by
    intro d d' step
    unfold register.enroll
    rw [step.roster]
    split
    · exact step
    · rename_i roster _
      exact ((step.of_roster roster).send (.watch h) (c.watch h)).2
  unfold Dispatcher.register
  rw [step.roster]
  split
  · split
    · exact step
    · exact enroll (step.retire c h.name).2
  · exact enroll step

theorem putToSleep (step : InStep gone d d') (name : String) :
    InStep gone (d.putToSleep name) (d'.putToSleep name) := by
  unfold Dispatcher.putToSleep
  rw [step.roster]
  exact step.of_roster _

theorem putBack (step : InStep gone d d') (id : TaskId) :
    InStep gone (d.putBack id) (d'.putBack id) := by
  have put := step.backlog.restoreFront? id
  unfold Dispatcher.putBack
  generalize d.backlog.restoreFront? id = b at put
  generalize d'.backlog.restoreFront? id = b' at put
  cases put with
  | none => exact step.of_backlog step.backlog
  | some recalls => exact step.of_backlog recalls

theorem launch (step : InStep gone d d') (name : String) (id : TaskId) {b b' : Backlog}
    (recalls : Backlog.Recalls gone b b') :
    InStep gone (d.launch name id b) (d'.launch name id b') := by
  unfold Dispatcher.launch
  rw [step.roster]
  exact (step.of_backlog recalls).of_roster _

/-- Both hand the same task to a worker, or none. -/
theorem dispatch (step : InStep gone d d') (h : Handle) :
    (d'.dispatch c h).1 = (d.dispatch c h).1 ∧
      InStep gone (d.dispatch c h).2 (d'.dispatch c h).2 := by
  have registered := step.register c h
  unfold Dispatcher.dispatch
  generalize d.register c h = d at registered ⊢
  generalize d'.register c h = d' at registered ⊢
  dsimp only
  have next := registered.backlog.launchNext?
  generalize d.backlog.launchNext? = n at next
  generalize d'.backlog.launchNext? = n' at next
  cases next with
  | none => exact ⟨rfl, registered.putToSleep h.name⟩
  | @some n n' next =>
    obtain ⟨id, b⟩ := n
    obtain ⟨id', b'⟩ := n'
    obtain ⟨same, recalls⟩ := next
    cases same
    obtain ⟨outcome, fetched⟩ := (registered.launch h.name id recalls).send (.fetch id) (c.fetch id)
    dsimp only
    generalize (d.launch h.name id b).send (.fetch id) (c.fetch id) = sent at outcome fetched ⊢
    generalize (d'.launch h.name id b').send (.fetch id) (c.fetch id) = sent' at outcome fetched ⊢
    obtain ⟨found, d₁⟩ := sent
    obtain ⟨found', d₁'⟩ := sent'
    cases outcome
    cases found with
    | ok task => exact ⟨rfl, (fetched.send (.stage id) (c.stage id)).2⟩
    | error _ => exact ⟨rfl, (fetched.putBack id).putToSleep h.name⟩

theorem acceptResult (step : InStep gone d d') (r : TaskResult) (h : Handle) :
    InStep gone (d.acceptResult c r h) (d'.acceptResult c r h) := by
  have done := step.backlog.complete? r.id
  unfold Dispatcher.acceptResult
  generalize d.backlog.complete? r.id = b at done
  generalize d'.backlog.complete? r.id = b' at done
  cases done with
  | none => exact step
  | @some b b' recalls =>
    dsimp only
    rw [step.roster]
    generalize (if d.roster.assignment? h.name = some r.id then _ else d.roster) = roster
    have taken : InStep gone
        { d with backlog := b, roster, outbox := d.outbox.addCompleted r }
        { d' with backlog := b', roster, outbox := d'.outbox.addCompleted r } :=
      ⟨recalls, rfl, step.world, step.closed, step.errands, step.free⟩
    exact ((taken.record rfl rfl).send (.evict r.id) (c.evict r.id)).2

theorem reportDead (step : InStep gone d d') (name : String) :
    InStep gone (d.reportDead c name) (d'.reportDead c name) := by
  obtain ⟨same, retired⟩ := step.retire c name
  unfold Dispatcher.reportDead
  generalize d.retire c name = out at same retired ⊢
  generalize d'.retire c name = out' at same retired ⊢
  obtain ⟨h, d₁⟩ := out
  obtain ⟨h', d₁'⟩ := out'
  cases same
  cases h with
  | none => exact retired
  | some h => exact (retired.send (.release [h]) (c.release [h])).2

/-- An id that was delivered is not submitted, and so the same ids are new to both. -/
theorem submitOne (step : InStep gone d d') (delivered : gone ⊆ d.gone) (id : TaskId)
    (never : (d.submitOne id).journal.NeverReturns) :
    InStep gone (d.submitOne id) (d'.submitOne id) := by
  have fresh : d.backlog.stage? id = none → id ∉ gone := by
    intro unknown mem
    obtain ⟨b, enqueued⟩ := Option.isSome_iff_exists.mp ((d.backlog.isSome_enqueue? id).mpr unknown)
    have journal : (d.submitOne id).journal = d.journal ++ [.admitted id] := by
      simp [Dispatcher.submitOne, enqueued, Dispatcher.record]
    rw [journal] at never
    exact never.not_mem_delivered (delivered mem)
  have new := step.backlog.enqueue? fresh
  unfold Dispatcher.submitOne
  generalize d.backlog.enqueue? id = b at new
  generalize d'.backlog.enqueue? id = b' at new
  cases new with
  | none => exact step
  | @some b b' recalls =>
    have entered : InStep gone { d with backlog := b, outbox := d.outbox.addPending id }
        { d' with backlog := b', outbox := d'.outbox.addPending id } :=
      ⟨recalls, step.roster, step.world, step.closed, step.errands, step.free⟩
    exact entered.record rfl rfl

theorem submit (step : InStep gone d d') (delivered : gone ⊆ d.gone) (ids : List TaskId)
    (never : (d.submit c ids).journal.NeverReturns) :
    InStep gone (d.submit c ids) (d'.submit c ids) := by
  have enter : ∀ {d d' : Dispatcher σ}, InStep gone d d' → gone ⊆ d.gone →
      (ids.foldl Dispatcher.submitOne d).journal.NeverReturns →
      InStep gone (ids.foldl Dispatcher.submitOne d) (ids.foldl Dispatcher.submitOne d') := by
    clear never step
    induction ids with
    | nil => exact fun step _ _ => step
    | cons id ids ih =>
      intro d d' step delivered never
      have first := (does_submitOne c d id).leadsOn
      have rest := (does_enter c (d.submitOne id) ids).leadsOn
      have one := step.submitOne delivered id (never.of_prefix rest.journal)
      exact ih one (List.Subset.trans delivered (gone_subset first.journal)) never
  have whole : (ids.foldl Dispatcher.submitOne d).journal <+: (d.submit c ids).journal := by
    unfold Dispatcher.submit
    dsimp only
    split
    · have woken : LeadsOn c _ (Dispatcher.wakeSleepers c (ids.foldl Dispatcher.submitOne d)) :=
        Leads.of_errands (errands_wakeSleepers c _)
      exact woken.journal
    · exact List.prefix_rfl
  have entered := enter step delivered (never.of_prefix whole)
  unfold Dispatcher.submit
  dsimp only
  rw [step.backlog.pending, entered.backlog.pending]
  split
  · exact entered.wakeSleepers c
  · exact entered

theorem letGo (step : InStep gone d d') (workers : List Handle) (free : Bool) :
    InStep gone (d.letGo c workers free) (d'.letGo c workers free) := by
  have unwatched := step.foldl
    (fun step h => (step.send (.unwatch h) (c.unwatch h)).2) workers
  unfold Dispatcher.letGo
  dsimp only
  generalize workers.foldl _ d = d₁ at unwatched ⊢
  generalize workers.foldl _ d' = d₁' at unwatched ⊢
  split
  · exact ((unwatched.send _ c.stopWatching).2.send _ (c.stopProvisioning free)).2
  · have released := (unwatched.send (.release workers) (c.release workers)).2
    exact ((released.send _ c.stopWatching).2.send _ (c.stopProvisioning free)).2

/-- Both stop. Only one of them can have a wait to refuse. -/
theorem terminate (step : InStep gone d d') (free : Bool) :
    InStep gone (d.terminate c free) (d'.terminate c free) := by
  have closed : InStep gone
      { d with backlog := {}, outbox := d.outbox.clear, roster := d.roster.drain.2, closed := true }
      { d' with backlog := {}, outbox := d'.outbox.clear, roster := d'.roster.drain.2, closed := true } :=
    ⟨.refl {}, rfl, step.world, rfl, step.errands, step.free⟩
  have gone := closed.letGo c d.roster.drain.1 free
  unfold Dispatcher.terminate
  dsimp only
  rw [step.roster] at gone ⊢
  generalize Dispatcher.letGo c _ d.roster.drain.1 free = d₁ at gone ⊢
  generalize Dispatcher.letGo c _ d.roster.drain.1 free = d₁' at gone ⊢
  rw [refuseParked_of_free gone.free]
  unfold refuseParked
  split
  · exact gone
  · exact gone.of_left gone.backlog rfl rfl rfl (filter_answer ..)

/-- **A call that is about the work is served in the same way**, and gets the same answer. -/
theorem serve (step : InStep gone d d') (delivered : gone ⊆ d.gone) (present : Attendance) {call : Call}
    (works : call.onlooks = false) (never : (d.serve c present call).journal.NeverReturns) :
    ∃ d₁ d₁' a, InStep gone d₁ d₁' ∧ d.serve c present call = d₁.answer call.caller a ∧
      d'.serve c present call = d₁'.answer call.caller a := by
  obtain ⟨caller, request⟩ := call
  cases request with
  | requestTask h =>
    obtain ⟨same, dispatched⟩ := step.dispatch c h
    refine ⟨_, _, .assignment (d.dispatch c h).1, dispatched, rfl, ?_⟩
    rw [← same]
    rfl
  | handIn r h =>
    obtain ⟨same, dispatched⟩ := (step.acceptResult c r h).dispatch c h
    refine ⟨_, _, .assignment ((d.acceptResult c r h).dispatch c h).1, dispatched, rfl, ?_⟩
    rw [← same]
    rfl
  | reportDead name => exact ⟨_, _, _, step.reportDead c name, rfl, rfl⟩
  | submit ids =>
    have early : (d.submit c ids).journal.NeverReturns := never.of_prefix (List.prefix_append ..)
    exact ⟨_, _, _, step.submit c delivered ids early, rfl, rfl⟩
  | addResources resource =>
    obtain ⟨same, sent⟩ := step.send (.addResources resource) (c.addResources resource)
    unfold Dispatcher.serve
    dsimp only
    generalize d.send (.addResources resource) (c.addResources resource) = provided at same sent ⊢
    generalize d'.send (.addResources resource) (c.addResources resource) = provided' at same sent ⊢
    obtain ⟨outcome, d₁⟩ := provided
    obtain ⟨outcome', d₁'⟩ := provided'
    cases same
    cases outcome with
    | ok _ => exact ⟨d₁, d₁', _, sent, rfl, rfl⟩
    | error _ => exact ⟨d₁, d₁', _, sent, rfl, rfl⟩
  | terminate free => exact ⟨_, _, _, step.terminate c free, rfl, rfl⟩
  | _ => cases works

theorem mono (step : InStep gone d d') (more : gone ⊆ gone') : InStep gone' d d' :=
  ⟨step.backlog.mono more, step.roster, step.world, step.closed, step.errands, step.free⟩

/-! ### What only the first one does -/

theorem answer_left (step : InStep d.gone d d') (caller : Nat) (a : Answer) :
    InStep (d.answer caller a).gone (d.answer caller a) d' :=
  step.of_left (step.backlog.mono (gone_subset (List.prefix_append ..))) rfl rfl rfl (filter_answer ..)

/-- Waits may be parked and leave their place. -/
theorem parked_left (step : InStep d.gone d d') (parked : Option (Nat × Wait)) :
    InStep (Dispatcher.gone { d with parked }) { d with parked } d' :=
  step.of_left step.backlog rfl rfl rfl rfl

/-- Only the first one has a wait to look at. -/
theorem serveParked_left (step : InStep d.gone d d') (present : Attendance) :
    InStep (d.serveParked present).gone (d.serveParked present) d' := by
  have look := look_serveParked present d
  generalize d.serveParked present = d₁ at look ⊢
  cases look with
  | idle | stays => exact step
  | dropped =>
    refine step.of_left (step.backlog.mono (gone_subset (List.prefix_append ..))) rfl rfl rfl ?_
    simp [Dispatcher.record, Entry.isErrand]
  | refused => exact (step.parked_left none).answer_left _ _
  | served k _ _ _ _ _ bears =>
    rw [gone_answer, bears]
    exact step.of_left (step.backlog.forgetAll _) rfl rfl rfl (filter_answer ..)

theorem park_left (step : InStep d.gone d d') (present : Attendance) (caller : Nat) (w : Wait) :
    InStep (d.park present caller w).gone (d.park present caller w) d' := by
  have looked := step.serveParked_left present
  unfold park
  dsimp only
  split
  · exact looked.answer_left _ _
  · exact (looked.parked_left _).serveParked_left present

/-- **The call of an onlooker** does not show in the work. -/
theorem serveOrRefuse_left (step : InStep d.gone d d') (present : Attendance) {call : Call}
    (onlooks : call.onlooks = true) :
    InStep (d.serveOrRefuse c present call).gone (d.serveOrRefuse c present call) d' := by
  unfold serveOrRefuse
  split
  · exact step.answer_left _ _
  · obtain ⟨caller, request⟩ := call
    cases request with
    | wait w => exact step.park_left present caller w
    | setOrder order =>
      have reordered : InStep (Dispatcher.gone { d with outbox := d.outbox.setOrder order })
          { d with outbox := d.outbox.setOrder order } d' :=
        step.of_left step.backlog rfl rfl rfl rfl
      exact reordered.answer_left caller .done
    | countAvailable | isEmpty | poolSize => exact step.answer_left caller _
    | _ => cases onlooks

end InStep

/-! ### Runs -/

/-- The move is the call of an onlooker. -/
def Move.onlooks : Move σ → Bool
  | .call _ asked => asked.onlooks
  | _ => false

/-- A run, when the calls of onlookers are struck from it. -/
def withoutOnlookers (ms : List (Move σ)) : List (Move σ) := ms.filter (!·.onlooks)

/-- A call that is about the work gets the same answer from both, and they stay in step. -/
theorem InStep.serveOrRefuse (step : InStep d.gone d d') (present : Attendance) {call : Call}
    (works : call.onlooks = false) (never : (d.serveOrRefuse c present call).journal.NeverReturns) :
    InStep d.gone (d.serveOrRefuse c present call) (d'.serveOrRefuse c present call) ∧
      ∃ a, (d.serveOrRefuse c present call).journal.getLast? = some (.answered call.caller a) ∧
        (d'.serveOrRefuse c present call).journal.getLast? = some (.answered call.caller a) := by
  unfold Dispatcher.serveOrRefuse at never ⊢
  rw [step.closed]
  split
  · exact ⟨step.record rfl rfl, .refused .terminated, List.getLast?_concat, List.getLast?_concat⟩
  · rename_i runs
    rw [if_neg runs] at never
    obtain ⟨d₁, d₁', a, served, eq, eq'⟩ := step.serve c (List.Subset.refl _) present works never
    rw [eq, eq']
    exact ⟨served.record rfl rfl, a, List.getLast?_concat, List.getLast?_concat⟩

/-- **Two runs stay in step**, if the moves of one are those of the other without its onlookers. -/
theorem InStep.move (step : InStep d.gone d d') (m : Move σ)
    (never : (d.move c m).journal.NeverReturns) :
    InStep (d.move c m).gone (d.move c m) (d'.moves c (withoutOnlookers [m])) := by
  cases m with
  | call present call =>
    cases onlooks : call.onlooks with
    | true =>
      have struck : withoutOnlookers [Move.call (σ := σ) present call] = [] := by
        simp [withoutOnlookers, Move.onlooks, onlooks]
      rw [struck]
      exact step.serveOrRefuse_left c present onlooks
    | false =>
      have stays : withoutOnlookers [Move.call (σ := σ) present call] = [.call present call] := by
        simp [withoutOnlookers, Move.onlooks, onlooks]
      rw [stays]
      have served := (step.serveOrRefuse c present onlooks never).1
      exact served.mono (gone_subset (journal_move c d (.call present call)))
  | look present =>
    change InStep _ (d.serveParked present) (d'.serveParked present)
    rw [serveParked_of_free present step.free]
    exact step.serveParked_left present
  | outside change =>
    exact ⟨step.backlog, step.roster, congrArg change step.world, step.closed, step.errands, step.free⟩

theorem InStep.moves (step : InStep d.gone d d') (ms : List (Move σ))
    (never : (d.moves c ms).journal.NeverReturns) :
    InStep (d.moves c ms).gone (d.moves c ms) (d'.moves c (withoutOnlookers ms)) := by
  induction ms generalizing d d' with
  | nil => exact step
  | cons m ms ih =>
    have split : withoutOnlookers (m :: ms) = withoutOnlookers [m] ++ withoutOnlookers ms :=
      List.filter_append [m] ms
    rw [split, moves_append]
    exact ih (step.move c m (never.of_prefix (journal_moves c _ ms))) never

theorem inStep_start (order : DeliveryOrder) (world : σ) :
    InStep (start order world).gone (start order world) (start order world) :=
  ⟨.refl {}, rfl, rfl, rfl, rfl, rfl⟩

/-- A batch, when the calls of onlookers are struck from it. -/
def Batch.withoutOnlookers (b : Batch) : Batch := { b with calls := b.calls.filter (!·.onlooks) }

theorem inTurn_filter (p : Call → Bool) (batch : List Call) :
    inTurn (batch.filter p) = (inTurn batch).filter p := by
  simp only [inTurn, List.filter_append, List.filter_filter, Bool.and_comm]

theorem Batch.moves_withoutOnlookers (b : Batch) :
    b.withoutOnlookers.moves (σ := σ) = Dispatcher.withoutOnlookers b.moves := by
  simp only [Batch.moves, Batch.withoutOnlookers, Dispatcher.withoutOnlookers, inTurn_filter,
    List.filter_append, List.filter_map, List.filter_cons, List.filter_nil, Function.comp_def,
    Move.onlooks, Bool.not_false, if_true]

/-- Batches from which the calls of onlookers are struck have the moves of a run from which they are. -/
theorem flatMap_moves_withoutOnlookers (batches : List Batch) :
    (batches.map Batch.withoutOnlookers).flatMap (Batch.moves (σ := σ))
      = withoutOnlookers (batches.flatMap Batch.moves) := by
  induction batches with
  | nil => rfl
  | cons b batches ih =>
    rw [List.map_cons, List.flatMap_cons, ih, Batch.moves_withoutOnlookers, List.flatMap_cons]
    exact (List.filter_append ..).symm

/-- **Onlookers do not disturb the work.** In a run, let no id be submitted again after its result was
delivered, and strike from it all calls of onlookers. Wherever the run has come to, the other one has the
same workers, the same pending and the same launched tasks, and the same world; it has sent its
collaborators on the same errands, with the same outcomes, and it has stopped just in case the first one
has. A call that comes next, and is not that of an onlooker, gets the same answer from both. If the run
is one of batches, so is the other, and its batches are those of the first without the calls of
onlookers. -/
theorem work_undisturbed (order : DeliveryOrder) (world : σ) (before after : List (Move σ))
    (never : ((start order world).moves c (before ++ after)).journal.NeverReturns) :
    let d := (start order world).moves c before
    let d' := (start order world).moves c (withoutOnlookers before)
    d'.roster = d.roster ∧ d'.backlog.pending = d.backlog.pending ∧
      (∀ id, d'.backlog.isLaunched id = d.backlog.isLaunched id) ∧
      d'.journal.filter Entry.isErrand = d.journal.filter Entry.isErrand ∧
      d'.world = d.world ∧ d'.closed = d.closed ∧
      (∀ present call later, after = .call present call :: later → call.onlooks = false →
        ∃ a, (d.serveOrRefuse c present call).journal.getLast? = some (.answered call.caller a) ∧
          (d'.serveOrRefuse c present call).journal.getLast? = some (.answered call.caller a)) ∧
      ∀ batches, before = batches.flatMap Batch.moves →
        d = (start order world).run c batches ∧
          d' = (start order world).run c (batches.map Batch.withoutOnlookers) := by
  intro d d'
  rw [moves_append] at never
  have early : d.journal.NeverReturns := never.of_prefix (journal_moves c _ after)
  have step : InStep d.gone d d' := (inStep_start order world).moves c before early
  refine ⟨step.roster, step.backlog.pending, step.backlog.isLaunched, step.errands, step.world,
    step.closed, ?_, ?_⟩
  · rintro present call later rfl works
    have first : (d.serveOrRefuse c present call).journal.NeverReturns :=
      never.of_prefix (journal_moves c (d.serveOrRefuse c present call) later)
    exact (step.serveOrRefuse c present works first).2
  · rintro batches rfl
    rw [run_eq_moves, run_eq_moves, flatMap_moves_withoutOnlookers]
    exact ⟨rfl, rfl⟩

/-- A client waits for the next result, and asks how many there are, while a worker runs a task. -/
def lookingOn : List Batch :=
  [{ calls := [⟨0, .wait .one⟩, ⟨1, .submit [⟨1⟩, ⟨2⟩]⟩] },
    { calls := [⟨2, .poolSize⟩, ⟨3, .requestTask ⟨0, "ann"⟩⟩] },
    { calls := [⟨4, .countAvailable⟩, ⟨5, .handIn ⟨⟨1⟩, .ok (.bool true), "ann"⟩ ⟨0, "ann"⟩⟩] }]

/-- The result of the first task is delivered, and without the client it is not. The worker has the
second task either way, and is told the same when it calls once more. -/
theorem work_undisturbed_lookingOn :
    let world := (((({} : Vault).store (.bool true)).2.store (.bool false)).2)
    let d := (start .completion world).run .ofVault lookingOn
    let d' := (start .completion world).run .ofVault (lookingOn.map Batch.withoutOnlookers)
    let next : Call := ⟨6, .handIn ⟨⟨2⟩, .ok (.bool false), "ann"⟩ ⟨0, "ann"⟩⟩
    d.backlog.stage? ⟨1⟩ = none ∧ d'.backlog.stage? ⟨1⟩ = some .completed ∧ d'.roster = d.roster ∧
      d.backlog.isLaunched ⟨2⟩ = true ∧ d'.backlog.isLaunched ⟨2⟩ = true ∧
      ∃ a, (d.serveOrRefuse .ofVault {} next).journal.getLast? = some (.answered 6 a) ∧
        (d'.serveOrRefuse .ofVault {} next).journal.getLast? = some (.answered 6 a) := by
  intro world d d' next
  obtain ⟨roster, -, launched, -, -, -, answers, batches⟩ := work_undisturbed .ofVault .completion world
    (lookingOn.flatMap Batch.moves) [.call {} next] (by decide)
  obtain ⟨(runs : _ = d), (runs' : _ = d')⟩ := batches lookingOn rfl
  rw [runs, runs'] at roster launched answers
  have second : d.backlog.isLaunched ⟨2⟩ = true := by decide
  exact ⟨by decide, by decide, roster, second, (launched ⟨2⟩).trans second, answers {} next [] rfl rfl⟩

end Dispatcher

end WorkFarm
