import WorkFarm.Proofs.Roster
import WorkFarm.Proofs.Vault
/-!
# What calls do to the workers

Most of what a dispatcher does leaves its workers alone: it talks to collaborators, answers, and
delivers results. `Dispatcher.Spares` says so of two dispatchers: the roster is the same, and no stage
has changed, except that completed ids may have been forgotten. It holds of the steps of all those kinds
(`Step.spares`), and so of every call of a client, but for those that submit tasks or stop the dispatcher
(`spares_serve`).

What is left are few operations on the roster and the backlog, and for each of them one theorem says
what it does up to what is spared: `retire_cases` for a worker that is taken out, `register_cases` and
`enroll_spec` for one that calls, `acceptResult_cases` for a result, and `hands_dispatch` for what a worker
is handed. The last one holds of faithful collaborators, which never bring the payload of one task when
they are asked for that of another.

## Main definitions

* `Dispatcher.Spares` — workers and unfinished tasks are as they were
* `Dispatcher.Hands` — a worker is handed a task or nothing, and nothing else happens to the others
* `Collaborators.Faithful` — a task that is fetched is the one that was asked for
-/

namespace WorkFarm

universe u

/-- A task that is fetched is the one that was asked for. -/
def Collaborators.Faithful {σ : Type u} (c : Collaborators σ) : Prop :=
  ∀ id w t, (c.fetch id w).1 = .ok t → t.id = id

theorem Collaborators.faithful_ofVault : Collaborators.ofVault.Faithful :=
  fun _ v _ fetched => (Vault.fetch_eq_ok (v := v) fetched).1

namespace Dispatcher

variable {σ : Type u} (c : Collaborators σ)

/-- Workers and unfinished tasks are as they were. -/
structure Spares (d d' : Dispatcher σ) : Prop where
  /-- The roster is the same. -/
  roster : d'.roster = d.roster
  /-- No stage has changed, except that completed ids may have been forgotten. -/
  stages : ∀ id, d'.backlog.stage? id = d.backlog.stage? id ∨
    d.backlog.stage? id = some .completed ∧ d'.backlog.stage? id = none
  /-- No submission was accepted. -/
  admitted : Journal.admitted d'.journal = Journal.admitted d.journal
  closed : d'.closed = d.closed

namespace Spares

variable {d d₁ d₂ : Dispatcher σ}

theorem refl (d : Dispatcher σ) : Spares d d := ⟨rfl, fun _ => .inl rfl, rfl, rfl⟩

theorem trans (h₁ : Spares d d₁) (h₂ : Spares d₁ d₂) : Spares d d₂ := by
  refine ⟨h₂.roster.trans h₁.roster, ?_, h₂.admitted.trans h₁.admitted,
    h₂.closed.trans h₁.closed⟩
  intro id
  rcases h₁.stages id with same | ⟨completed, gone⟩
  · rw [← same]
    exact h₂.stages id
  · rcases h₂.stages id with same | ⟨completed', -⟩
    · exact .inr ⟨completed, same.trans gone⟩
    · rw [gone] at completed'
      cases completed'

/-- Any entry may be made in the journal, except that a submission was accepted. -/
theorem record (d : Dispatcher σ) {e : Entry} (quiet : e.admission? = none) :
    Spares d (d.record e) :=
  ⟨rfl, fun _ => .inl rfl, by simp [Dispatcher.record, Journal.admitted_concat, quiet], rfl⟩

theorem answer (d : Dispatcher σ) (caller : Nat) (a : Answer) : Spares d (d.answer caller a) :=
  record d rfl

theorem send {ε α : Type} (d : Dispatcher σ) (e : Errand) (run : σ → Except ε α × σ) :
    Spares d (d.send e run).2 :=
  ⟨rfl, fun _ => .inl rfl, by simp [Dispatcher.send, Dispatcher.record, Journal.admitted_concat,
    Entry.admission?], rfl⟩

theorem of_sent {c : Collaborators σ} {e : Errand} (sent : Sent c e d d₁) : Spares d d₁ := by
  obtain ⟨ok⟩ := sent
  refine ⟨rfl, fun _ => .inl rfl, ?_, rfl⟩
  simp [Dispatcher.record, Journal.admitted_concat, Entry.admission?]

instance : Std.Refl (Spares : Dispatcher σ → Dispatcher σ → Prop) := ⟨refl⟩

instance : IsTrans (Dispatcher σ) Spares := ⟨fun _ _ _ => trans⟩

theorem of_errands {c : Collaborators σ} {kind : Errand → Prop} (errands : Errands c kind d d₁) :
    Spares d d₁ :=
  relates_errands (fun _ sent => of_sent sent) errands

theorem launched_iff (h : Spares d d₁) (id : TaskId) :
    d₁.backlog.stage? id = some .launched ↔ d.backlog.stage? id = some .launched := by
  rcases h.stages id with same | ⟨completed, gone⟩
  · rw [same]
  · simp [completed, gone]

theorem pending_iff (h : Spares d d₁) (id : TaskId) :
    d₁.backlog.stage? id = some .pending ↔ d.backlog.stage? id = some .pending := by
  rcases h.stages id with same | ⟨completed, gone⟩
  · rw [same]
  · simp [completed, gone]

end Spares

/-! ### What spares the workers -/

/-- A step by which neither the workers nor the tasks become others. -/
def Act.Spares : Act → Prop
  | .errand _ | .reorder | .answer _ _ | .park | .refuse | .drop | .deliver => True
  | _ => False

variable {c} {d d' : Dispatcher σ}

theorem Step.spares {a : Act} (step : Step c d a d') (quiet : a.Spares) : Spares d d' := by
  have unparked : Spares d { d with parked := none } := ⟨rfl, fun _ => .inl rfl, rfl, rfl⟩
  cases step with
  | errand sent => exact .of_sent sent
  | reorder | park => exact ⟨rfl, fun _ => .inl rfl, rfl, rfl⟩
  | answer _ caller => exact .answer d caller _
  | refuse => exact unparked.trans (.answer _ _ _)
  | drop => exact unparked.trans (.record _ rfl)
  | @deliver _ caller _ a k =>
    have forget : Spares d { d with
        backlog := d.backlog.forgetAll (d.outbox.takeFirst k).1
        outbox := (d.outbox.takeFirst k).2
        parked := none } := by
      refine ⟨rfl, fun id => ?_, rfl, rfl⟩
      dsimp only
      rw [Backlog.stage?_forgetAll]
      split
      · rename_i forgotten
        exact .inr ⟨forgotten.2, rfl⟩
      · exact .inl rfl
    exact forget.trans (.answer _ caller a)
  | _ => exact quiet.elim

theorem Does.spares {kind : Act → Prop} (does : Does c kind d d') (quiet : ∀ a, kind a → a.Spares) :
    Spares d d' :=
  does.relates fun fits step => step.spares (quiet _ fits)

theorem Act.Waits.spares {a : Act} (waits : a.Waits) : a.Spares := by
  cases waits <;> trivial

variable (c)

/-- A call of a client spares the workers, unless it submits tasks or stops the dispatcher. -/
theorem spares_serve (present : Attendance) (d : Dispatcher σ) {call : Call}
    (client : call.priority ≠ .worker) (enters : ∀ ids, call.request ≠ .submit ids)
    (goesOn : ∀ free, call.request ≠ .terminate free) : Spares d (d.serve c present call) := by
  rcases call.waits_or_terminates_or_passes with ⟨w, asked⟩ | ⟨free, asked⟩ | passes
  · rw [serve_wait c asked]
    exact (does_park c d present call.caller w).spares fun _ => Act.Waits.spares
  · exact absurd asked (goesOn free)
  · obtain ⟨d₁, a, does, -, served⟩ := does_passing c d present passes
    have quiet : Spares d d₁ := does.spares fun a takes => by
      cases takes with
      | staff _ worker => exact absurd worker client
      | hand _ asks => exact absurd (call.priority_of_worker? asks) client
      | accept brought => exact absurd (call.priority_of_result? brought) client
      | enter asked => exact absurd asked (enters _)
      | evict | wake | reorder | provide => trivial
    exact served ▸ quiet.trans (.answer d₁ _ a)

/-- A dispatcher that stops forgets the workers, and whatever comes after that spares them. -/
theorem spares_terminate (d : Dispatcher σ) (free : Bool) :
    Spares { d with backlog := {}, outbox := d.outbox.clear, roster := {}, closed := true }
      (d.terminate c free) := by
  have letGo := Spares.of_errands (errands_letGo c
    { d with backlog := {}, outbox := d.outbox.clear, roster := {}, closed := true }
    d.roster.drain.1 free)
  exact letGo.trans ((does_refuseParked c _).spares fun a (here : a = .refuse) => here ▸ trivial)

/-- Nobody is on the roster when the dispatcher has stopped. -/
theorem roster_terminate (d : Dispatcher σ) (free : Bool) : (d.terminate c free).roster = {} :=
  (spares_terminate c d free).roster

theorem closed_terminate (d : Dispatcher σ) (free : Bool) : (d.terminate c free).closed = true :=
  (spares_terminate c d free).closed

/-! ### What the other operations do to them -/

/-- Taking a worker out takes it off the roster, and its task goes back to the pending ones if it was
launched. -/
theorem retire_cases (d : Dispatcher σ) (name : String) :
    d.roster.handle? name = none ∧ (d.retire c name).2 = d ∨
      ∃ h assigned roster, d.roster.remove? name = some (h, assigned, roster) ∧
        Spares { d with roster, backlog := (assigned.bind d.backlog.requeue?).getD d.backlog }
          (d.retire c name).2 := by
  unfold retire
  cases removed : d.roster.remove? name with
  | none => exact .inl ⟨Roster.remove?_eq_none.mp removed, rfl⟩
  | some out =>
    obtain ⟨h, assigned, roster⟩ := out
    refine .inr ⟨h, assigned, roster, rfl, ?_⟩
    have unwatch := Spares.send { d with roster } (.unwatch h) (c.unwatch h)
    cases assigned with
    | none => exact unwatch
    | some id =>
      dsimp only [Option.bind_some]
      set d₁ := ({ d with roster }.send (.unwatch h) (c.unwatch h)).2
      unfold requeue
      have same : d₁.backlog = d.backlog := rfl
      rw [same]
      cases requeued : d.backlog.requeue? id with
      | none => exact unwatch
      | some backlog =>
        have put : Spares { d with roster, backlog } { d₁ with backlog } :=
          ⟨rfl, fun _ => .inl rfl, unwatch.admitted, rfl⟩
        dsimp only [Option.getD_some]
        split
        · exact put.trans (.of_errands (errands_wakeSleepers c _))
        · exact put

theorem handle?_retire (d : Dispatcher σ) (n m : String) :
    (d.retire c n).2.roster.handle? m = if m = n then none else d.roster.handle? m := by
  rcases retire_cases c d n with ⟨free, same⟩ | ⟨h, assigned, roster, removed, spares⟩
  · rw [same]
    by_cases here : m = n
    · rw [if_pos here, here, free]
    · rw [if_neg here]
  · obtain ⟨-, -, handles, -, -⟩ := Roster.remove?_eq_some removed
    rw [spares.roster]
    exact handles m

/-- A death report does no more to the workers than taking one out. -/
theorem spares_reportDead (d : Dispatcher σ) (n : String) :
    Spares (d.retire c n).2 (d.reportDead c n) := by
  unfold reportDead
  split
  · rename_i d' retired
    rw [retired]
    exact .refl d'
  · rename_i h d' retired
    rw [retired]
    exact .send d' _ _

/-- An instance that calls is on the roster, and nothing has changed for it; or it is new, and is
enrolled, after another instance with its name was taken out if there was one. -/
theorem register_cases (d : Dispatcher σ) (h : Handle) :
    (∃ known, d.roster.handle? h.name = some known ∧ known.serial = h.serial ∧
        d.register c h = d) ∨
      (∃ known, d.roster.handle? h.name = some known ∧ known.serial ≠ h.serial ∧
        d.register c h = register.enroll c h (d.retire c h.name).2) ∨
      d.roster.handle? h.name = none ∧ d.register c h = register.enroll c h d := by
  unfold register
  cases found : d.roster.handle? h.name with
  | none => exact .inr (.inr ⟨rfl, rfl⟩)
  | some known =>
    dsimp only
    by_cases same : known.serial = h.serial
    · exact .inl ⟨known, rfl, same, if_pos same⟩
    · exact .inr (.inl ⟨known, rfl, same, if_neg same⟩)

theorem enroll_spec {d : Dispatcher σ} {h : Handle} {roster : Roster}
    (registered : d.roster.register? h = some roster) :
    Spares { d with roster } (register.enroll c h d) := by
  simp only [register.enroll, registered]
  exact .send _ _ _

/-- A result is late, and nothing happens; or its task is completed, and its worker is done with it. -/
theorem acceptResult_cases (d : Dispatcher σ) (r : TaskResult) (h : Handle) :
    d.backlog.stage? r.id ≠ some .launched ∧ d.acceptResult c r h = d ∨
      ∃ backlog, d.backlog.complete? r.id = some backlog ∧
        Spares { d with
          backlog
          roster := if d.roster.assignment? h.name = some r.id
            then d.roster.clearAssignment h.name else d.roster } (d.acceptResult c r h) := by
  unfold acceptResult
  cases completed : d.backlog.complete? r.id with
  | none =>
    refine .inl ⟨?_, rfl⟩
    intro launched
    rw [← Backlog.isSome_complete?, completed] at launched
    cases launched
  | some backlog =>
    refine .inr ⟨backlog, rfl, ?_⟩
    dsimp only
    generalize (if d.roster.assignment? h.name = some r.id then _ else d.roster) = roster
    have accept : Spares { d with backlog, roster } ({ d with
        backlog, roster, outbox := d.outbox.addCompleted r }.record (.accepted r)) :=
      ⟨rfl, fun _ => .inl rfl, by simp [record, Journal.admitted_concat, Entry.admission?], rfl⟩
    exact accept.trans (.send _ _ _)

/-- The worker with name `n` is handed the task `a`, or nothing. A task that is handed out was pending
and is launched, and the worker is noted to work on it and on nothing else. -/
structure Hands (n : String) (a : Option TaskId) (d d' : Dispatcher σ) : Prop where
  byName : d'.roster.byName = d.roster.byName
  byHandle : d'.roster.byHandle = d.roster.byHandle
  assignment : ∀ m, d'.roster.assignment? m = if m = n then a else d.roster.assignment? m
  launched : ∀ id, d'.backlog.stage? id = some .launched ↔
    a = some id ∨ d.backlog.stage? id = some .launched
  pending : ∀ id, d'.backlog.stage? id = some .pending ↔
    a ≠ some id ∧ d.backlog.stage? id = some .pending
  front : ∀ id, a = some id → d.backlog.stage? id = some .pending
  admitted : Journal.admitted d'.journal = Journal.admitted d.journal

theorem Hands.trans_spares {n : String} {a : Option TaskId} {d d₁ d₂ : Dispatcher σ}
    (hands : Hands n a d d₁) (spares : Spares d₁ d₂) : Hands n a d d₂ where
  byName := by rw [spares.roster, hands.byName]
  byHandle := by rw [spares.roster, hands.byHandle]
  assignment m := by rw [spares.roster, hands.assignment]
  launched id := (spares.launched_iff id).trans (hands.launched id)
  pending id := (spares.pending_iff id).trans (hands.pending id)
  front := hands.front
  admitted := spares.admitted.trans hands.admitted

/-- A worker that is put to sleep is handed nothing. -/
theorem hands_putToSleep (d : Dispatcher σ) (n : String) : Hands n none d (d.putToSleep n) where
  byName := by simp [putToSleep, Roster.clearAssignment]
  byHandle := by simp [putToSleep, Roster.clearAssignment]
  assignment m := by
    rw [putToSleep, Roster.assignment?, Roster.assignments_markSleeping]
    exact Roster.assignment?_clearAssignment d.roster n m
  launched id := by simp [putToSleep]
  pending id := by simp [putToSleep]
  front id none := by cases none
  admitted := rfl

theorem hands_launch {d : Dispatcher σ} (sound : d.backlog.Sound) (n : String) {id : TaskId}
    {backlog : Backlog} (launched : d.backlog.launchNext? = some (id, backlog)) :
    Hands n (some id) d (d.launch n id backlog) := by
  have stages := Backlog.stage?_launchNext? launched
  have front : d.backlog.stage? id = some .pending :=
    (sound.mem_pending id).mp (Backlog.launchNext?_eq_some launched ▸ List.mem_cons_self)
  refine ⟨rfl, rfl, fun m => Roster.assignment?_assign .., ?_, ?_, ?_,
    rfl⟩
  · intro j
    simp only [launch, stages, Option.some.injEq]
    by_cases here : j = id <;> simp [here, Ne.symm]
  · intro j
    simp only [launch, stages, Option.some.injEq, ne_eq]
    by_cases here : j = id <;> simp [here, Ne.symm]
  · intro j here
    cases here
    exact front

/-- A worker whose task is put back in front of the pending ones right away is handed nothing. -/
theorem hands_miss {d : Dispatcher σ} (sound : d.backlog.Sound) (n : String) {id : TaskId}
    {launched backlog : Backlog} (launch : d.backlog.launchNext? = some (id, launched))
    (back : launched.restoreFront? id = some backlog) :
    Hands n none d (putToSleep { d.launch n id launched with backlog } n) := by
  have away := hands_launch sound n launch
  have sleep := hands_putToSleep { d.launch n id launched with backlog } n
  obtain ⟨_, same, -, restored⟩ := Backlog.undo_launchNext? launch
  obtain rfl : backlog = _ := Option.some.inj (back.symm.trans same)
  have stages := restored sound
  refine ⟨sleep.byName.trans away.byName, sleep.byHandle.trans away.byHandle, fun m => ?_,
    fun j => ?_, fun j => ?_, nofun, sleep.admitted.trans away.admitted⟩
  · rw [sleep.assignment]
    by_cases here : m = n
    · rw [if_pos here, if_pos here]
    · rw [if_neg here, if_neg here]
      exact (away.assignment m).trans (if_neg here)
  · rw [sleep.launched, stages]
  · rw [sleep.pending, stages]

/-- **What a worker is handed.** A worker that asks for work is registered, and then handed the task
that it is answered with. -/
theorem hands_dispatch (faithful : c.Faithful) (d : Dispatcher σ) (h : Handle)
    (sound : (d.register c h).backlog.Sound) :
    Hands h.name (d.dispatch c h).1.taskId? (d.register c h) (d.dispatch c h).2 := by
  have hand := hand_dispatch c d h
  generalize d.register c h = d, (d.dispatch c h).1 = a, (d.dispatch c h).2 = d' at hand sound ⊢
  cases hand with
  | idle => exact hands_putToSleep d h.name
  | @task id backlog t launched fetched =>
    have own : t.id = id := faithful id _ t fetched
    have fetch := Spares.send (d.launch h.name id backlog) (.fetch id) (c.fetch id)
    have hand := (hands_launch sound h.name launched).trans_spares
      (fetch.trans (.send _ (.stage id) (c.stage id)))
    simpa [Assignment.taskId?, Assignment.task?, own] using hand
  | @miss id launched backlog _ launch _ back =>
    have missed := hands_miss sound h.name launch back
    refine missed.trans_spares ⟨rfl, fun _ => .inl rfl, ?_, rfl⟩
    exact (Journal.admitted_concat _ _).trans (List.append_nil _)

end Dispatcher

end WorkFarm
