import WorkFarm.Dispatcher.Storage
import WorkFarm.Proofs.Agreement
/-!
# Every submission is delivered once

A submission that was accepted is either still known to the backlog, or its result was delivered to a
client, and never both. An id may be submitted again once its result was delivered, so the statement is
a count: for each id, the accepted submissions are as many as the delivered results, and one more if the
id is known.

The count is an invariant of the books as long as the dispatcher runs (`balanced_change`). Two changes
move it. A submission adds one on the left and makes the id known. A delivery adds one on the right for
every result and makes its id unknown; here it matters that the books agree, for otherwise one id could
be delivered twice by one answer, or be delivered without being forgotten.
-/

namespace WorkFarm

universe u

namespace Books

/-- For each id, the submissions that were accepted are as many as the results that were delivered, and
one more if the id is known. -/
def Balanced (b : Books) : Prop :=
  ∀ id, b.admitted.count id =
    (b.delivered.map TaskResult.id).count id + if b.backlog.knows id then 1 else 0

/-- The balance does not depend on the stages of the known ids. -/
theorem Balanced.of_knows {b : Books} (balanced : b.Balanced) {backlog : Backlog}
    (knows : ∀ id, backlog.stage? id = none ↔ b.backlog.stage? id = none) (outbox : Outbox)
    (accepted : List TaskResult) : Balanced { b with backlog, outbox, accepted } := by
  intro id
  have same : backlog.knows id = b.backlog.knows id := by
    rw [Bool.eq_iff_iff, Backlog.knows_iff, Backlog.knows_iff, ne_eq, ne_eq, knows]
  simpa only [same] using balanced id

/-- A known id that comes to another stage is known, as before. -/
theorem Balanced.of_stage {b : Books} (balanced : b.Balanced) {backlog : Backlog} {id : TaskId}
    {s : Stage} (known : b.backlog.stage? id ≠ none)
    (stages : ∀ j, backlog.stage? j = if j = id then some s else b.backlog.stage? j)
    (outbox : Outbox) (accepted : List TaskResult) :
    Balanced { b with backlog, outbox, accepted } := by
  refine balanced.of_knows (fun j => ?_) outbox accepted
  rw [stages]
  by_cases here : j = id
  · simp [here, known]
  · rw [if_neg here]

theorem balanced_submit {b : Books} (balanced : b.Balanced) {id : TaskId} {backlog : Backlog}
    (h : b.backlog.enqueue? id = some backlog) (outbox : Outbox) :
    Balanced { b with backlog, outbox, admitted := b.admitted ++ [id] } := by
  obtain ⟨new, -⟩ := Backlog.enqueue?_eq_some h
  have stages := Backlog.stage?_enqueue? h
  intro j
  have before := balanced j
  simp only [List.count_append, Backlog.knows_iff, stages] at before ⊢
  by_cases here : j = id
  · subst here
    rw [if_neg (by simp [new])] at before
    simp [before]
  · have other : List.count j [id] = 0 := List.count_eq_zero.mpr (by simpa using here)
    simp [here, other, before]

theorem balanced_deliver {b : Books} (agree : b.Agree) (balanced : b.Balanced) (k : Nat) :
    Balanced { b with
      backlog := b.backlog.forgetAll (b.outbox.takeFirst k).1
      outbox := (b.outbox.takeFirst k).2
      delivered := b.delivered ++ (b.outbox.takeFirst k).1 } := by
  have results := (b.outbox.results_takeFirst k).map TaskResult.id
  rw [List.map_append] at results
  have nodup := (List.nodup_append.mp (results.nodup_iff.mp agree.nodup_results)).1
  intro j
  have before := balanced j
  simp only [List.map_append, List.count_append, Backlog.knows_iff, Backlog.stage?_forgetAll]
    at before ⊢
  by_cases taken : j ∈ (b.outbox.takeFirst k).1.map TaskResult.id
  -- the id was known before, and has one more delivery after
  · have completed : b.backlog.stage? j = some .completed := by
      rw [← agree.mem_results, results.mem_iff]
      exact List.mem_append_left _ taken
    rw [List.count_eq_one_of_mem nodup taken]
    simpa [taken, completed] using before
  · rw [List.count_eq_zero.mpr taken]
    simpa [taken] using before

/-- **Every change keeps the balance**, unless it stops the dispatcher. -/
theorem balanced_change {brings : TaskResult → Prop} {b b' : Books}
    (change : Change brings b b') (agree : b.Agree)
    (balanced : b.closed = false → b.Balanced) (running : b'.closed = false) : b'.Balanced := by
  cases change with
  | submit h => exact balanced_submit (balanced running) h _
  | launch h =>
    have front : b.backlog.stage? _ = some .pending :=
      (agree.sound.mem_pending _).mp (Backlog.launchNext?_eq_some h ▸ List.mem_cons_self)
    exact (balanced running).of_stage (by simp [front]) (Backlog.stage?_launchNext? h) _ _
  | requeue h =>
    exact (balanced running).of_stage (by simp [(Backlog.requeue?_eq_some h).1])
      (Backlog.stage?_requeue? h) _ _
  | putBack h =>
    exact (balanced running).of_stage (by simp [(Backlog.restoreFront?_eq_some h).1])
      (Backlog.stage?_restoreFront? h) _ _
  | complete h _ =>
    exact (balanced running).of_stage (by simp [(Backlog.complete?_eq_some h).1])
      (Backlog.stage?_complete? h) _ _
  | reorder order => exact balanced running
  | deliver k => exact balanced_deliver agree (balanced running) k
  | close => cases running

/-- Any changes keep the balance, unless one of them stops the dispatcher. -/
theorem Balanced.changes {brings : TaskResult → Prop} {b b' : Books} (balanced : b.Balanced)
    (agree : b.Agree) (changes : Changes brings b b') (running : b'.closed = false) : b'.Balanced := by
  have both := changes.preserve (P := fun b => b.Agree ∧ (b.closed = false → b.Balanced))
    (fun change h => ⟨agree_change change h.1, balanced_change change h.1 h.2⟩)
    ⟨agree, fun _ => balanced⟩
  exact both.2 running

/-- What is known was submitted. -/
theorem Balanced.mem_admitted {b : Books} (balanced : b.Balanced) {id : TaskId}
    (known : b.backlog.stage? id ≠ none) : id ∈ b.admitted := by
  have count := balanced id
  rw [if_pos ((Backlog.knows_iff _ _).mpr known)] at count
  exact List.count_pos_iff.mp (by omega)

/-- What was submitted and is not known was delivered. -/
theorem Balanced.mem_delivered {b : Books} (balanced : b.Balanced) {id : TaskId}
    (unknown : b.backlog.stage? id = none) (mem : id ∈ b.admitted) :
    id ∈ b.delivered.map TaskResult.id := by
  have count := balanced id
  rw [if_neg (by simp [Backlog.knows_iff, unknown])] at count
  have submitted := List.count_pos_iff.mpr mem
  exact List.count_pos_iff.mp (by omega)

end Books

namespace Dispatcher

variable {σ : Type u} (c : Collaborators σ)

theorem balanced_start (order : DeliveryOrder) (world : σ) : (start order world).books.Balanced :=
  fun _ => rfl

/-- The balance holds after every run, as long as the dispatcher has not stopped. -/
theorem balanced_moves (order : DeliveryOrder) (world : σ) (ms : List (Move σ))
    (running : ((start order world).moves c ms).closed = false) :
    ((start order world).moves c ms).books.Balanced :=
  (balanced_start order world).changes (Books.agree_start order) (changes_any c _ ms) running

/-- **Every submission is delivered once.** After every run of a dispatcher that has not stopped, the
accepted submissions of an id are as many as the results that were delivered for it, and one more if
the id is known. So no more results are delivered than submissions were accepted, and of an id that is
not known none is missing. -/
theorem count_admitted (order : DeliveryOrder) (world : σ) (ms : List (Move σ)) (id : TaskId)
    (running : ((start order world).moves c ms).closed = false) :
    let d := (start order world).moves c ms
    let admitted := (Journal.admitted d.journal).count id
    let delivered := ((Journal.delivered d.journal).map TaskResult.id).count id
    admitted = delivered + (if d.backlog.knows id then 1 else 0) ∧
      delivered ≤ admitted ∧ (d.backlog.stage? id = none → admitted = delivered) := by
  intro d admitted delivered
  have balance : admitted = delivered + if d.backlog.knows id then 1 else 0 :=
    balanced_moves c order world ms running id
  refine ⟨balance, by omega, ?_⟩
  intro unknown
  have forgotten : d.backlog.knows id = false := by
    rw [← Bool.not_eq_true, Backlog.knows_iff, not_not]
    exact unknown
  simpa [forgotten] using balance

/-- A task is submitted twice at once, run, delivered, and submitted again. -/
def returning : List (Move Vault) :=
  [.outside fun v => (v.store (.bool true)).2,
    .call {} ⟨0, .submit [⟨1⟩, ⟨1⟩]⟩,
    .call {} ⟨1, .requestTask ⟨0, "ann"⟩⟩,
    .call {} ⟨2, .handIn ⟨⟨1⟩, .ok (.bool true), "ann"⟩ ⟨0, "ann"⟩⟩,
    .call {} ⟨3, .wait .one⟩,
    .call {} ⟨4, .submit [⟨1⟩]⟩]

/-- Both accepted submissions count: one result was delivered, and the id is known. -/
theorem count_admitted_returning :
    let d := (start .completion {}).moves .ofVault returning
    d.closed = false ∧ Journal.admitted d.journal = [⟨1⟩, ⟨1⟩] ∧
      (Journal.admitted d.journal).count ⟨1⟩ =
        ((Journal.delivered d.journal).map TaskResult.id).count ⟨1⟩
          + (if d.backlog.knows ⟨1⟩ then 1 else 0) := by
  have running : ((start .completion {}).moves .ofVault returning).closed = false := by decide
  exact ⟨running, by decide, (count_admitted .ofVault .completion {} returning ⟨1⟩ running).1⟩

end Dispatcher

end WorkFarm
