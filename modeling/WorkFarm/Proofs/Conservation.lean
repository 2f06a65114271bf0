import WorkFarm.Proofs.Agreement
/-!
# What comes in goes out

A submission that is accepted owes a result until one is accepted for it, and a result that is accepted
is held or available until it is delivered. So the numbers of what comes in and of what goes out differ
by what is there (`Books.Conserved`). Balance, which says so of each single id, has its own module; here
ids are not told apart, and what is counted are the debts and the results of the outbox.

Nothing overtakes a result that is available. The results that were delivered, followed by those that
are available, are one list that only ever grows at its end (`Books.outgoing`). While nothing is
delivered, this is to say that what is available stays available.

## Main statements

* `conserved_moves` — debts and results are conserved by every run
* `outgoing_changes` — what is delivered or available keeps its place
-/

namespace WorkFarm

universe u

namespace Books

/-- What was admitted is owed or accepted, and what was accepted is there or delivered. -/
structure Conserved (b : Books) : Prop where
  admitted : b.outbox.outstanding.length + b.accepted.length = b.admitted.length
  accepted : b.outbox.results.length + b.delivered.length = b.accepted.length

/-- The results that were delivered, and those that will be next. -/
def outgoing (b : Books) : List TaskResult := b.delivered ++ b.outbox.available

variable {brings : TaskResult → Prop} {b b' : Books}

theorem conserved_submit (agree : b.Agree) (conserved : b.Conserved) {id : TaskId}
    {backlog : Backlog} (h : b.backlog.enqueue? id = some backlog) :
    Conserved { b with
      backlog, outbox := b.outbox.addPending id, admitted := b.admitted ++ [id] } := by
  have absent : id ∉ b.outbox.outstanding := by
    simp [agree.mem_outstanding, Backlog.Owes, (Backlog.enqueue?_eq_some h).1]
  have outstanding : (b.outbox.addPending id).outstanding = b.outbox.outstanding ++ [id] := by
    simp [Outbox.addPending, absent]
  have admitted := conserved.admitted
  refine ⟨?_, ?_⟩
  · simp only [outstanding, List.length_append, List.length_singleton]
    omega
  · simp only [Outbox.results_addPending]
    exact conserved.accepted

theorem conserved_complete (agree : b.Agree) (conserved : b.Conserved) {r : TaskResult}
    {backlog : Backlog} (h : b.backlog.complete? r.id = some backlog) :
    Conserved { b with
      backlog, outbox := b.outbox.addCompleted r, accepted := b.accepted ++ [r] } := by
  have launched := (Backlog.complete?_eq_some h).1
  have owed : r.id ∈ b.outbox.outstanding := (agree.mem_outstanding r.id).mpr (.inr launched)
  obtain ⟨outstanding, results, -⟩ :=
    Outbox.addCompleted_spec b.outbox r (agree.held_eq_none launched)
  obtain ⟨admitted, accepted⟩ := conserved
  have positive := List.length_pos_of_mem owed
  have erased := List.length_erase_of_mem owed
  have count := results.length_eq
  rw [List.length_cons] at count
  refine ⟨?_, ?_⟩
  · simp only [outstanding, List.length_append, List.length_singleton]
    omega
  · simp only [List.length_append, List.length_singleton]
    omega

/-- **Every change conserves debts and results**, unless it stops the dispatcher. -/
theorem conserved_change (change : Change brings b b') (agree : b.Agree)
    (conserved : b.closed = false → b.Conserved) (running : b'.closed = false) :
    b'.Conserved := by
  cases change with
  | submit h => exact conserved_submit agree (conserved running) h
  | launch _ | requeue _ | putBack _ =>
    obtain ⟨admitted, accepted⟩ := conserved running
    exact ⟨admitted, accepted⟩
  | complete h _ => exact conserved_complete agree (conserved running) h
  | reorder order =>
    have group := Outbox.regroups_setOrder b.outbox order
    obtain ⟨admitted, accepted⟩ := conserved running
    rw [← group.outstanding] at admitted
    rw [← group.results.length_eq] at accepted
    exact ⟨admitted, accepted⟩
  | deliver k =>
    have split := (b.outbox.results_takeFirst k).length_eq
    obtain ⟨admitted, accepted⟩ := conserved running
    rw [List.length_append] at split
    refine ⟨admitted, ?_⟩
    simp only [List.length_append]
    omega
  | close => cases running

/-- Any changes conserve debts and results, unless one of them stops the dispatcher. -/
theorem conserved_changes (changes : Changes brings b b') (agree : b.Agree)
    (conserved : b.closed = false → b.Conserved) :
    b'.Agree ∧ (b'.closed = false → b'.Conserved) :=
  changes.preserve (P := fun b => b.Agree ∧ (b.closed = false → b.Conserved))
    (fun change h => ⟨agree_change change h.1, conserved_change change h.1 h.2⟩)
    ⟨agree, conserved⟩

theorem outgoing_change (change : Change brings b b') (running : b'.closed = false) :
    b.outgoing <+: b'.outgoing := by
  cases change with
  | submit _ =>
    simp only [outgoing, Outbox.available_addPending]
    exact List.prefix_rfl
  | launch _ | requeue _ | putBack _ => exact List.prefix_rfl
  | complete _ _ =>
    exact (List.prefix_append_right_inj _).mpr (Outbox.available_prefix_addCompleted _ _)
  | reorder order => exact (List.prefix_append_right_inj _).mpr (Outbox.available_prefix_setOrder _ _)
  | deliver k => simp [outgoing, Outbox.takeFirst]
  | close => cases running

/-- **What is delivered or available keeps its place**, as long as the dispatcher runs. -/
theorem outgoing_changes (changes : Changes brings b b') (running : b'.closed = false) :
    b.outgoing <+: b'.outgoing := by
  induction changes with
  | refl => exact List.prefix_rfl
  | tail _ last ih =>
    have before := Changes.running (.single last) running
    exact (ih before).trans (outgoing_change last running)

end Books

namespace Dispatcher

variable {σ : Type u} (c : Collaborators σ)

/-- Debts and results are conserved by every run, as long as the dispatcher has not stopped. -/
theorem conserved_moves (order : DeliveryOrder) (world : σ) (ms : List (Move σ))
    (running : ((start order world).moves c ms).closed = false) :
    ((start order world).moves c ms).books.Conserved :=
  (Books.conserved_changes (changes_any c (start order world) ms) (Books.agree_start order)
    fun _ => ⟨rfl, rfl⟩).2 running

end Dispatcher

end WorkFarm
