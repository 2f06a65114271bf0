import WorkFarm.Proofs.Books
/-!
# The backlog and the outbox agree

A dispatcher keeps track of a task in two places. The backlog knows its stage, and the outbox knows
whether its result is owed, held or available. They are written by different operations, in different
orders, and neither looks into the other. `Books.Agree` says what they have in common: an id owes a
result as long as it is pending or launched, and has one from its completion until it is forgotten.

Each change of the books touches both of them in a way that keeps them in agreement (`agree_change`).
Three changes move an id between pending and launched and leave the outbox alone; a new order of
delivery regroups the results and leaves the backlog alone. The other ones act on both.

The consequence that the rest of the dispatcher relies on is a count: the results owed and the results
ready are together as many as the ids that are known, so a wait for that many can be satisfied.

## Main statements

* `agree_moves` — the books agree after every run
* `queues_agree` — what this means for the lists and tables of a dispatcher
-/

namespace WorkFarm

universe u

/-- Whether a task owes a result: it has been submitted, and not completed. -/
def Backlog.Owes (b : Backlog) (id : TaskId) : Prop :=
  b.stage? id = some .pending ∨ b.stage? id = some .launched

namespace Books

/-- The backlog and the outbox agree on which tasks there are, and on where each of them stands. -/
structure Agree (b : Books) : Prop where
  /-- The pending ids are listed once each. -/
  sound : b.backlog.Sound
  nodup_outstanding : b.outbox.outstanding.Nodup
  /-- The outbox is owed what is pending or launched. -/
  mem_outstanding : ∀ id, id ∈ b.outbox.outstanding ↔ b.backlog.Owes id
  nodup_results : (b.outbox.results.map TaskResult.id).Nodup
  /-- The outbox has the results of what is completed. -/
  mem_results : ∀ id, id ∈ b.outbox.results.map TaskResult.id ↔
    b.backlog.stage? id = some .completed
  keyed : b.outbox.Keyed

namespace Agree

variable {b : Books} {backlog : Backlog} {outbox : Outbox}

/-- Ids may move between pending and launched. -/
theorem of_owes (agree : b.Agree) (sound : backlog.Sound)
    (owes : ∀ id, backlog.Owes id ↔ b.backlog.Owes id)
    (completed : ∀ id, backlog.stage? id = some .completed ↔ b.backlog.stage? id = some .completed) :
    Agree { b with backlog } where
  sound := sound
  nodup_outstanding := agree.nodup_outstanding
  mem_outstanding id := (agree.mem_outstanding id).trans (owes id).symm
  nodup_results := agree.nodup_results
  mem_results id := (agree.mem_results id).trans (completed id).symm
  keyed := agree.keyed

/-- An id that is pending or launched may become the other of the two. -/
theorem of_stage (agree : b.Agree) (sound : backlog.Sound) {id : TaskId} {s : Stage}
    (owed : b.backlog.Owes id) (stage : s = .pending ∨ s = .launched)
    (stages : ∀ j, backlog.stage? j = if j = id then some s else b.backlog.stage? j) :
    Agree { b with backlog } := by
  refine agree.of_owes sound (fun j => ?_) (fun j => ?_)
  · by_cases here : j = id
    · subst here
      simp only [Backlog.Owes, stages, if_true, Option.some.injEq]
      exact iff_of_true stage owed
    · simp only [Backlog.Owes, stages, if_neg here]
  · by_cases here : j = id
    · subst here
      rw [stages, if_pos rfl]
      rcases stage with rfl | rfl <;> rcases owed with owed | owed <;> simp [owed]
    · rw [stages, if_neg here]

/-- Results may be grouped in another way. -/
theorem of_regroups (agree : b.Agree) (group : b.outbox.Regroups outbox) :
    Agree { b with outbox } where
  sound := agree.sound
  nodup_outstanding := by
    rw [group.outstanding]
    exact agree.nodup_outstanding
  mem_outstanding id := by
    rw [group.outstanding]
    exact agree.mem_outstanding id
  nodup_results := (group.results.map _).nodup_iff.mpr agree.nodup_results
  mem_results id := (group.results.map _).mem_iff.trans (agree.mem_results id)
  keyed := group.keyed agree.keyed

/-- No result is held for an id that is not completed. -/
theorem held_eq_none_of_ne (agree : b.Agree) {id : TaskId}
    (incomplete : b.backlog.stage? id ≠ some .completed) : b.outbox.held.get? id = none := by
  cases held : b.outbox.held.get? id with
  | none => rfl
  | some r =>
    have mem : id ∈ b.outbox.results.map TaskResult.id := by
      have value : r ∈ b.outbox.held.values := (Table.mem_values_iff _).mpr ⟨id, held⟩
      rw [← agree.keyed id r held]
      exact List.mem_map_of_mem (List.mem_append_left _ value)
    exact absurd ((agree.mem_results id).mp mem) incomplete

/-- No result is held for an id that still owes one. -/
theorem held_eq_none (agree : b.Agree) {id : TaskId}
    (launched : b.backlog.stage? id = some .launched) : b.outbox.held.get? id = none :=
  agree.held_eq_none_of_ne (by simp [launched])

end Agree

theorem agree_submit {b : Books} (agree : b.Agree) {id : TaskId} {backlog : Backlog}
    (h : b.backlog.enqueue? id = some backlog) (admitted : List TaskId) :
    Agree { b with backlog, outbox := b.outbox.addPending id, admitted } := by
  obtain ⟨new, -⟩ := Backlog.enqueue?_eq_some h
  have stages := Backlog.stage?_enqueue? h
  -- nothing is owed for a new id, so the outbox takes it in
  have absent : id ∉ b.outbox.outstanding := by
    simp [agree.mem_outstanding, Backlog.Owes, new]
  have outbox : b.outbox.addPending id = { b.outbox with
      outstanding := b.outbox.outstanding ++ [id]
      submitted := b.outbox.submitted ++ [id] } := by
    simp [Outbox.addPending, absent]
  rw [outbox]
  refine ⟨agree.sound.enqueue? h, ?_, ?_, agree.nodup_results, ?_, agree.keyed⟩
  · exact List.nodup_append.mpr ⟨agree.nodup_outstanding, List.nodup_singleton id,
      fun j mem k here eq => absent (List.mem_singleton.mp here ▸ eq ▸ mem)⟩
  · intro j
    rw [List.mem_append, List.mem_singleton, agree.mem_outstanding]
    by_cases here : j = id
    · simp [here, Backlog.Owes, stages]
    · simp [here, Backlog.Owes, stages]
  · intro j
    refine (agree.mem_results j).trans ?_
    by_cases here : j = id
    · simp [here, stages, new]
    · rw [stages, if_neg here]

theorem agree_complete {b : Books} (agree : b.Agree) {r : TaskResult} {backlog : Backlog}
    (h : b.backlog.complete? r.id = some backlog) (accepted : List TaskResult) :
    Agree { b with backlog, outbox := b.outbox.addCompleted r, accepted } := by
  obtain ⟨launched, -⟩ := Backlog.complete?_eq_some h
  have stages := Backlog.stage?_complete? h
  obtain ⟨outstanding, results, keyed⟩ :=
    b.outbox.addCompleted_spec r (agree.held_eq_none launched)
  have absent : r.id ∉ b.outbox.results.map TaskResult.id := by
    simp [agree.mem_results, launched]
  refine ⟨agree.sound.complete? h, ?_, ?_, ?_, ?_, keyed agree.keyed⟩
  · rw [outstanding]
    exact agree.nodup_outstanding.erase r.id
  · intro j
    rw [outstanding, agree.nodup_outstanding.mem_erase_iff, agree.mem_outstanding]
    by_cases here : j = r.id
    · simp [here, Backlog.Owes, stages]
    · simp [here, Backlog.Owes, stages]
  · exact (results.map _).nodup_iff.mpr (List.nodup_cons.mpr ⟨absent, agree.nodup_results⟩)
  · intro j
    rw [(results.map _).mem_iff, List.map_cons, List.mem_cons, agree.mem_results, stages]
    by_cases here : j = r.id <;> simp [here]

theorem agree_deliver {b : Books} (agree : b.Agree) (k : Nat) (delivered : List TaskResult) :
    Agree { b with
      backlog := b.backlog.forgetAll (b.outbox.takeFirst k).1
      outbox := (b.outbox.takeFirst k).2
      delivered } := by
  have results := (b.outbox.results_takeFirst k).map TaskResult.id
  rw [List.map_append] at results
  have nodup := results.nodup_iff.mp agree.nodup_results
  rw [List.nodup_append] at nodup
  obtain ⟨-, rest, disjoint⟩ := nodup
  -- a completed id has its result either among those that are taken or among those that stay
  have split : ∀ j, b.backlog.stage? j = some .completed ↔
      j ∈ (b.outbox.takeFirst k).1.map TaskResult.id ∨
        j ∈ (b.outbox.takeFirst k).2.results.map TaskResult.id := fun j => by
    rw [← agree.mem_results, results.mem_iff, List.mem_append]
  refine ⟨agree.sound.forgetAll _, agree.nodup_outstanding, ?_, rest, ?_,
    agree.keyed⟩
  · intro j
    refine (agree.mem_outstanding j).trans ?_
    simp only [Backlog.Owes, Backlog.stage?_forgetAll]
    split
    · rename_i h
      simp [h.2]
    · rfl
  · intro j
    rw [Backlog.stage?_forgetAll]
    by_cases taken : j ∈ (b.outbox.takeFirst k).1.map TaskResult.id
    · have gone : j ∉ (b.outbox.takeFirst k).2.results.map TaskResult.id :=
        fun mem => disjoint j taken j mem rfl
      have completed := (split j).mpr (.inl taken)
      simp [taken, completed, gone]
    · simp [taken, split j]

/-- **Every change keeps the books in agreement.** -/
theorem agree_change {brings : TaskResult → Prop} {b b' : Books} (change : Change brings b b')
    (agree : b.Agree) : b'.Agree := by
  cases change with
  | submit h => exact agree_submit agree h _
  | launch h =>
    -- the id at the front is pending, and so owes a result before and after
    have front : b.backlog.Owes _ :=
      .inl ((agree.sound.mem_pending _).mp (Backlog.launchNext?_eq_some h ▸ List.mem_cons_self))
    exact agree.of_stage (agree.sound.launchNext? h) front (.inr rfl) (Backlog.stage?_launchNext? h)
  | requeue h =>
    exact agree.of_stage (agree.sound.requeue? h) (.inr (Backlog.requeue?_eq_some h).1) (.inl rfl)
      (Backlog.stage?_requeue? h)
  | putBack h =>
    exact agree.of_stage (agree.sound.restoreFront? h) (.inr (Backlog.restoreFront?_eq_some h).1)
      (.inl rfl) (Backlog.stage?_restoreFront? h)
  | complete h _ => exact agree_complete agree h _
  | reorder order => exact agree.of_regroups (Outbox.regroups_setOrder _ order)
  | deliver k => exact agree_deliver agree k _
  | close =>
    refine ⟨.empty, List.nodup_nil, ?_, List.nodup_nil, ?_, ?_⟩
    · intro j
      simp [Outbox.clear, Backlog.Owes]
    · intro j
      simp [Outbox.clear, Outbox.results]
    · intro k r held
      cases held

theorem agree_start (order : DeliveryOrder) :
    Agree ⟨{}, { order }, false, [], [], []⟩ where
  sound := .empty
  nodup_outstanding := List.nodup_nil
  mem_outstanding id := by simp [Backlog.Owes]
  nodup_results := List.nodup_nil
  mem_results id := by simp [Outbox.results]
  keyed := fun k r held => by cases held

namespace Agree

variable {b : Books}

theorem knows_iff (agree : b.Agree) (id : TaskId) :
    b.backlog.stage? id ≠ none ↔
      id ∈ b.outbox.outstanding ++ b.outbox.results.map TaskResult.id := by
  rw [List.mem_append, agree.mem_outstanding, agree.mem_results, Backlog.Owes]
  rcases b.backlog.stage? id with _ | (_ | _ | _) <;> simp

/-- As many results are owed or ready as ids are known. -/
theorem length_add_length (agree : b.Agree) :
    b.outbox.outstanding.length + b.outbox.results.length = b.backlog.stages.size := by
  have disjoint : (b.outbox.outstanding ++ b.outbox.results.map TaskResult.id).Nodup := by
    refine List.nodup_append.mpr ⟨agree.nodup_outstanding, agree.nodup_results, ?_⟩
    intro j owed k ready eq
    subst eq
    rw [agree.mem_results] at ready
    rw [agree.mem_outstanding, Backlog.Owes, ready] at owed
    rcases owed with owed | owed <;> cases owed
  have perm : b.backlog.stages.keys.Perm
      (b.outbox.outstanding ++ b.outbox.results.map TaskResult.id) := by
    refine (List.perm_ext_iff_of_nodup b.backlog.stages.nodup disjoint).mpr ?_
    intro id
    rw [← agree.knows_iff, ← Option.isSome_iff_ne_none]
    exact Table.mem_keys_iff _ id
  have length := perm.length_eq
  rw [List.length_append, List.length_map] at length
  rw [Table.size_eq_length_keys, length]

end Agree

end Books

namespace Dispatcher

variable {σ : Type u} (c : Collaborators σ)

/-- **The books agree after every run.** -/
theorem agree_moves (order : DeliveryOrder) (world : σ) (ms : List (Move σ)) :
    ((start order world).moves c ms).books.Agree :=
  books_moves_start c Books.agree_change order world (Books.agree_start order) ms

/-- **The queues agree.** After every run the list of pending ids has no duplicates and holds the ids
whose stage is pending; a result is owed for the ids that are pending or launched; the results that are
held or available have different ids, which are those that are completed. So the results that are owed,
held or available are as many as the ids that are known, and there is nothing to deliver or to come
just in case no id is known. -/
theorem queues_agree (order : DeliveryOrder) (world : σ) (ms : List (Move σ)) :
    let d := (start order world).moves c ms
    d.backlog.pending.Nodup ∧
      (∀ id, id ∈ d.backlog.pending ↔ d.backlog.stage? id = some .pending) ∧
      d.outbox.outstanding.Nodup ∧
      (∀ id, id ∈ d.outbox.outstanding ↔
        d.backlog.stage? id = some .pending ∨ d.backlog.stage? id = some .launched) ∧
      (∀ id r, d.outbox.held.get? id = some r → r.id = id) ∧
      ((d.outbox.held.values ++ d.outbox.available).map TaskResult.id).Nodup ∧
      (∀ id, id ∈ (d.outbox.held.values ++ d.outbox.available).map TaskResult.id ↔
        d.backlog.stage? id = some .completed) ∧
      d.outbox.countPending + d.outbox.countAvailable = d.backlog.stages.size ∧
      (d.outbox.isEmpty = true ↔ ∀ id, d.backlog.stage? id = none) := by
  intro d
  have agree : d.books.Agree := agree_moves c order world ms
  have size : d.outbox.outstanding.length + d.outbox.results.length = d.backlog.stages.size :=
    agree.length_add_length
  refine ⟨agree.sound.nodup, agree.sound.mem_pending, agree.nodup_outstanding,
    agree.mem_outstanding, agree.keyed, agree.nodup_results, agree.mem_results, ?_, ?_⟩
  · rw [Outbox.countPending_add_countAvailable, size]
  · rw [Outbox.isEmpty_iff, size]
    exact Table.size_eq_zero_iff _

end Dispatcher

end WorkFarm
