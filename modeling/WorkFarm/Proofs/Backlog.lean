import Mathlib.Data.List.Nodup
import WorkFarm.Backlog
/-!
# The pending ids of a backlog

A backlog keeps the pending ids twice: in the order in which they are handed out, and by their stage.
Nothing in the operations checks one against the other. `Backlog.Sound` says that the two agree, and
every operation preserves it. For `launchNext?` this needs that the list has no duplicates: the id that
is taken from the front must not stand in it once more.

## Main definitions

* `Backlog.Sound` — the list of pending ids has each of them once, and nothing else
* `Backlog.forgetAll` — the ids of delivered results, forgotten one after another

## Main statements

* `Backlog.undo_launchNext?` — an id that was launched can go back to where it was
-/

namespace WorkFarm

namespace Backlog

/-- The list of pending ids has each pending id once, and nothing else. -/
structure Sound (b : Backlog) : Prop where
  nodup : b.pending.Nodup
  mem_pending : ∀ id, id ∈ b.pending ↔ b.stage? id = some .pending

variable {b b' : Backlog} {id : TaskId}

@[simp] theorem stage?_empty (id : TaskId) : ({} : Backlog).stage? id = none := rfl

theorem knows_iff (b : Backlog) (id : TaskId) : b.knows id = true ↔ b.stage? id ≠ none := by
  rw [knows, Table.contains, stage?, Option.isSome_iff_ne_none]

/-! ### What each operation does to the pending ids -/

theorem enqueue?_eq_some (h : b.enqueue? id = some b') :
    b.stage? id = none ∧ b'.pending = b.pending ++ [id] := by
  refine ⟨(isSome_enqueue? b id).mp (by simp [h]), ?_⟩
  unfold enqueue? at h
  split at h <;> cases h
  rfl

theorem launchNext?_eq_some (h : b.launchNext? = some (id, b')) : b.pending = id :: b'.pending := by
  unfold launchNext? at h
  split at h <;> cases h
  assumption

theorem complete?_eq_some (h : b.complete? id = some b') :
    b.stage? id = some .launched ∧ b'.pending = b.pending := by
  refine ⟨(isSome_complete? b id).mp (by simp [h]), ?_⟩
  unfold complete? at h
  split at h <;> cases h
  rfl

theorem requeue?_eq_some (h : b.requeue? id = some b') :
    b.stage? id = some .launched ∧ b'.pending = b.pending ++ [id] := by
  refine ⟨(isSome_requeue? b id).mp (by simp [h]), ?_⟩
  unfold requeue? at h
  split at h <;> cases h
  rfl

theorem restoreFront?_eq_some (h : b.restoreFront? id = some b') :
    b.stage? id = some .launched ∧ b'.pending = id :: b.pending := by
  unfold restoreFront? at h
  split at h
  · rename_i launched
    cases h
    exact ⟨by simpa [isLaunched] using launched, rfl⟩
  · cases h

/-- Forgets the ids of results, as far as they are completed. -/
def forgetAll (b : Backlog) (rs : List TaskResult) : Backlog :=
  rs.foldl (fun b r => b.forgetCompleted r.id) b

theorem pending_forgetCompleted (b : Backlog) (id : TaskId) :
    (b.forgetCompleted id).pending = b.pending := by
  unfold forgetCompleted
  split <;> rfl

theorem pending_forgetAll (b : Backlog) (rs : List TaskResult) :
    (b.forgetAll rs).pending = b.pending := by
  induction rs generalizing b with
  | nil => rfl
  | cons r rs ih => exact (ih _).trans (pending_forgetCompleted b r.id)

theorem stage?_forgetAll (b : Backlog) (rs : List TaskResult) (j : TaskId) :
    (b.forgetAll rs).stage? j =
      if j ∈ rs.map TaskResult.id ∧ b.stage? j = some .completed then none else b.stage? j := by
  induction rs generalizing b with
  | nil => simp [forgetAll]
  | cons r rs ih =>
    have step := ih (b.forgetCompleted r.id)
    rw [stage?_forgetCompleted] at step
    rw [forgetAll, List.foldl_cons, ← forgetAll, step]
    simp only [List.map_cons, List.mem_cons]
    by_cases here : j = r.id
    · subst here
      by_cases completed : b.stage? r.id = some .completed <;> simp [completed]
    · simp [here]

/-- An id that was launched can go back, and then the pending ids and all stages are as they were. -/
theorem undo_launchNext? {launched : Backlog} (launch : b.launchNext? = some (id, launched)) :
    ∃ backlog, launched.restoreFront? id = some backlog ∧ backlog.pending = b.pending ∧
      (b.Sound → ∀ j, backlog.stage? j = b.stage? j) := by
  have stages := stage?_launchNext? launch
  cases back : launched.restoreFront? id with
  | none => simp [restoreFront?, isLaunched, stages] at back
  | some backlog =>
    obtain ⟨-, pending⟩ := restoreFront?_eq_some back
    refine ⟨backlog, rfl, pending.trans (launchNext?_eq_some launch).symm, ?_⟩
    intro sound j
    rw [stage?_restoreFront? back, stages]
    by_cases here : j = id
    · rw [if_pos here, here]
      exact ((sound.mem_pending id).mp (launchNext?_eq_some launch ▸ List.mem_cons_self)).symm
    · rw [if_neg here, if_neg here]

/-! ### Soundness is preserved -/

namespace Sound

theorem empty : Sound {} :=
  ⟨List.nodup_nil, fun _ => ⟨fun mem => absurd mem List.not_mem_nil, fun stage => by cases stage⟩⟩

/-- An id that was not pending becomes pending, at either end of the list. -/
theorem of_insert (sound : b.Sound) (stage : b.stage? id ≠ some .pending)
    (perm : b'.pending.Perm (id :: b.pending))
    (stages : ∀ j, b'.stage? j = if j = id then some .pending else b.stage? j) : b'.Sound := by
  have absent : id ∉ b.pending := fun mem => stage ((sound.mem_pending id).mp mem)
  refine ⟨perm.nodup_iff.mpr (List.nodup_cons.mpr ⟨absent, sound.nodup⟩), ?_⟩
  intro j
  rw [perm.mem_iff, List.mem_cons, stages, sound.mem_pending]
  by_cases here : j = id <;> simp [here]

/-- Stages other than pending may change. -/
theorem of_stages (sound : b.Sound) (same : b'.pending = b.pending)
    (stages : ∀ j, b'.stage? j = some .pending ↔ b.stage? j = some .pending) : b'.Sound :=
  ⟨same ▸ sound.nodup, fun j => by rw [same, sound.mem_pending, stages]⟩

theorem enqueue? (sound : b.Sound) (h : b.enqueue? id = some b') : b'.Sound := by
  obtain ⟨new, pending⟩ := enqueue?_eq_some h
  refine sound.of_insert (by simp [new]) ?_ (stage?_enqueue? h)
  exact pending ▸ List.perm_append_singleton id _

theorem requeue? (sound : b.Sound) (h : b.requeue? id = some b') : b'.Sound := by
  obtain ⟨launched, pending⟩ := requeue?_eq_some h
  refine sound.of_insert (by simp [launched]) ?_ (stage?_requeue? h)
  exact pending ▸ List.perm_append_singleton id _

theorem restoreFront? (sound : b.Sound) (h : b.restoreFront? id = some b') : b'.Sound := by
  obtain ⟨launched, pending⟩ := restoreFront?_eq_some h
  exact sound.of_insert (by simp [launched]) (pending ▸ .refl _) (stage?_restoreFront? h)

theorem launchNext? (sound : b.Sound) (h : b.launchNext? = some (id, b')) : b'.Sound := by
  have pending := launchNext?_eq_some h
  have nodup := sound.nodup
  -- the id that is taken from the front must not stand further back once more
  rw [pending, List.nodup_cons] at nodup
  refine ⟨nodup.2, ?_⟩
  intro j
  rw [stage?_launchNext? h]
  by_cases here : j = id
  · subst here
    simp [nodup.1]
  · rw [if_neg here, ← sound.mem_pending, pending, List.mem_cons, or_iff_right here]

theorem complete? (sound : b.Sound) (h : b.complete? id = some b') : b'.Sound := by
  obtain ⟨launched, pending⟩ := complete?_eq_some h
  refine sound.of_stages pending ?_
  intro j
  rw [stage?_complete? h]
  by_cases here : j = id
  · simp [here, launched]
  · rw [if_neg here]

theorem forgetAll (sound : b.Sound) (rs : List TaskResult) : (b.forgetAll rs).Sound := by
  refine sound.of_stages (pending_forgetAll b rs) ?_
  intro j
  rw [stage?_forgetAll]
  split
  · rename_i h
    simp [h.2]
  · rfl

end Sound

end Backlog

end WorkFarm
