import WorkFarm.Outbox
import WorkFarm.Proofs.Table
/-!
# The results in an outbox

An outbox has results in two places: those that are held and those that are available. Most of what it
does only moves results from the first place to the second, and most of what is said of it does not
tell the two apart. So `Outbox.results` lists both, and `Outbox.Regroups` says that an outbox differs
from another only in how its results are grouped: the walk from the front, the release of everything
that is held, the dropping of stale submissions and the change of the order all do no more than that.

## Main definitions

* `Outbox.results` — all results, held or available
* `Outbox.Regroups` — the same results and the same debts, grouped in another way
-/

namespace WorkFarm

namespace Outbox

/-- All results, held or available. -/
def results (o : Outbox) : List TaskResult := o.held.values ++ o.available

/-- Every result is held under its own id. -/
def Keyed (o : Outbox) : Prop := ∀ k r, o.held.get? k = some r → r.id = k

theorem countPending_add_countAvailable (o : Outbox) :
    o.countPending + o.countAvailable = o.outstanding.length + o.results.length := by
  simp [countPending, countAvailable, results, Table.size_eq_length_values, Nat.add_assoc]

theorem isEmpty_iff (o : Outbox) :
    o.isEmpty = true ↔ o.outstanding.length + o.results.length = 0 := by
  rw [← countPending_add_countAvailable]
  simp [isEmpty, isOneAvailable, countAvailable]

theorem results_addPending (o : Outbox) (id : TaskId) : (o.addPending id).results = o.results := by
  unfold addPending
  split <;> rfl

/-! ### Taking -/

theorem takeFirst_one_of_takeOne? {o o' : Outbox} {r : TaskResult} (h : o.takeOne? = some (r, o')) :
    o.takeFirst 1 = ([r], o') := by
  unfold takeOne? at h
  split at h
  · cases h
  · rename_i available
    cases h
    simp [takeFirst, available]

theorem takeAll_eq_takeFirst (o : Outbox) : o.takeAll = o.takeFirst o.available.length := by
  simp [takeAll, takeFirst]

/-- What is taken and what is left are all results that there were. -/
theorem results_takeFirst (o : Outbox) (k : Nat) :
    o.results.Perm ((o.takeFirst k).1 ++ (o.takeFirst k).2.results) := by
  have split : o.available = o.available.take k ++ o.available.drop k :=
    (List.take_append_drop k _).symm
  have swap : (o.held.values ++ (o.available.take k ++ o.available.drop k)).Perm
      (o.available.take k ++ (o.held.values ++ o.available.drop k)) := by
    rw [← List.append_assoc, ← List.append_assoc]
    exact List.perm_append_comm.append_right _
  rw [results, split]
  simpa [takeFirst, results] using swap

/-! ### Regrouping -/

/-- The same results and the same debts, but some results that were held may have become available. -/
structure Regroups (o o' : Outbox) : Prop where
  /-- The debts are the same. -/
  outstanding : o'.outstanding = o.outstanding
  /-- The results are the same. -/
  results : o'.results.Perm o.results
  /-- What is held was held before. -/
  held : ∀ k r, o'.held.get? k = some r → o.held.get? k = some r

namespace Regroups

variable {o o₁ o₂ : Outbox}

theorem refl (o : Outbox) : Regroups o o := ⟨rfl, .refl _, fun _ _ h => h⟩

theorem trans (h₁ : Regroups o o₁) (h₂ : Regroups o₁ o₂) : Regroups o o₂ :=
  ⟨h₂.outstanding.trans h₁.outstanding, h₂.results.trans h₁.results,
    fun k r h => h₁.held k r (h₂.held k r h)⟩

theorem keyed (h : Regroups o o₁) (keyed : o.Keyed) : o₁.Keyed :=
  fun k r mem => keyed k r (h.held k r mem)

/-- The list of submissions and the order may change at will. -/
theorem of_submitted (o : Outbox) (order : DeliveryOrder) (submitted : List TaskId) :
    Regroups o { o with order, submitted } :=
  ⟨rfl, .refl _, fun _ _ h => h⟩

/-- One held result becomes available. -/
theorem of_held {id : TaskId} {r : TaskResult} (h : o.held.get? id = some r) :
    Regroups o { o with held := o.held.erase id, available := o.available ++ [r] } where
  outstanding := rfl
  results := by
    have front := (Table.values_perm_cons_erase _ h).append_right o.available
    refine .trans ?_ front.symm
    simp only [Outbox.results, ← List.append_assoc, List.cons_append]
    exact List.perm_append_singleton r _
  held := fun k r' h' => by
    rw [Table.get?_erase] at h'
    split at h'
    · cases h'
    · exact h'

end Regroups

theorem regroups_releaseFrom (ids : List TaskId) (o : Outbox) : Regroups o (o.releaseFrom ids) := by
  induction ids generalizing o with
  | nil => exact .of_submitted o o.order []
  | cons id rest ih =>
    unfold releaseFrom
    split
    · rename_i r held
      exact (Regroups.of_held held).trans (ih _)
    · split
      · exact .of_submitted o o.order _
      · exact ih o

theorem regroups_releaseAllFrom (ids kept : List TaskId) (o : Outbox) :
    Regroups o (o.releaseAllFrom kept ids) := by
  induction ids generalizing o kept with
  | nil => exact .of_submitted o o.order kept
  | cons id rest ih =>
    unfold releaseAllFrom
    split
    · rename_i r held
      exact (Regroups.of_held held).trans (ih kept _)
    · exact ih _ o

theorem regroups_compact (o : Outbox) : Regroups o o.compact := by
  unfold compact
  split
  · exact .refl o
  · exact .of_submitted o o.order _

theorem regroups_setOrder (o : Outbox) (order : DeliveryOrder) : Regroups o (o.setOrder order) := by
  unfold setOrder
  split
  · exact .refl o
  · have change := Regroups.of_submitted o order o.submitted
    dsimp only
    split
    · exact change.trans (regroups_releaseAllFrom _ [] _)
    · exact change

/-- **Taking in a result.** The debt of its id is settled, and the result is there, wherever the order
of delivery puts it. -/
theorem addCompleted_spec (o : Outbox) (r : TaskResult) (new : o.held.get? r.id = none) :
    (o.addCompleted r).outstanding = o.outstanding.erase r.id ∧
      (o.addCompleted r).results.Perm (r :: o.results) ∧
      (o.Keyed → (o.addCompleted r).Keyed) := by
  set o' : Outbox := { o with outstanding := o.outstanding.erase r.id } with ho'
  cases order : o.order with
  | completion =>
    have group := regroups_compact { o' with available := o.available ++ [r] }
    have eq : o.addCompleted r = compact { o' with available := o.available ++ [r] } := by
      simp [addCompleted, order, ho']
    rw [eq]
    refine ⟨group.outstanding, group.results.trans ?_, fun keyed => group.keyed keyed⟩
    simp only [results, ho', ← List.append_assoc]
    exact List.perm_append_singleton r _
  | submission =>
    have group := regroups_releaseFrom o.submitted { o' with held := o.held.insert r.id r }
    have eq : o.addCompleted r = release { o' with held := o.held.insert r.id r } := by
      simp [addCompleted, order, ho']
    rw [eq]
    refine ⟨group.outstanding, group.results.trans ?_, fun keyed => group.keyed ?_⟩
    · simp only [results, ho', Table.values_insert_of_get?_eq_none _ r new]
      exact (List.perm_append_singleton r _).append_right o.available
    · intro k r' h
      rw [ho', Table.get?_insert] at h
      split at h
      · rename_i eq
        cases h
        exact eq.symm
      · exact keyed k r' h

/-! ### What is available stays in front -/

theorem available_prefix_releaseFrom (ids : List TaskId) (o : Outbox) :
    o.available <+: (o.releaseFrom ids).available := by
  induction ids generalizing o with
  | nil => exact List.prefix_rfl
  | cons id rest ih =>
    unfold releaseFrom
    split
    · rename_i r _
      have rest := ih { o with held := o.held.erase id, available := o.available ++ [r] }
      exact (List.prefix_append o.available [r]).trans rest
    · split
      · exact List.prefix_rfl
      · exact ih o

theorem available_prefix_releaseAllFrom (ids kept : List TaskId) (o : Outbox) :
    o.available <+: (o.releaseAllFrom kept ids).available := by
  induction ids generalizing o kept with
  | nil => exact List.prefix_rfl
  | cons id rest ih =>
    unfold releaseAllFrom
    split
    · rename_i r _
      have rest := ih kept { o with held := o.held.erase id, available := o.available ++ [r] }
      exact (List.prefix_append o.available [r]).trans rest
    · exact ih _ o

theorem available_compact (o : Outbox) : o.compact.available = o.available := by
  unfold compact
  split <;> rfl

theorem available_prefix_addCompleted (o : Outbox) (r : TaskResult) :
    o.available <+: (o.addCompleted r).available := by
  unfold addCompleted
  dsimp only
  split
  · rw [available_compact]
    exact List.prefix_append ..
  · exact available_prefix_releaseFrom o.submitted { o with
      outstanding := o.outstanding.erase r.id
      held := o.held.insert r.id r }

theorem available_prefix_setOrder (o : Outbox) (order : DeliveryOrder) :
    o.available <+: (o.setOrder order).available := by
  unfold setOrder
  split
  · exact List.prefix_rfl
  · dsimp only
    split
    · exact available_prefix_releaseAllFrom o.submitted [] { o with order }
    · exact List.prefix_rfl

theorem available_addPending (o : Outbox) (id : TaskId) :
    (o.addPending id).available = o.available := by
  unfold addPending
  split <;> rfl

/-! ### What leaves the order of delivery as it is -/

theorem order_releaseFrom (ids : List TaskId) (o : Outbox) : (o.releaseFrom ids).order = o.order := by
  induction ids generalizing o with
  | nil => rfl
  | cons id rest ih =>
    unfold releaseFrom
    split
    · exact ih _
    · split
      · rfl
      · exact ih o

theorem order_releaseAllFrom (ids kept : List TaskId) (o : Outbox) :
    (o.releaseAllFrom kept ids).order = o.order := by
  induction ids generalizing o kept with
  | nil => rfl
  | cons id rest ih =>
    unfold releaseAllFrom
    split
    · exact ih kept _
    · exact ih _ o

theorem order_compact (o : Outbox) : o.compact.order = o.order := by
  unfold compact
  split <;> rfl

theorem order_addCompleted (o : Outbox) (r : TaskResult) : (o.addCompleted r).order = o.order := by
  unfold addCompleted
  dsimp only
  split
  · exact order_compact _
  · exact order_releaseFrom _ _

theorem order_addPending (o : Outbox) (id : TaskId) : (o.addPending id).order = o.order := by
  unfold addPending
  split <;> rfl

theorem order_setOrder (o : Outbox) (order : DeliveryOrder) : (o.setOrder order).order = order := by
  unfold setOrder
  split
  · assumption
  · dsimp only
    split
    · exact order_releaseAllFrom _ _ _
    · rfl

/-- The order that is in force is set once more, and nothing changes. -/
theorem setOrder_of_order_eq {o : Outbox} {order : DeliveryOrder}
    (same : (o.setOrder order).order = o.order) : o.setOrder order = o := by
  rw [order_setOrder] at same
  simp [setOrder, same]

end Outbox

end WorkFarm
