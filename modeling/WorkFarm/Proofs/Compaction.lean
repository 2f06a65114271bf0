import Mathlib.Algebra.BigOperators.Group.Finset.Basic
import Mathlib.Algebra.Order.BigOperators.Group.Finset
import Mathlib.Algebra.Group.Action.Defs
import WorkFarm.Proofs.Resubmission
/-!
# How long the list of submissions may get

Stale entries are dropped when the list of submissions has become longer than twice the live ids and `slack`.
If no live id is listed twice, then what is left are at most as many entries as there are live ids, and the
list is short again.

But an entry is stale only as long as its id is neither owed nor held. When an id comes back, all the entries come
back to life that its earlier submissions have left, and they are not dropped as long as it is owed. So what
bounds the list is how often one id can be listed. Entries of an id are left behind only when its result comes in
order of completion. Right after this none of them is live, so either they are all dropped, or the list, which
has an entry for every other live id, is not longer than twice these and `slack`. At most as many as the other live
ids and `slack` belong to the id then (`Sparse`), and after that they grow by one when it comes back.

So the length is bounded by the number of live ids times the greatest number of them that there ever were
(`length_submitted_le`), and this bound is reached.

## Main definitions

* `Outbox.live` — the ids that owe a result or have one that is held
* `Outbox.peak` — the greatest number of live ids in a run
* `Outbox.Sparse` — how often an id is listed

## Main statements

* `length_submitted_le` — the length of the list after a result has come in order of completion
* `length_submitted_crowding` — the list is longer than twice the live ids and `slack`
-/

namespace WorkFarm

namespace Outbox

/-! ### Live ids -/

/-- The ids that owe a result or have one that is held. -/
def live (o : Outbox) : List TaskId := o.outstanding ++ o.held.keys

theorem mem_live_iff (o : Outbox) (id : TaskId) : id ∈ o.live ↔ o.isLive id = true := by
  rw [live, List.mem_append, Table.mem_keys_iff, isLive_iff, Option.isSome_iff_exists]

theorem length_live (o : Outbox) : o.live.length = o.countPending := by
  rw [live, List.length_append, countPending, Table.size_eq_length_keys]

/-- The greatest number of live ids before, between and after operations. -/
def peak (o : Outbox) : List Op → Nat
  | [] => o.countPending
  | op :: ops => max o.countPending ((o.perform op).2.peak ops)

/-- A list is no longer than the number of values in it, times how often each of them occurs. -/
theorem length_le_of_count_le {ids among : List TaskId} {most : Nat} (only : ∀ id ∈ ids, id ∈ among)
    (few : ∀ id ∈ ids, ids.count id ≤ most) : ids.length ≤ among.length * most := by
  have distinct : ids.toFinset.card ≤ among.length := by
    refine (Finset.card_le_card fun id mem => ?_).trans (List.toFinset_card_le among)
    rw [List.mem_toFinset] at mem ⊢
    exact only id mem
  calc ids.length
      = ∑ id ∈ ids.toFinset, ids.count id := (List.sum_toFinset_count_eq_length ids).symm
    _ ≤ ids.toFinset.card * most := by
        refine (Finset.sum_le_card_nsmul _ _ most fun id mem => ?_).trans_eq (smul_eq_mul ..)
        exact few id (List.mem_toFinset.mp mem)
    _ ≤ among.length * most := Nat.mul_le_mul_right most distinct

/-- **What is left when stale entries were dropped.** -/
theorem length_compact_le (o : Outbox) {most : Nat}
    (few : ∀ id ∈ o.compact.submitted, o.isLive id = true → o.compact.submitted.count id ≤ most) :
    o.compact.submitted.length ≤ max (2 * o.countPending + slack) (o.countPending * most) := by
  by_cases short : o.submitted.length ≤ 2 * o.countPending + slack
  · have same : o.compact = o := if_pos short
    rw [same]
    exact Nat.le_trans short (Nat.le_max_left ..)
  · have dropped : o.compact.submitted = o.submitted.filter o.isLive := by rw [compact, if_neg short]
    have alive (id : TaskId) (mem : id ∈ o.compact.submitted) : o.isLive id = true := by
      rw [dropped] at mem
      exact (List.mem_filter.mp mem).2
    refine Nat.le_trans ?_ (Nat.le_max_right ..)
    rw [← length_live]
    exact length_le_of_count_le (fun id mem => (o.mem_live_iff id).mpr (alive id mem))
      fun id mem => few id mem (alive id mem)

theorem countPending_compact (o : Outbox) : o.compact.countPending = o.countPending := by
  unfold compact
  split <;> rfl

/-- When a result comes in order of completion, stale entries are dropped. -/
theorem length_addCompleted_le {o : Outbox} {r : TaskResult} {most : Nat} (atOnce : o.order = .completion)
    (few : ∀ id ∈ (o.addCompleted r).submitted, (o.addCompleted r).isLive id = true →
      (o.addCompleted r).submitted.count id ≤ most) :
    (o.addCompleted r).submitted.length ≤
      max (2 * (o.addCompleted r).countPending + slack) ((o.addCompleted r).countPending * most) := by
  obtain ⟨settled, compacted⟩ : ∃ settled : Outbox, o.addCompleted r = settled.compact := by
    rw [Outbox.addCompleted, atOnce]
    exact ⟨_, rfl⟩
  rw [compacted] at few ⊢
  rw [countPending_compact]
  exact settled.length_compact_le fun id mem live => few id mem ((isLive_compact settled id).trans live)

/-! ### How often an id is listed -/

/-- An id is listed less often than `most` and `slack` say, and once more while it is live. -/
def Sparse (most : Nat) (o : Outbox) : Prop :=
  ∀ id, o.submitted.count id + 1 ≤ most + slack + if o.isLive id then 1 else 0

section

variable {subs ids : List TaskId} {o o' : Outbox} {id : TaskId} {r : TaskResult} {most : Nat}

/-- All live ids are listed, so the entries of one that is not live are fewer. -/
theorem Listed.count_add_countPending_le (listed : Listed subs o) (stale : o.isLive id = false) :
    o.submitted.count id + o.countPending ≤ o.submitted.length := by
  have nodup : o.live.Nodup := by
    refine List.nodup_append.mpr ⟨listed.nodup, o.held.nodup, ?_⟩
    rintro j owed _ held rfl
    rw [Table.mem_keys_iff, listed.apart j owed] at held
    cases held
  have others : o.live ⊆ o.submitted.filter (· ≠ id) := by
    intro j mem
    have own : o.isLive j = true := (o.mem_live_iff j).mp mem
    refine List.mem_filter.mpr ⟨listed.known j own, ?_⟩
    rw [decide_eq_true_eq]
    rintro rfl
    rw [stale] at own
    cases own
  have fewer : o.countPending ≤ (o.submitted.filter (· ≠ id)).length := by
    rw [← length_live]
    exact (nodup.subperm others).length_le
  have split : o.submitted.length = o.submitted.count id + (o.submitted.filter (· ≠ id)).length := by
    rw [List.length_eq_countP_add_countP (· == id), ← List.count_eq_countP, List.countP_eq_length_filter]
    simp
  omega

/-- Entries may be left out, if not too many are left of an id that is live no more. -/
theorem Sparse.fewer (sparse : Sparse most o) (submitted : o'.submitted.Sublist o.submitted)
    (settled : ∀ id, o.isLive id = true → o'.isLive id = false →
      o'.submitted.count id + 1 ≤ most + slack) : Sparse most o' := by
  intro id
  have before := sparse id
  have fewer := submitted.count_le id
  cases own : o'.isLive id with
  | true =>
    rw [if_pos rfl]
    split at before <;> omega
  | false =>
    rw [if_neg Bool.false_ne_true]
    cases was : o.isLive id with
    | true => exact settled id was own
    | false =>
      rw [was, if_neg Bool.false_ne_true] at before
      omega

theorem Sparse.of_empty (submitted : o.submitted = []) : Sparse most o := by
  intro id
  simp only [submitted, List.count_nil, slack]
  omega

theorem Sparse.addPending (sparse : Sparse most o) (new : o.isLive id = false) :
    Sparse most (o.addPending id) := by
  have added : o.addPending id =
      { o with outstanding := o.outstanding ++ [id], submitted := o.submitted ++ [id] } :=
    if_neg (by simpa using (Bool.or_eq_false_iff.mp new).1)
  have live (j : TaskId) : (o.addPending id).isLive j = true ↔ o.isLive j = true ∨ j = id := by
    simp only [added, isLive_iff, List.mem_append, List.mem_singleton]
    tauto
  intro j
  have before := sparse j
  simp only [live]
  simp only [added, List.count_append, List.count_singleton, beq_iff_eq]
  by_cases here : j = id
  · subst here
    rw [new, if_neg Bool.false_ne_true] at before
    simp
    omega
  · simpa [here, Ne.symm here] using before

/-- The walk drops an entry of each id whose result it lets go. -/
theorem Sparse.releaseFrom (apart : ∀ id ∈ o.outstanding, o.held.get? id = none)
    (sparse : Sparse most { o with submitted := ids }) : Sparse most (o.releaseFrom ids) := by
  induction ids generalizing o with
  | nil => exact sparse
  | cons id ids ih =>
    unfold Outbox.releaseFrom
    split
    · rename_i r held
      have free : id ∉ o.outstanding := fun owed => by simp [apart id owed] at held
      have live := isLive_letGo free ids (o.available ++ [r])
      refine ih (fun j owed => ?_) (sparse.fewer (List.sublist_cons_self id ids) fun j own gone => ?_)
      · dsimp only
        rw [Table.get?_erase, apart j owed, ite_self]
      · have here : j = id := by
          by_contra other
          exact Bool.eq_false_iff.mp gone ((live j).mpr ⟨other, own⟩)
        have before := sparse j
        rw [own, if_pos rfl, here] at before
        simp only [List.count_cons_self] at before
        rw [here]
        dsimp only
        omega
    · split
      · exact sparse
      · refine ih apart (sparse.fewer (List.sublist_cons_self id ids) fun j own gone => ?_)
        exact absurd own (Bool.eq_false_iff.mp gone)

/-- An id that is not live has no more entries left than the live ids leave room for. -/
theorem Listed.count_compact_le (listed : Listed subs o) (stale : o.isLive id = false) :
    o.compact.submitted.count id ≤ o.countPending + slack := by
  by_cases short : o.submitted.length ≤ 2 * o.countPending + slack
  · have same : o.compact = o := if_pos short
    rw [same]
    have others := listed.count_add_countPending_le stale
    omega
  · have dropped : o.compact.submitted = o.submitted.filter o.isLive := by rw [Outbox.compact, if_neg short]
    have none : id ∉ o.submitted.filter o.isLive := by
      intro mem
      rw [(List.mem_filter.mp mem).2] at stale
      cases stale
    rw [dropped, List.count_eq_zero.mpr none]
    exact Nat.zero_le _

theorem Sparse.addCompleted (sparse : Sparse most o) (listed : Listed subs o) (owed : r.id ∈ o.outstanding)
    (room : o.countPending ≤ most) : Sparse most (o.addCompleted r) := by
  unfold Outbox.addCompleted
  cases order : o.order with
  | submission =>
    have apart := (listed.hold owed).apart
    have same (j : TaskId) := isLive_hold owed j
    rw [order] at apart same
    refine Sparse.releaseFrom apart (sparse.fewer (.refl _) fun j own gone => ?_)
    exact absurd ((same j).trans own) (Bool.eq_false_iff.mp gone)
  | completion =>
    have settle := listed.settle r.id (o.available ++ [r])
    rw [order] at settle
    refine sparse.fewer (sublist_compact _) fun j _ gone => ?_
    rw [isLive_compact] at gone
    have few := settle.count_compact_le gone
    have settled : (o.outstanding.erase r.id).length + 1 = o.outstanding.length := by
      rw [List.length_erase_of_mem owed]
      have := List.length_pos_of_mem owed
      omega
    simp only [countPending] at few room
    dsimp only
    omega

theorem Sparse.setOrder (sparse : Sparse most o) (listed : Listed subs o) (order : DeliveryOrder) :
    Sparse most (o.setOrder order) := by
  unfold Outbox.setOrder
  split
  · exact sparse
  · dsimp only
    split
    · have submitted := (releaseAllFrom_fields (o := { o with order }) o.submitted [] listed.apart).1
      have group := regroups_releaseAllFrom o.submitted [] { o with order }
      generalize Outbox.releaseAllFrom { o with order } [] o.submitted = o' at submitted group ⊢
      rw [List.nil_append] at submitted
      refine sparse.fewer (submitted ▸ List.filter_sublist) fun j _ gone => ?_
      -- what stays listed is owed, so nothing is left of the others
      have none : j ∉ o'.submitted := by
        intro mem
        rw [submitted] at mem
        have owed : j ∈ o.outstanding := by simpa using (List.mem_filter.mp mem).2
        refine Bool.eq_false_iff.mp gone ((isLive_iff o' j).mpr (.inl ?_))
        rw [group.outstanding]
        exact owed
      rw [List.count_eq_zero.mpr none, slack]
      omega
    · exact sparse

/-- **Every operation keeps the entries of each id few.** -/
theorem Sparse.perform (sparse : Sparse most o) (listed : Listed subs o) {op : Op}
    (admits : o.admits op = true) (room : o.countPending ≤ most) : Sparse most (o.perform op).2 := by
  cases op with
  | addPending id =>
    have new : o.isLive id = false := by
      simpa using (Bool.and_eq_true_iff.mp admits).1
    exact sparse.addPending new
  | addCompleted r => exact sparse.addCompleted listed (by simpa [Outbox.admits] using admits) room
  | setOrder order => exact sparse.setOrder listed order
  | takeOne =>
    unfold Outbox.perform takeOne?
    cases available : o.available with
    | nil => exact sparse
    | cons r rest => exact sparse
  | takeFirst k => exact sparse
  | takeAll => exact sparse
  | restoreFront rs => exact sparse
  | clear => exact .of_empty rfl

/-- **Every run does**, as far as the greatest number of live ids says. -/
theorem Sparse.after (sparse : Sparse most o) (listed : Listed subs o) (waits : o.Waits) {ops : List Op}
    (admits : o.admitsAll ops = true) (room : o.peak ops ≤ most) : Sparse most (o.after ops) := by
  induction ops generalizing o subs with
  | nil => exact sparse
  | cons op ops ih =>
    obtain ⟨first, rest⟩ := Bool.and_eq_true_iff.mp admits
    obtain ⟨now, later⟩ := Nat.max_le.mp room
    obtain ⟨listed', waits'⟩ := listed.perform waits first
    exact ih (sparse.perform listed first now) listed' waits' rest later

end

/-! ### How long the list may get -/

theorem after_concat (o : Outbox) (ops : List Op) (op : Op) :
    o.after (ops ++ [op]) = ((o.after ops).perform op).2 := by
  rw [after, List.foldl_append]
  rfl

theorem admits_of_concat {o : Outbox} {ops : List Op} {op : Op} (admits : o.admitsAll (ops ++ [op]) = true) :
    o.admitsAll ops = true ∧ (o.after ops).admits op = true := by
  induction ops generalizing o with
  | nil => exact ⟨rfl, (Bool.and_eq_true_iff.mp admits).1⟩
  | cons first ops ih =>
    obtain ⟨now, later⟩ := Bool.and_eq_true_iff.mp admits
    obtain ⟨rest, last⟩ := ih later
    exact ⟨Bool.and_eq_true_iff.mpr ⟨now, rest⟩, last⟩

theorem countPending_after_le_peak (o : Outbox) (ops : List Op) : (o.after ops).countPending ≤ o.peak ops := by
  induction ops generalizing o with
  | nil => exact Nat.le_refl _
  | cons op ops ih => exact Nat.le_trans (ih _) (Nat.le_max_right ..)

theorem Traced.tidy {loose : List TaskId} {o : Outbox} (traced : Traced loose o) : o.Tidy :=
  fun id mem live => Nat.le_antisymm (traced.once id live).2 (List.count_pos_iff.mpr mem)

/-- **How long the list of submissions is when a result has come in order of completion.** Take any run of what a
dispatcher does to an outbox, with any changes of the order, in which ids may come back after their results were
taken. The list is not longer than twice the live ids and `slack`, or no live id is listed more often than the
greatest number of live ids that there ever were, and `slack`, and no other id is listed at all. If no live id is
listed twice, as in every run in which no id comes back whose result had come in order of completion, then the
first is the case. -/
theorem length_submitted_le (order : DeliveryOrder) (ops : List Op) (r : TaskResult)
    (admits : admitsAll { order } (ops ++ [.addCompleted r]) = true)
    (atOnce : (after { order } ops).order = .completion) :
    let o := after { order } (ops ++ [.addCompleted r])
    o.submitted.length ≤ max (2 * o.countPending + slack) (o.countPending * (peak { order } ops + slack)) ∧
      (o.Tidy → o.submitted.length ≤ 2 * o.countPending + slack) ∧
      (noneReturns { order } [] (ops ++ [.addCompleted r]) = true →
        o.submitted.length ≤ 2 * o.countPending + slack) := by
  intro o
  obtain ⟨before, owed⟩ := admits_of_concat admits
  have owed : r.id ∈ (after { order } ops).outstanding := by simpa [Outbox.admits] using owed
  have waits : Waits { order } := waits_of_held_eq_none fun _ => rfl
  obtain ⟨listed, -⟩ := (Listed.start order).after waits before
  have sparse : Sparse (peak { order } ops) (after { order } ops) :=
    Sparse.after (.of_empty rfl) (Listed.start order) waits before (Nat.le_refl _)
  have room := countPending_after_le_peak { order } ops
  have completed : o = (after { order } ops).addCompleted r := after_concat ..
  have sparse' : Sparse (peak { order } ops) o := completed ▸ sparse.addCompleted listed owed room
  have few (id : TaskId) (live : o.isLive id = true) : o.submitted.count id ≤ peak { order } ops + slack := by
    have fewer := sparse' id
    rw [live, if_pos rfl] at fewer
    omega
  have length {most : Nat} (few : ∀ id ∈ o.submitted, o.isLive id = true → o.submitted.count id ≤ most) :
      o.submitted.length ≤ max (2 * o.countPending + slack) (o.countPending * most) := by
    rw [completed] at few ⊢
    exact length_addCompleted_le atOnce few
  have short (tidy : o.Tidy) : o.submitted.length ≤ 2 * o.countPending + slack := by
    have most := length fun id mem live => Nat.le_of_eq (tidy id mem live)
    omega
  refine ⟨length fun id _ live => few id live, short, fun none => short ?_⟩
  have start : Traced [] ({ order } : Outbox) := .of_empty rfl rfl rfl
  obtain ⟨loose, traced⟩ := start.after (Listed.start order) waits admits none
  exact traced.tidy

/-- One id comes back again and again while two others are owed, and then the results of these come. -/
def relisting : List Op :=
  let result (n : Nat) : TaskResult := ⟨.ofNat n, .ok .null, "ann"⟩
  [.addPending ⟨2⟩, .addPending ⟨3⟩]
    ++ (List.replicate 66 [.addPending ⟨1⟩, .addCompleted (result 1), .takeAll]).flatten
    ++ [.addPending ⟨1⟩, .addCompleted (result 2)]

set_option maxRecDepth 4000 in
/-- The bound is reached: there were three live ids, and the one that is left is listed this often and
`slack`. -/
theorem length_submitted_relisting :
    let last : TaskResult := ⟨⟨3⟩, .ok .null, "ann"⟩
    let o := after {} (relisting ++ [.addCompleted last])
    admitsAll {} (relisting ++ [.addCompleted last]) = true ∧ (after {} relisting).order = .completion ∧
      o.live = [⟨1⟩] ∧ peak {} relisting = 3 ∧ o.submitted.length = 3 + slack ∧
      o.submitted.length ≤ max (2 * o.countPending + slack) (o.countPending * (peak {} relisting + slack)) := by
  intro last o
  have admits : admitsAll {} (relisting ++ [.addCompleted last]) = true := by decide +kernel
  have atOnce : (after {} relisting).order = .completion := by decide +kernel
  exact ⟨admits, atOnce, by decide +kernel, by decide +kernel, by decide +kernel,
    (length_submitted_le .completion relisting last admits atOnce).1⟩

/-- Some ids come back four times, each time behind one more id that stays owed, and then the results of
others come. -/
def crowding : List Op :=
  let ids (first count : Nat) := (List.range' first count).map TaskId.ofNat
  let submit := List.map Op.addPending
  let complete := List.map fun id => Op.addCompleted ⟨id, .ok .null, "w"⟩
  submit (ids 1001 25)
    ++ (ids 201 4).flatMap (fun id => submit (ids 1 23) ++ complete (ids 1 23) ++ [.takeAll, .addPending id])
    ++ submit (ids 1 23) ++ complete (ids 1001 25)

set_option maxRecDepth 4000 in
/-- **The list stays longer than twice the live ids and `slack`.** All results have come in order of completion, and
every entry is one of a live id. -/
theorem length_submitted_crowding :
    let o := after {} crowding
    admitsAll {} crowding = true ∧ o.order = .completion ∧ o.countPending = 27 ∧
      ¬ o.submitted.length ≤ 2 * o.countPending + slack := by
  decide +kernel

end Outbox

end WorkFarm
