import WorkFarm.Proofs.Ledger
/-!
# Ids that come back

An id may be submitted again when its result was delivered. If the result had come in order of completion, the
id may still stand in the list of submissions, where it was stale until now. But an entry is stale only because
its id is neither owed nor held, and now the id is owed again. So the old entry comes back to life, in its old
place, and whatever stands behind it waits for it in order of submission.

The list still has the last submission of every id that is owed or held, and all that it has was submitted, in
this order (`Lists`). So a result that is held waits for an id that was submitted before it, but perhaps not for
the last time. If no id that is owed or held is listed twice, then it was the last time (`Tidy`); and that is so
unless an id has come back whose result had come in order of completion (`respects_order`).

## Main definitions

* `Before`, `LastBefore` — the order of submissions, some of them or the last ones of two ids
* `Outbox.admitsAll` — what a dispatcher may do to an outbox
* `Outbox.Lists` — a list of submissions with the last ones of all ids that count
* `Outbox.Tidy` — no id that is owed or held is listed twice

## Main statements

* `respects_order` — whom a held result waits for, and in which order results are released
* `respects_order_returned` — an old entry comes back to life
-/

namespace WorkFarm

/-! ### The order of submissions -/

/-- Some submission of `a` came before the last one of `b`. -/
def Before (subs : List TaskId) (a b : TaskId) : Prop :=
  ∃ earlier later, subs = earlier ++ a :: later ∧ b ∈ later

/-- The last submission of `a` came before the last one of `b`. -/
def LastBefore (subs : List TaskId) (a b : TaskId) : Prop :=
  ∃ earlier later, subs = earlier ++ a :: later ∧ a ∉ later ∧ b ∈ later

theorem lastBefore_cons_iff {subs : List TaskId} {x a b : TaskId} :
    LastBefore (x :: subs) a b ↔ (x = a ∧ a ∉ subs ∧ b ∈ subs) ∨ LastBefore subs a b := by
  constructor
  · rintro ⟨earlier, later, split, last, mem⟩
    cases earlier with
    | nil =>
      obtain ⟨rfl, rfl⟩ := List.cons.inj split
      exact .inl ⟨rfl, last, mem⟩
    | cons y earlier =>
      obtain ⟨rfl, rfl⟩ := List.cons.inj split
      exact .inr ⟨earlier, later, rfl, last, mem⟩
  · rintro (⟨rfl, last, mem⟩ | ⟨earlier, later, rfl, last, mem⟩)
    · exact ⟨[], subs, rfl, last, mem⟩
    · exact ⟨x :: earlier, later, rfl, last, mem⟩

instance decidableLastBefore (a b : TaskId) : (subs : List TaskId) → Decidable (LastBefore subs a b)
  | [] => isFalse (by rintro ⟨earlier, later, split, -⟩; simp at split)
  | _ :: subs =>
    have := decidableLastBefore a b subs
    decidable_of_iff' _ lastBefore_cons_iff

namespace Outbox

/-! ### What a dispatcher does to an outbox -/

/-- A dispatcher submits ids that owe no result and have none that was not taken, and completes ids that owe
one. -/
def admits (o : Outbox) : Op → Bool
  | .addPending id => !o.isLive id && !o.available.any (·.id = id)
  | .addCompleted r => o.outstanding.contains r.id
  | _ => true

/-- Whether a dispatcher may do all this, one after another. -/
def admitsAll (o : Outbox) : List Op → Bool
  | [] => true
  | op :: ops => o.admits op && (o.perform op).2.admitsAll ops

/-- The outbox after operations. -/
def after (o : Outbox) (ops : List Op) : Outbox := ops.foldl (fun o op => (o.perform op).2) o

/-- The id of a result that comes in order of completion. -/
def loose? (o : Outbox) : Op → Option TaskId
  | .addCompleted r => if o.order = .completion then some r.id else none
  | _ => none

/-- Whether no id is submitted again whose result has come in order of completion. -/
def noneReturns (o : Outbox) (loose : List TaskId) : List Op → Bool
  | [] => true
  | op :: ops =>
    op.submission?.all (· ∉ loose) && (o.perform op).2.noneReturns (loose ++ (o.loose? op).toList) ops

/-- The results that become available when a result comes. -/
def released (o : Outbox) (r : TaskResult) : List TaskResult :=
  (o.addCompleted r).available.drop o.available.length

theorem isLive_iff (o : Outbox) (id : TaskId) :
    o.isLive id = true ↔ id ∈ o.outstanding ∨ ∃ r, o.held.get? id = some r := by
  simp [isLive, Table.contains, Option.isSome_iff_exists]

/-! ### Lists with the last submissions -/

/-- A list was made from submissions by leaving some out, but not the last one of an id that counts. -/
inductive Lists (counts : TaskId → Prop) : List TaskId → List TaskId → Prop
  | nil : Lists counts [] []
  | keep {subs ids : List TaskId} (id : TaskId) (lists : Lists counts subs ids) :
    Lists counts (id :: subs) (id :: ids)
  | skip {subs ids : List TaskId} (id : TaskId) (lists : Lists counts subs ids)
    (again : counts id → id ∈ subs) : Lists counts (id :: subs) ids

namespace Lists

variable {counts counts' : TaskId → Prop} {subs ids : List TaskId} {id : TaskId}

theorem sublist (lists : Lists counts subs ids) : ids.Sublist subs := by
  induction lists with
  | nil => exact .slnil
  | keep id _ ih => exact ih.cons_cons id
  | skip id _ _ ih => exact ih.cons id

/-- What counts is listed. -/
theorem mem (lists : Lists counts subs ids) (own : counts id) (mem : id ∈ subs) : id ∈ ids := by
  induction lists with
  | nil => exact mem
  | keep x _ ih =>
    rcases List.mem_cons.mp mem with rfl | mem
    · exact List.mem_cons_self
    · exact List.mem_cons_of_mem x (ih mem)
  | skip x _ again ih =>
    rcases List.mem_cons.mp mem with rfl | mem
    · exact ih (again own)
    · exact ih mem

theorem mono (lists : Lists counts subs ids) (fewer : ∀ id, counts' id → counts id) :
    Lists counts' subs ids := by
  induction lists with
  | nil => exact .nil
  | keep id _ ih => exact .keep id ih
  | skip id _ again ih => exact .skip id ih fun own => again (fewer id own)

/-- Entries may be left out that do not count. -/
theorem filter (lists : Lists counts subs ids) {p : TaskId → Bool} (all : ∀ id, counts id → p id = true) :
    Lists counts subs (ids.filter p) := by
  induction lists with
  | nil => exact .nil
  | keep id _ ih =>
    rw [List.filter_cons]
    split
    · exact .keep id ih
    · exact .skip id ih fun own => absurd (all id own) ‹_›
  | skip id _ again ih => exact .skip id ih again

theorem tail (lists : Lists counts subs (id :: ids)) (stale : ¬ counts id) : Lists counts subs ids := by
  generalize listed : id :: ids = all at lists
  induction lists with
  | nil => cases listed
  | keep x lists _ =>
    cases listed
    exact .skip id lists fun own => absurd own stale
  | skip x _ again ih => exact .skip x (ih listed) again

/-- An id that is submitted counts from then on. -/
theorem concat (lists : Lists counts subs ids) (id : TaskId) (more : ∀ j, counts' j → j ≠ id → counts j) :
    Lists counts' (subs ++ [id]) (ids ++ [id]) := by
  induction lists with
  | nil => exact .keep id .nil
  | keep x _ ih => exact .keep x ih
  | skip x _ again ih =>
    refine .skip x ih fun own => ?_
    by_cases here : x = id
    · simp [here]
    · exact List.mem_append_left _ (again (more x own here))

/-- What is listed was submitted in this order. -/
theorem before {a b : TaskId} (lists : Lists counts subs (a :: ids)) (mem : b ∈ ids) : Before subs a b := by
  generalize listed : a :: ids = all at lists
  induction lists with
  | nil => cases listed
  | @keep subs _ x lists _ =>
    cases listed
    exact ⟨[], subs, rfl, lists.sublist.subset mem⟩
  | skip x _ _ ih =>
    obtain ⟨earlier, later, rfl, after⟩ := ih listed
    exact ⟨x :: earlier, later, rfl, after⟩

/-- What counts and is listed once is listed in the order of the last submissions. -/
theorem pairwise {some : List TaskId} (lists : Lists counts subs ids) (among : some.Sublist ids)
    (own : ∀ id ∈ some, counts id) (once : ∀ id ∈ some, ids.count id ≤ 1) :
    some.Pairwise (LastBefore subs) := by
  induction lists generalizing some with
  | nil =>
    rw [List.sublist_nil.mp among]
    exact .nil
  | @keep subs ids x lists ih =>
    have fewer (id : TaskId) (few : (x :: ids).count id ≤ 1) : ids.count id ≤ 1 :=
      Nat.le_trans ((List.sublist_cons_self x ids).count_le id) few
    have later {some : List TaskId} (among : some.Sublist ids) (own : ∀ id ∈ some, counts id)
        (once : ∀ id ∈ some, (x :: ids).count id ≤ 1) : some.Pairwise (LastBefore (x :: subs)) :=
      (ih among own fun id mem => fewer id (once id mem)).imp fun before =>
        lastBefore_cons_iff.mpr (.inr before)
    rcases List.sublist_cons_iff.mp among with behind | ⟨rest, rfl, behind⟩
    · exact later behind own once
    · obtain ⟨ownFirst, ownRest⟩ := List.forall_mem_cons.mp own
      obtain ⟨onceFirst, onceRest⟩ := List.forall_mem_cons.mp once
      -- the first one is not listed again, so it was not submitted again
      have last : x ∉ subs := by
        intro again
        have listed := List.count_pos_iff.mpr (lists.mem ownFirst again)
        rw [List.count_cons_self] at onceFirst
        omega
      refine .cons (fun id mem => lastBefore_cons_iff.mpr (.inl ⟨rfl, last, ?_⟩))
        (later behind ownRest onceRest)
      exact lists.sublist.subset (behind.subset mem)
  | skip x _ again ih =>
    exact (ih among own once).imp fun before => lastBefore_cons_iff.mpr (.inr before)

end Lists

/-! ### What every outbox of a dispatcher keeps up -/

/-- The list has the last submissions of all ids that are owed or held. -/
structure Listed (subs : List TaskId) (o : Outbox) : Prop where
  lists : Lists (fun id => o.isLive id = true) subs o.submitted
  known : ∀ id, o.isLive id = true → id ∈ o.submitted
  nodup : o.outstanding.Nodup
  apart : ∀ id ∈ o.outstanding, o.held.get? id = none
  keyed : o.Keyed

/-- Results are held in order of submission only, and behind an id that is owed. -/
def Waits (o : Outbox) : Prop :=
  ∀ id r, o.held.get? id = some r →
    o.order = .submission ∧ ∃ j rest, o.submitted = j :: rest ∧ j ∈ o.outstanding

/-- Live ids are listed once and have never come in order of completion, and all stale ones have. -/
structure Traced (loose : List TaskId) (o : Outbox) : Prop where
  once : ∀ id, o.isLive id = true → id ∉ loose ∧ o.submitted.count id ≤ 1
  stale : ∀ id ∈ o.submitted, o.isLive id = false → id ∈ loose

section Walk

variable {subs loose ids : List TaskId} {o : Outbox} {id : TaskId} {r : TaskResult}

/-- Nothing is owed or held, and nothing is listed. -/
theorem Traced.of_empty (outstanding : o.outstanding = []) (held : o.held = ∅)
    (submitted : o.submitted = []) : Traced loose o where
  once id own := by simp [isLive_iff, outstanding, held] at own
  stale id mem := by simp [submitted] at mem

/-- When the result of an id is let go, the id is live no more, and all others are as they were. -/
theorem isLive_letGo (free : id ∉ o.outstanding) (ids : List TaskId) (rs : List TaskResult) (j : TaskId) :
    isLive { o with submitted := ids, held := o.held.erase id, available := rs } j = true ↔
      j ≠ id ∧ o.isLive j = true := by
  simp only [isLive_iff, Table.get?_erase]
  by_cases here : j = id
  · simp [here, free]
  · simp [here]

/-- The first id is held, and its result is let go. -/
theorem Listed.letGo_first (listed : Listed subs { o with submitted := id :: ids })
    (held : o.held.get? id = some r) :
    Listed subs { o with
      submitted := ids
      held := o.held.erase id
      available := o.available ++ [r] } := by
  have free : id ∉ o.outstanding := fun owed => by simp [listed.apart id owed] at held
  have live := isLive_letGo free ids (o.available ++ [r])
  refine ⟨?_, ?_, listed.nodup, ?_, ?_⟩
  · refine (listed.lists.mono fun j own => ((live j).mp own).2).tail ?_
    exact fun own => ((live id).mp own).1 rfl
  · intro j own
    obtain ⟨other, own⟩ := (live j).mp own
    exact List.mem_of_ne_of_mem other (listed.known j own)
  · intro j owed
    dsimp only
    rw [Table.get?_erase, listed.apart j owed, ite_self]
  · intro j r' still
    dsimp only at still
    rw [Table.get?_erase] at still
    split at still
    · cases still
    · exact listed.keyed j r' still

/-- The first id is stale. -/
theorem Listed.skip_first (listed : Listed subs { o with submitted := id :: ids })
    (stale : o.isLive id = false) : Listed subs { o with submitted := ids } := by
  have other (j : TaskId) (own : o.isLive j = true) : j ≠ id := by
    rintro rfl
    rw [stale] at own
    cases own
  refine ⟨listed.lists.tail ?_, fun j own => ?_, listed.nodup, listed.apart, listed.keyed⟩
  · exact fun own => other id own rfl
  · exact List.mem_of_ne_of_mem (other j own) (listed.known j own)

/-- The walk ends in front of an id that is owed. -/
theorem Listed.releaseFrom (order : o.order = .submission)
    (listed : Listed subs { o with submitted := ids }) :
    Listed subs (o.releaseFrom ids) ∧ (o.releaseFrom ids).Waits := by
  induction ids generalizing o with
  | nil =>
    refine ⟨listed, fun id r held => ?_⟩
    have own : o.isLive id = true := (isLive_iff _ _).mpr (.inr ⟨r, held⟩)
    exact absurd (listed.known id own) List.not_mem_nil
  | cons id ids ih =>
    unfold Outbox.releaseFrom
    split
    · rename_i r held
      exact ih order (listed.letGo_first held)
    · rename_i free
      split
      · rename_i owed
        exact ⟨listed, fun _ _ _ => ⟨order, id, ids, rfl, by simpa using owed⟩⟩
      · rename_i settled
        refine ih order (listed.skip_first ?_)
        simpa [isLive, Table.contains, free] using settled

/-- The walk releases results in the order of the list, each of which was held. -/
theorem exists_releaseFrom (keyed : o.Keyed) (ids : List TaskId) :
    ∃ rs, (o.releaseFrom ids).available = o.available ++ rs ∧
      (rs.map TaskResult.id).Sublist ids ∧ ∀ r ∈ rs, o.held.get? r.id = some r := by
  induction ids generalizing o with
  | nil => exact ⟨[], (List.append_nil _).symm, .slnil, nofun⟩
  | cons id ids ih =>
    unfold Outbox.releaseFrom
    split
    · rename_i r held
      have fewer (j : TaskId) (r' : TaskResult) (still : (o.held.erase id).get? j = some r') :
          o.held.get? j = some r' := by
        rw [Table.get?_erase] at still
        split at still
        · cases still
        · exact still
      have own : r.id = id := keyed id r held
      obtain ⟨rs, available, behind, still⟩ := ih
        (o := { o with held := o.held.erase id, available := o.available ++ [r] })
        fun j r' found => keyed j r' (fewer j r' found)
      refine ⟨r :: rs, ?_, ?_, ?_⟩
      · rw [available, List.append_assoc]
        rfl
      · rw [List.map_cons, own]
        exact behind.cons_cons id
      · refine List.forall_mem_cons.mpr ⟨own.symm ▸ held, fun r' mem => ?_⟩
        exact fewer _ _ (still r' mem)
    · split
      · exact ⟨[], (List.append_nil _).symm, List.nil_sublist _, nofun⟩
      · obtain ⟨rs, available, behind, held⟩ := ih keyed
        exact ⟨rs, available, behind.cons id, held⟩

end Walk

/-! ### What an operation does -/

section Operations

variable {subs : List TaskId} {o : Outbox} {id : TaskId} {r : TaskResult}

/-- Fewer ids may be live, and stale ids may be left out. -/
theorem Listed.filter (listed : Listed subs o) {o' : Outbox} {p : TaskId → Bool}
    (submitted : o'.submitted = o.submitted.filter p)
    (live : ∀ id, o'.isLive id = true → o.isLive id = true ∧ p id = true)
    (outstanding : o'.outstanding.Sublist o.outstanding)
    (apart : ∀ id ∈ o'.outstanding, o'.held.get? id = none) (keyed : o'.Keyed) : Listed subs o' where
  lists := by
    rw [submitted]
    exact (listed.lists.mono fun id own => (live id own).1).filter fun id own => (live id own).2
  known id own := by
    rw [submitted]
    exact List.mem_filter.mpr ⟨listed.known id (live id own).1, (live id own).2⟩
  nodup := listed.nodup.sublist outstanding
  apart := apart
  keyed := keyed

/-- The order of delivery and what is available do not matter. -/
theorem Listed.serve (listed : Listed subs o) (order : DeliveryOrder) (available : List TaskResult) :
    Listed subs { o with order, available } :=
  ⟨listed.lists, listed.known, listed.nodup, listed.apart, listed.keyed⟩

theorem Listed.addPending (listed : Listed subs o) (new : o.isLive id = false) :
    Listed (subs ++ [id]) (o.addPending id) := by
  have absent : o.outstanding.contains id = false := (Bool.or_eq_false_iff.mp new).1
  have free : o.held.get? id = none := by
    have := (Bool.or_eq_false_iff.mp new).2
    simpa [Table.contains] using this
  have added : o.addPending id =
      { o with outstanding := o.outstanding ++ [id], submitted := o.submitted ++ [id] } :=
    if_neg (by simpa using absent)
  have live (j : TaskId) (own : (o.addPending id).isLive j = true) (other : j ≠ id) : o.isLive j = true := by
    rw [added] at own
    simpa [isLive_iff, other] using own
  refine ⟨?_, fun j own => ?_, ?_, ?_, ?_⟩
  · rw [added] at live ⊢
    exact listed.lists.concat id live
  · by_cases here : j = id
    · simp [added, here]
    · simp [added, listed.known j (live j own here)]
  · rw [added]
    refine List.nodup_append.mpr ⟨listed.nodup, List.nodup_singleton id, ?_⟩
    rintro j owed _ last rfl
    obtain rfl := List.mem_singleton.mp last
    simp [owed] at absent
  · rw [added]
    intro j owed
    rcases List.mem_append.mp owed with owed | last
    · exact listed.apart j owed
    · exact List.mem_singleton.mp last ▸ free
  · rw [added]
    exact listed.keyed

theorem Waits.addPending (waits : o.Waits) (id : TaskId) : (o.addPending id).Waits := by
  unfold Outbox.addPending
  split
  · exact waits
  · intro j r held
    obtain ⟨order, first, rest, submitted, owed⟩ := waits j r held
    refine ⟨order, first, rest ++ [id], ?_, List.mem_append_left _ owed⟩
    exact congrArg (· ++ [id]) submitted

/-- An id that was owed and is held now is as live as before. -/
theorem isLive_hold (owed : r.id ∈ o.outstanding) (j : TaskId) :
    isLive { o with outstanding := o.outstanding.erase r.id, held := o.held.insert r.id r } j = o.isLive j := by
  rw [Bool.eq_iff_iff, isLive_iff, isLive_iff]
  dsimp only
  rw [Table.get?_insert]
  by_cases here : j = r.id
  · simp [here, owed]
  · simp [here, List.mem_erase_of_ne here]

/-- The debt of an id is settled, and its result is held. -/
theorem Listed.hold (listed : Listed subs o) (owed : r.id ∈ o.outstanding) :
    Listed subs { o with outstanding := o.outstanding.erase r.id, held := o.held.insert r.id r } := by
  have all : o.submitted = o.submitted.filter fun _ => true := (List.filter_true _).symm
  refine listed.filter all (fun j own => ⟨isLive_hold owed j ▸ own, rfl⟩) List.erase_sublist ?_ ?_
  · intro j still
    have other : j ≠ r.id := by
      rintro rfl
      exact listed.nodup.not_mem_erase still
    dsimp only
    rw [Table.get?_insert, if_neg other]
    exact listed.apart j (List.mem_of_mem_erase still)
  · intro j r' held
    dsimp only at held
    rw [Table.get?_insert] at held
    split at held
    · rename_i here
      cases held
      exact here.symm
    · exact listed.keyed j r' held

/-- The debt of an id is settled, and its result is available at once. -/
theorem Listed.settle (listed : Listed subs o) (id : TaskId) (available : List TaskResult) :
    Listed subs { o with outstanding := o.outstanding.erase id, available } := by
  have all : o.submitted = o.submitted.filter fun _ => true := (List.filter_true _).symm
  refine listed.filter all (fun j own => ⟨?_, rfl⟩) List.erase_sublist ?_ listed.keyed
  · rw [isLive_iff] at own ⊢
    exact own.imp_left List.mem_of_mem_erase
  · exact fun j still => listed.apart j (List.mem_of_mem_erase still)

theorem Listed.compact (listed : Listed subs o) : Listed subs o.compact := by
  unfold Outbox.compact
  split
  · exact listed
  · exact listed.filter rfl (fun j own => ⟨own, own⟩) (.refl _) listed.apart listed.keyed

theorem Waits.held_eq_none (waits : o.Waits) (order : o.order = .completion) (id : TaskId) :
    o.held.get? id = none := by
  refine Option.eq_none_iff_forall_ne_some.mpr fun r held => ?_
  rw [(waits id r held).1] at order
  cases order

theorem waits_of_held_eq_none (nothing : ∀ id, o.held.get? id = none) : o.Waits := by
  intro id r held
  rw [nothing id] at held
  cases held

theorem held_compact (o : Outbox) : o.compact.held = o.held := by
  unfold Outbox.compact
  split <;> rfl

theorem Listed.addCompleted (listed : Listed subs o) (waits : o.Waits) (owed : r.id ∈ o.outstanding) :
    Listed subs (o.addCompleted r) ∧ (o.addCompleted r).Waits := by
  unfold Outbox.addCompleted
  cases order : o.order with
  | submission =>
    have hold := listed.hold owed
    rw [order] at hold
    exact Listed.releaseFrom rfl hold
  | completion =>
    have settle := listed.settle r.id (o.available ++ [r])
    rw [order] at settle
    refine ⟨settle.compact, waits_of_held_eq_none fun id => ?_⟩
    rw [held_compact]
    exact waits.held_eq_none order id

theorem Regroups.held_eq_none {o' : Outbox} (group : Regroups o o') (nothing : o.held.get? id = none) :
    o'.held.get? id = none := by
  refine Option.eq_none_iff_forall_ne_some.mpr fun r held => ?_
  rw [group.held id r held] at nothing
  cases nothing

/-- Everything that is held is released, and the ids that are owed stay listed. -/
theorem releaseAllFrom_fields (ids kept : List TaskId) (apart : ∀ id ∈ o.outstanding, o.held.get? id = none) :
    (o.releaseAllFrom kept ids).submitted = kept ++ ids.filter o.outstanding.contains ∧
      ∀ j ∈ ids, (o.releaseAllFrom kept ids).held.get? j = none := by
  induction ids generalizing o kept with
  | nil => exact ⟨(List.append_nil _).symm, nofun⟩
  | cons id ids ih =>
    unfold Outbox.releaseAllFrom
    split
    · rename_i r held
      have free : ¬ o.outstanding.contains id = true := by
        intro owed
        simp [apart id (by simpa using owed)] at held
      obtain ⟨submitted, none⟩ := ih kept
        (o := { o with held := o.held.erase id, available := o.available ++ [r] }) fun j owed => by
          dsimp only
          rw [Table.get?_erase, apart j owed, ite_self]
      refine ⟨?_, List.forall_mem_cons.mpr ⟨?_, none⟩⟩
      · rw [submitted, List.filter_cons_of_neg free]
      · exact (regroups_releaseAllFrom ids kept _).held_eq_none (by simp)
    · rename_i nothing
      obtain ⟨submitted, none⟩ := ih (if o.outstanding.contains id then kept ++ [id] else kept) apart
      refine ⟨?_, List.forall_mem_cons.mpr ⟨?_, none⟩⟩
      · rw [submitted, List.filter_cons]
        split <;> simp
      · exact (regroups_releaseAllFrom ids _ o).held_eq_none nothing

theorem Listed.setOrder (listed : Listed subs o) (waits : o.Waits) (order : DeliveryOrder) :
    Listed subs (o.setOrder order) ∧ (o.setOrder order).Waits := by
  unfold Outbox.setOrder
  split
  · exact ⟨listed, waits⟩
  · rename_i change
    have enter : Listed subs { o with order } := listed.serve order o.available
    dsimp only
    split
    · rename_i leaving
      obtain ⟨submitted, nothing⟩ := releaseAllFrom_fields (o := { o with order }) o.submitted [] listed.apart
      have group := regroups_releaseAllFrom o.submitted [] { o with order }
      generalize Outbox.releaseAllFrom { o with order } [] o.submitted = o' at submitted nothing group ⊢
      have none (id : TaskId) : o'.held.get? id = none := by
        refine Option.eq_none_iff_forall_ne_some.mpr fun r held => ?_
        have own : o.isLive id = true := (isLive_iff o id).mpr (.inr ⟨r, group.held id r held⟩)
        rw [nothing id (listed.known id own)] at held
        cases held
      refine ⟨listed.filter submitted (fun id own => ?_) ?_ (fun id _ => none id) ?_, waits_of_held_eq_none none⟩
      · rw [isLive_iff, group.outstanding] at own
        rcases own with owed | ⟨r, held⟩
        · exact ⟨(isLive_iff o id).mpr (.inl owed), by simpa using owed⟩
        · rw [none id] at held
          cases held
      · rw [group.outstanding]
      · exact group.keyed listed.keyed
    · rename_i staying
      refine ⟨enter, waits_of_held_eq_none fun id => ?_⟩
      cases before : o.order with
      | completion => exact waits.held_eq_none before id
      | submission =>
        have leaving : order = .completion := by
          cases order with
          | completion => rfl
          | submission => exact absurd before change
        have empty : o.held.size = 0 := by
          simpa [leaving, Table.isEmpty, Table.size] using staying
        exact (Table.size_eq_zero_iff _).mp empty id

theorem Listed.start (order : DeliveryOrder) : Listed [] { order } :=
  ⟨.nil, fun id own => by simp [isLive_iff] at own, List.nodup_nil, nofun, nofun⟩

theorem Listed.clear (listed : Listed subs o) : Listed subs o.clear :=
  listed.filter (p := fun _ => false) (List.filter_false _).symm (fun id own => by cases own)
    (List.nil_sublist _) nofun nofun

/-- **Every operation keeps this up.** -/
theorem Listed.perform (listed : Listed subs o) (waits : o.Waits) {op : Op} (admits : o.admits op = true) :
    Listed (subs ++ op.submission?.toList) (o.perform op).2 ∧ (o.perform op).2.Waits := by
  have still : op.submission? = none → subs ++ op.submission?.toList = subs := by
    intro none
    rw [none, Option.toList_none, List.append_nil]
  have take (rs : List TaskResult) : Listed subs { o with available := rs } ∧ Waits { o with available := rs } :=
    ⟨listed.serve o.order rs, waits⟩
  cases op with
  | addPending id =>
    have new : o.isLive id = false := by
      simpa using (Bool.and_eq_true_iff.mp admits).1
    exact ⟨listed.addPending new, waits.addPending id⟩
  | addCompleted r =>
    rw [still rfl]
    exact listed.addCompleted waits (by simpa [Outbox.admits] using admits)
  | setOrder order =>
    rw [still rfl]
    exact listed.setOrder waits order
  | takeOne =>
    rw [still rfl]
    unfold Outbox.perform takeOne?
    cases available : o.available with
    | nil => exact ⟨listed, waits⟩
    | cons r rest => exact take rest
  | takeFirst k =>
    rw [still rfl]
    exact take _
  | takeAll =>
    rw [still rfl]
    exact take []
  | restoreFront rs =>
    rw [still rfl]
    exact take _
  | clear =>
    rw [still rfl]
    exact ⟨listed.clear, nofun⟩

/-- **Every run keeps this up.** -/
theorem Listed.after (listed : Listed subs o) (waits : o.Waits) {ops : List Op}
    (admits : o.admitsAll ops = true) :
    Listed (subs ++ ops.filterMap Op.submission?) (o.after ops) ∧ (o.after ops).Waits := by
  induction ops generalizing o subs with
  | nil =>
    rw [List.filterMap_nil, List.append_nil]
    exact ⟨listed, waits⟩
  | cons op ops ih =>
    obtain ⟨first, rest⟩ := Bool.and_eq_true_iff.mp admits
    obtain ⟨listed, waits⟩ := listed.perform waits first
    have split : (op :: ops).filterMap Op.submission?
        = op.submission?.toList ++ ops.filterMap Op.submission? := by
      rw [List.filterMap_cons]
      cases op.submission? <;> rfl
    rw [split, ← List.append_assoc]
    exact ih listed waits rest

end Operations

/-! ### Ids that have come in order of completion -/

section Returns

variable {subs loose ids : List TaskId} {o : Outbox} {id : TaskId} {r : TaskResult}

/-- Live ids may become stale if they come in order of completion, and entries may be left out. -/
theorem Traced.fewer (traced : Traced loose o) {o' : Outbox} {loose' : List TaskId}
    (submitted : o'.submitted.Sublist o.submitted)
    (live : ∀ id, o'.isLive id = true → o.isLive id = true ∧ (id ∈ loose' → id ∈ loose))
    (stale : ∀ id ∈ o'.submitted, o'.isLive id = false → o.isLive id = true → id ∈ loose')
    (more : loose ⊆ loose') : Traced loose' o' where
  once id own := by
    obtain ⟨own, still⟩ := live id own
    obtain ⟨apart, once⟩ := traced.once id own
    exact ⟨fun mem => apart (still mem), Nat.le_trans (submitted.count_le id) once⟩
  stale id mem gone := by
    cases before : o.isLive id with
    | true => exact stale id mem gone before
    | false => exact more (traced.stale id (submitted.subset mem) before)

theorem Traced.addPending (traced : Traced loose o) (new : o.isLive id = false) (unseen : id ∉ loose) :
    Traced loose (o.addPending id) := by
  have absent : id ∉ o.submitted := fun mem => unseen (traced.stale id mem new)
  have added : o.addPending id =
      { o with outstanding := o.outstanding ++ [id], submitted := o.submitted ++ [id] } :=
    if_neg (by simpa using (Bool.or_eq_false_iff.mp new).1)
  have live (j : TaskId) : (o.addPending id).isLive j = true ↔ o.isLive j = true ∨ j = id := by
    simp only [added, isLive_iff, List.mem_append, List.mem_singleton]
    tauto
  refine ⟨fun j own => ?_, fun j mem gone => ?_⟩
  · rcases (live j).mp own with before | rfl
    · have other : j ≠ id := by
        rintro rfl
        rw [new] at before
        cases before
      obtain ⟨apart, once⟩ := traced.once j before
      refine ⟨apart, ?_⟩
      simpa [added, List.count_append, List.count_singleton, other.symm] using once
    · refine ⟨unseen, ?_⟩
      simp [added, List.count_append, List.count_eq_zero.mpr absent]
  · rw [added] at mem
    have gone := fun own => Bool.eq_false_iff.mp gone ((live j).mpr own)
    rcases List.mem_append.mp mem with mem | last
    · exact traced.stale j mem (Bool.eq_false_iff.mpr fun own => gone (.inl own))
    · exact absurd (.inr (List.mem_singleton.mp last)) gone

/-- The walk drops the only entry of each id whose result it lets go. -/
theorem Traced.releaseFrom (apart : ∀ id ∈ o.outstanding, o.held.get? id = none)
    (traced : Traced loose { o with submitted := ids }) : Traced loose (o.releaseFrom ids) := by
  induction ids generalizing o with
  | nil => exact traced
  | cons id ids ih =>
    unfold Outbox.releaseFrom
    split
    · rename_i r held
      have free : id ∉ o.outstanding := fun owed => by simp [apart id owed] at held
      have live := isLive_letGo free ids (o.available ++ [r])
      have only : id ∉ ids := by
        have own : isLive { o with submitted := id :: ids } id = true := (isLive_iff _ _).mpr (.inr ⟨r, held⟩)
        have once : (id :: ids).count id ≤ 1 := (traced.once id own).2
        rw [List.count_cons_self] at once
        exact List.count_eq_zero.mp (by omega)
      refine ih (fun j owed => ?_) (traced.fewer (List.sublist_cons_self id ids) ?_ ?_ (List.Subset.refl loose))
      · dsimp only
        rw [Table.get?_erase, apart j owed, ite_self]
      · exact fun j own => ⟨((live j).mp own).2, fun mem => mem⟩
      · intro j mem gone before
        have here : j = id := by
          by_contra other
          exact Bool.eq_false_iff.mp gone ((live j).mpr ⟨other, before⟩)
        exact absurd mem (here ▸ only)
    · split
      · exact traced
      · refine ih apart (traced.fewer (List.sublist_cons_self id ids) ?_ ?_ (List.Subset.refl loose))
        · exact fun j own => ⟨own, fun mem => mem⟩
        · intro j _ gone before
          exact absurd before (Bool.eq_false_iff.mp gone)

theorem isLive_compact (o : Outbox) (j : TaskId) : o.compact.isLive j = o.isLive j := by
  unfold Outbox.compact
  split <;> rfl

theorem sublist_compact (o : Outbox) : o.compact.submitted.Sublist o.submitted := by
  unfold Outbox.compact
  split
  · exact .refl _
  · exact List.filter_sublist

theorem Traced.addCompleted (traced : Traced loose o) (listed : Listed subs o) (waits : o.Waits)
    (owed : r.id ∈ o.outstanding) :
    Traced (loose ++ (o.loose? (.addCompleted r)).toList) (o.addCompleted r) := by
  unfold Outbox.addCompleted
  cases order : o.order with
  | submission =>
    have apart := (listed.hold owed).apart
    have same (j : TaskId) := isLive_hold owed j
    rw [order] at apart same
    have inTurn : o.loose? (.addCompleted r) = none := by simp [loose?, order]
    rw [inTurn, Option.toList_none, List.append_nil]
    refine Traced.releaseFrom apart (traced.fewer (.refl _) ?_ ?_ (List.Subset.refl loose))
    · exact fun j own => ⟨(same j).symm.trans own, fun mem => mem⟩
    · exact fun j _ gone own => absurd ((same j).trans own) (Bool.eq_false_iff.mp gone)
  | completion =>
    have held (j : TaskId) : o.held.get? j = none := waits.held_eq_none order j
    have atOnce : o.loose? (.addCompleted r) = some r.id := by simp [loose?, order]
    rw [atOnce, Option.toList_some]
    refine traced.fewer (sublist_compact _) ?_ ?_ (List.subset_append_left loose [r.id])
    · intro j own
      rw [isLive_compact, isLive_iff] at own
      simp only [held, reduceCtorEq, exists_false, or_false] at own
      have other : j ≠ r.id := by
        rintro rfl
        exact listed.nodup.not_mem_erase own
      exact ⟨(isLive_iff o j).mpr (.inl (List.mem_of_mem_erase own)), by simp [other]⟩
    · intro j _ gone before
      rw [isLive_compact] at gone
      by_cases here : j = r.id
      · simp [here]
      · refine absurd ((isLive_iff _ j).mpr ?_) (Bool.eq_false_iff.mp gone)
        simp only [isLive_iff, held, reduceCtorEq, exists_false, or_false] at before ⊢
        exact (List.mem_erase_of_ne here).mpr before

theorem Traced.setOrder (traced : Traced loose o) (listed : Listed subs o) (order : DeliveryOrder) :
    Traced loose (o.setOrder order) := by
  unfold Outbox.setOrder
  split
  · exact traced
  · dsimp only
    split
    · have submitted := (releaseAllFrom_fields (o := { o with order }) o.submitted [] listed.apart).1
      have group := regroups_releaseAllFrom o.submitted [] { o with order }
      generalize Outbox.releaseAllFrom { o with order } [] o.submitted = o' at submitted group ⊢
      rw [List.nil_append] at submitted
      refine traced.fewer (submitted ▸ List.filter_sublist) ?_ ?_ (List.Subset.refl loose)
      · intro j own
        rw [isLive_iff, group.outstanding] at own
        refine ⟨(isLive_iff o j).mpr (own.imp_right ?_), fun mem => mem⟩
        exact fun ⟨r, held⟩ => ⟨r, group.held j r held⟩
      · intro j mem gone _
        rw [submitted] at mem
        have owed : j ∈ o.outstanding := by simpa using (List.mem_filter.mp mem).2
        refine absurd ((isLive_iff o' j).mpr (.inl ?_)) (Bool.eq_false_iff.mp gone)
        rw [group.outstanding]
        exact owed
    · exact ⟨traced.once, traced.stale⟩

theorem Traced.perform (traced : Traced loose o) (listed : Listed subs o) (waits : o.Waits) {op : Op}
    (admits : o.admits op = true) (unseen : op.submission?.all (· ∉ loose) = true) :
    Traced (loose ++ (o.loose? op).toList) (o.perform op).2 := by
  have take (rs : List TaskResult) : Traced (loose ++ []) { o with available := rs } := by
    rw [List.append_nil]
    exact ⟨traced.once, traced.stale⟩
  cases op with
  | addPending id =>
    have new : o.isLive id = false := by
      simpa using (Bool.and_eq_true_iff.mp admits).1
    show Traced (loose ++ []) _
    rw [List.append_nil]
    exact traced.addPending new (by simpa [Op.submission?] using unseen)
  | addCompleted r => exact traced.addCompleted listed waits (by simpa [Outbox.admits] using admits)
  | setOrder order =>
    show Traced (loose ++ []) _
    rw [List.append_nil]
    exact traced.setOrder listed order
  | takeOne =>
    show Traced (loose ++ []) _
    unfold Outbox.perform takeOne?
    cases available : o.available with
    | nil =>
      rw [List.append_nil]
      exact traced
    | cons r rest => exact take rest
  | takeFirst k => exact take _
  | takeAll => exact take []
  | restoreFront rs => exact take _
  | clear => exact .of_empty rfl rfl rfl

theorem Traced.after (traced : Traced loose o) (listed : Listed subs o) (waits : o.Waits) {ops : List Op}
    (admits : o.admitsAll ops = true) (none : o.noneReturns loose ops = true) :
    ∃ loose', Traced loose' (o.after ops) := by
  induction ops generalizing o subs loose with
  | nil => exact ⟨loose, traced⟩
  | cons op ops ih =>
    obtain ⟨first, rest⟩ := Bool.and_eq_true_iff.mp admits
    obtain ⟨unseen, none⟩ := Bool.and_eq_true_iff.mp none
    obtain ⟨listed', waits'⟩ := listed.perform waits first
    exact ih (traced.perform listed waits first unseen) listed' waits' rest none

end Returns

/-- No id that is owed or held is listed twice. -/
def Tidy (o : Outbox) : Prop := ∀ id ∈ o.submitted, o.isLive id = true → o.submitted.count id = 1

instance (o : Outbox) : Decidable o.Tidy :=
  inferInstanceAs (Decidable (∀ id ∈ o.submitted, o.isLive id = true → o.submitted.count id = 1))

/-- **Whom a held result waits for, and in which order results are released.** Take any run of what a dispatcher
does to an outbox, with any changes of the order, in which ids may come back after their results were taken. In
order of submission each held result waits for an id that is owed, some submission of which came before the last
one of its own. Suppose that no id that is owed or held is listed twice. Then it was the last submission of that
id, too, and the results that become available when a result comes do so in the order of their last submissions.
No id that is owed or held is listed twice unless one was submitted again whose result had come in order of
completion. -/
theorem respects_order (order : DeliveryOrder) (ops : List Op) (admits : admitsAll { order } ops = true) :
    let o := after { order } ops
    let subs := ops.filterMap Op.submission?
    (∀ id r, o.held.get? id = some r →
      o.order = .submission ∧ ∃ j ∈ o.outstanding, Before subs j id) ∧
    (o.Tidy →
      (∀ id r, o.held.get? id = some r → ∃ j ∈ o.outstanding, LastBefore subs j id) ∧
      (o.order = .submission → ∀ r, r.id ∈ o.outstanding →
        ((o.released r).map TaskResult.id).Pairwise (LastBefore subs))) ∧
    (noneReturns { order } [] ops = true → o.Tidy) := by
  intro o subs
  obtain ⟨listed, waits⟩ := (Listed.start order).after nofun admits
  rw [List.nil_append] at listed
  have own (id : TaskId) (r : TaskResult) (held : o.held.get? id = some r) : o.isLive id = true :=
    (isLive_iff o id).mpr (.inr ⟨r, held⟩)
  -- whoever is held stands behind the first id that is listed
  have behind (id : TaskId) (r : TaskResult) (held : o.held.get? id = some r) :
      ∃ j rest, o.submitted = j :: rest ∧ j ∈ o.outstanding ∧ id ∈ rest := by
    obtain ⟨-, j, rest, submitted, owed⟩ := waits id r held
    have other : id ≠ j := by
      rintro rfl
      rw [listed.apart id owed] at held
      cases held
    have mem := listed.known id (own id r held)
    rw [submitted] at mem
    exact ⟨j, rest, submitted, owed, List.mem_of_ne_of_mem other mem⟩
  refine ⟨fun id r held => ⟨(waits id r held).1, ?_⟩, fun tidy => ⟨fun id r held => ?_, ?_⟩, fun none => ?_⟩
  · obtain ⟨j, rest, submitted, owed, mem⟩ := behind id r held
    exact ⟨j, owed, (submitted ▸ listed.lists).before mem⟩
  · obtain ⟨j, rest, submitted, owed, mem⟩ := behind id r held
    have both : ∀ k ∈ [j, id], o.isLive k = true := by
      simpa using ⟨(isLive_iff o j).mpr (.inl owed), own id r held⟩
    have inTurn := listed.lists.pairwise
      (submitted ▸ (List.singleton_sublist.mpr mem).cons_cons j) both
      fun k among => Nat.le_of_eq (tidy k (listed.known k (both k among)) (both k among))
    exact ⟨j, owed, (List.pairwise_cons.mp inTurn).1 id List.mem_cons_self⟩
  · intro inTurn r owed
    have hold := listed.hold owed
    obtain ⟨rs, available, among, held⟩ := exists_releaseFrom hold.keyed o.submitted
    have completed : o.addCompleted r = Outbox.releaseFrom
        { o with outstanding := o.outstanding.erase r.id, held := o.held.insert r.id r } o.submitted := by
      simp [addCompleted, inTurn, release]
    have released : o.released r = rs := by
      rw [Outbox.released, completed, available, List.drop_left]
    rw [released]
    have live : ∀ k ∈ rs.map TaskResult.id, o.isLive k = true := by
      intro k mem
      obtain ⟨r', taken, rfl⟩ := List.mem_map.mp mem
      rw [← isLive_hold owed, isLive_iff]
      exact .inr ⟨r', held r' taken⟩
    exact listed.lists.pairwise among live fun k mem =>
      Nat.le_of_eq (tidy k (among.subset mem) (live k mem))
  · have start : Traced [] ({ order } : Outbox) := .of_empty rfl rfl rfl
    obtain ⟨loose, traced⟩ := start.after (Listed.start order) nofun admits none
    intro id mem live
    have listed := List.count_pos_iff.mpr mem
    have once := (traced.once id live).2
    exact Nat.le_antisymm once listed

/-- The result of the first id comes in order of completion, those of the others in order of submission. Then two
of the others come back, the later one first, and are completed once more. -/
def comingBack : List Op :=
  let result (n : Nat) : TaskResult := ⟨.ofNat n, .ok .null, "ann"⟩
  [.addPending ⟨1⟩, .addPending ⟨2⟩, .addPending ⟨3⟩, .addCompleted (result 1), .takeOne, .setOrder .submission,
    .addCompleted (result 3), .addPending ⟨4⟩, .addCompleted (result 2), .takeAll, .addPending ⟨3⟩,
    .addPending ⟨2⟩, .addCompleted (result 2), .addCompleted (result 3)]

/-- Both wait for the fourth id, and are released in the order in which they have come back. -/
theorem respects_order_comingBack :
    let o := after {} comingBack
    let subs := comingBack.filterMap Op.submission?
    let r : TaskResult := ⟨⟨4⟩, .ok .null, "ann"⟩
    admitsAll {} comingBack = true ∧ noneReturns {} [] comingBack = true ∧ o.order = .submission ∧
      o.held.keys = [⟨2⟩, ⟨3⟩] ∧ (∃ j ∈ o.outstanding, LastBefore subs j ⟨2⟩) ∧
      (o.released r).map TaskResult.id = [⟨4⟩, ⟨3⟩, ⟨2⟩] ∧
      ((o.released r).map TaskResult.id).Pairwise (LastBefore subs) := by
  intro o subs r
  have admits : admitsAll {} comingBack = true := by decide
  have none : noneReturns {} [] comingBack = true := by decide
  obtain ⟨-, respects, tidy⟩ := respects_order .completion comingBack admits
  obtain ⟨waits, released⟩ := respects (tidy none)
  have held : o.held.get? ⟨2⟩ = some ⟨⟨2⟩, .ok .null, "ann"⟩ := rfl
  exact ⟨admits, none, rfl, by decide, waits ⟨2⟩ _ held, by decide, released rfl r (by decide)⟩

/-- The result of the first id comes in order of completion. The id comes back behind another one, whose result
comes in order of submission. -/
def returned : List Op :=
  let result (n : Nat) : TaskResult := ⟨.ofNat n, .ok .null, "ann"⟩
  [.addPending ⟨1⟩, .addCompleted (result 1), .takeOne, .addPending ⟨2⟩, .addPending ⟨1⟩,
    .setOrder .submission, .addCompleted (result 2)]

/-- **An old entry comes back to life.** The second id is held, although no id is owed that was last submitted
before it, for the first one is listed in front of it still. When the result of that one comes, too, the two are
released against the order of their submissions. -/
theorem respects_order_returned :
    let o := after {} returned
    let subs := returned.filterMap Op.submission?
    let r : TaskResult := ⟨⟨1⟩, .ok .null, "ann"⟩
    admitsAll {} returned = true ∧ o.order = .submission ∧
      o.held.keys = [⟨2⟩] ∧ (∀ j ∈ o.outstanding, ¬ LastBefore subs j ⟨2⟩) ∧
      r.id ∈ o.outstanding ∧ ¬ ((o.released r).map TaskResult.id).Pairwise (LastBefore subs) := by
  decide

end Outbox

end WorkFarm
