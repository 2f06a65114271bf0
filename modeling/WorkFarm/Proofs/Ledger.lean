import Mathlib.Data.List.Nodup
import Mathlib.Data.List.Perm.Basic
import WorkFarm.Proofs.Outbox
/-!
# The outbox as a ledger

An outbox keeps one list of everything that was ever submitted, and does not strike an id from it when
the result of this id comes in order of completion. Such a stale id is passed over when the list is
walked, and is dropped with all others of its kind when there are too many of them, or when the order of
delivery changes. None of this may show.

The ledger says what is meant. It is a list of submissions, each of which owes its result or holds it,
and a log of the results that are ready. Nothing in a ledger is ever stale. An outbox and a ledger that
go through the same operations give the same answers (`answers_eq`), as long as no id is submitted twice
and only such ids are completed as owe a result.

What ties the two together is `Outbox.Reflects`: the ids of the submissions stand in the list of the
outbox in their order, and whatever else stands there is neither owed nor held. A sublist says just
that, and every way in which stale ids are dropped leaves the sublist alone.

## Main definitions

* `Submission`, `Ledger` — submissions in order, and a log of results
* `Outbox.Op`, `Outbox.answers`, `Ledger.answers` — what is done to either, and what is seen of it
* `Outbox.Reflects` — an outbox stands where a ledger stands
-/

namespace WorkFarm

/-- A submitted task, with its result if that has come and is held. -/
structure Submission where
  id : TaskId
  result? : Option TaskResult := none

namespace Submission

/-- Whether the result of a submission is held. -/
def holds (s : Submission) : Bool := s.result?.isSome

/-- A submission holds a result from now on, if it is that of its id. -/
def receive (r : TaskResult) (s : Submission) : Submission :=
  if s.id = r.id then { s with result? := some r } else s

@[simp] theorem id_receive (r : TaskResult) (s : Submission) : (s.receive r).id = s.id := by
  unfold receive
  split <;> rfl

theorem result?_receive (r : TaskResult) (s : Submission) :
    (s.receive r).result? = if s.id = r.id then some r else s.result? := by
  unfold receive
  split <;> rfl

theorem holds_receive (r : TaskResult) (s : Submission) :
    (s.receive r).holds = (decide (s.id = r.id) || s.holds) := by
  rw [holds, result?_receive, holds]
  split <;> simp [*]

end Submission

/-- The submissions whose results are not ready, oldest first, and the results that are. -/
structure Ledger where
  /-- The order of delivery for results to come. -/
  order : DeliveryOrder := .completion
  submissions : List Submission := []
  /-- The results that are ready, the next one first. -/
  log : List TaskResult := []

namespace Ledger

def addPending (l : Ledger) (id : TaskId) : Ledger :=
  { l with submissions := l.submissions ++ [{ id }] }

/-- Moves results to the log as long as the first submission holds one. -/
def release (l : Ledger) : Ledger :=
  { l with
    submissions := l.submissions.dropWhile Submission.holds
    log := l.log ++ (l.submissions.takeWhile Submission.holds).filterMap Submission.result? }

/-- Notes that the submission of a result holds it. -/
def hold (l : Ledger) (r : TaskResult) : Ledger :=
  { l with submissions := l.submissions.map (Submission.receive r) }

/-- Strikes the submission of a result, which is ready at once. -/
def strike (l : Ledger) (r : TaskResult) : Ledger :=
  { l with submissions := l.submissions.filter (·.id ≠ r.id), log := l.log ++ [r] }

def addCompleted (l : Ledger) (r : TaskResult) : Ledger :=
  match l.order with
  | .completion => l.strike r
  | .submission => (l.hold r).release

/-- Leaving order of submission moves all results that are held to the log. -/
def setOrder (l : Ledger) (order : DeliveryOrder) : Ledger :=
  if l.order = .submission ∧ order = .completion then
    { order
      submissions := l.submissions.filter (!·.holds)
      log := l.log ++ l.submissions.filterMap Submission.result? }
  else { l with order }

/-- Takes the first `k` results of the log, or all if there are fewer. -/
def take (l : Ledger) (k : Nat) : List TaskResult × Ledger :=
  (l.log.take k, { l with log := l.log.drop k })

/-- Whether some submission of the id owes its result. -/
def owes (l : Ledger) (id : TaskId) : Bool := l.submissions.any fun s => s.id = id && !s.holds

end Ledger

namespace Ledger

variable {l : Ledger} {id : TaskId} {later : List Submission}

theorem release_of_nil (none : l.submissions = []) : l.release = l := by
  cases l
  simp_all [release]

theorem release_of_held {r : TaskResult}
    (first : l.submissions = { id, result? := some r } :: later) :
    l.release = release { l with submissions := later, log := l.log ++ [r] } := by
  simp [release, first, List.takeWhile_cons, List.dropWhile_cons, Submission.holds]

theorem release_of_owed (first : l.submissions = { id } :: later) : l.release = l := by
  cases l
  simp_all [release, Submission.holds]

end Ledger

namespace Outbox

/-- What can be done to an outbox. -/
inductive Op where
  | addPending (id : TaskId)
  | addCompleted (r : TaskResult)
  | setOrder (order : DeliveryOrder)
  | takeOne
  | takeFirst (k : Nat)
  | takeAll
  /-- Results are put back in front, those of the last taking or any others. -/
  | restoreFront (rs : List TaskResult)
  | clear

/-- The id that is submitted, if one is. -/
def Op.submission? : Op → Option TaskId
  | .addPending id => some id
  | _ => none

/-- What is seen of an outbox after an operation: the results that were taken, the order of delivery,
the number of results that are not ready and of those that are, and whether one is, whether the last one
is, and whether there is nothing at all. -/
structure View where
  taken : List TaskResult
  order : DeliveryOrder
  pending : Nat
  available : Nat
  one : Bool
  all : Bool
  empty : Bool

/-- Does an operation; the result is what was taken. -/
def perform (o : Outbox) : Op → List TaskResult × Outbox
  | .addPending id => ([], o.addPending id)
  | .addCompleted r => ([], o.addCompleted r)
  | .setOrder order => ([], o.setOrder order)
  | .takeOne =>
    match o.takeOne? with
    | none => ([], o)
    | some (r, o) => ([r], o)
  | .takeFirst k => o.takeFirst k
  | .takeAll => o.takeAll
  | .restoreFront rs => ([], o.restoreFront rs)
  | .clear => ([], o.clear)

def view (o : Outbox) (taken : List TaskResult) : View where
  taken := taken
  order := o.order
  pending := o.countPending
  available := o.countAvailable
  one := o.isOneAvailable
  all := o.areAllAvailable
  empty := o.isEmpty

/-- What is seen after each operation. -/
def answers (o : Outbox) : List Op → List View
  | [] => []
  | op :: ops => (o.perform op).2.view (o.perform op).1 :: (o.perform op).2.answers ops

end Outbox

namespace Ledger

open Outbox (Op View)

/-- Does to a ledger what the operation does to an outbox. -/
def perform (l : Ledger) : Op → List TaskResult × Ledger
  | .addPending id => ([], l.addPending id)
  | .addCompleted r => ([], l.addCompleted r)
  | .setOrder order => ([], l.setOrder order)
  | .takeOne => l.take 1
  | .takeFirst k => l.take k
  | .takeAll => l.take l.log.length
  | .restoreFront rs => ([], { l with log := rs ++ l.log })
  | .clear => ([], { order := l.order })

def view (l : Ledger) (taken : List TaskResult) : View where
  taken := taken
  order := l.order
  pending := l.submissions.length
  available := l.log.length
  one := !l.log.isEmpty
  all := l.submissions.isEmpty && !l.log.isEmpty
  empty := l.submissions.isEmpty && l.log.isEmpty

/-- What is seen after each operation. -/
def answers (l : Ledger) : List Op → List View
  | [] => []
  | op :: ops => (l.perform op).2.view (l.perform op).1 :: (l.perform op).2.answers ops

/-- Whether an operation brings no result, or one that is owed. -/
def accepts (l : Ledger) : Op → Bool
  | .addCompleted r => l.owes r.id
  | _ => true

/-- Whether only such ids are completed as owe a result. -/
def acceptsAll (l : Ledger) : List Op → Bool
  | [] => true
  | op :: ops => l.accepts op && (l.perform op).2.acceptsAll ops

end Ledger

namespace Outbox

/-- The outbox stands where the ledger stands, when the ids in `seen` have been submitted. -/
structure Reflects (seen : List TaskId) (o : Outbox) (l : Ledger) : Prop where
  order : o.order = l.order
  available : o.available = l.log
  outstanding : o.outstanding = (l.submissions.filter (!·.holds)).map Submission.id
  /-- What a submission holds is held. -/
  held : ∀ s ∈ l.submissions, o.held.get? s.id = s.result?
  /-- Nothing else is held. -/
  stray : ∀ id, id ∉ l.submissions.map Submission.id → o.held.get? id = none
  /-- The submissions are listed in their order, among stale ids. -/
  listed : (l.submissions.map Submission.id).Sublist o.submitted
  /-- Whatever is listed has been submitted. -/
  known : o.submitted.Sublist seen
  once : seen.Nodup

namespace Reflects

variable {seen : List TaskId} {o : Outbox} {l : Ledger}

theorem nodup_submitted (reflects : Reflects seen o l) : o.submitted.Nodup :=
  reflects.once.sublist reflects.known

theorem nodup (reflects : Reflects seen o l) : (l.submissions.map Submission.id).Nodup :=
  reflects.nodup_submitted.sublist reflects.listed

theorem start (order : DeliveryOrder) : Reflects [] { order } { order } where
  order := rfl
  available := rfl
  outstanding := rfl
  held _ mem := absurd mem List.not_mem_nil
  stray _ _ := rfl
  listed := List.Sublist.refl _
  known := List.Sublist.refl _
  once := List.nodup_nil

/-! ### What is seen of the two -/

/-- As many results are held as submissions hold one. -/
theorem size_held (reflects : Reflects seen o l) :
    o.held.size = (l.submissions.filter Submission.holds).length := by
  have nodup : ((l.submissions.filter Submission.holds).map Submission.id).Nodup :=
    reflects.nodup.sublist (List.filter_sublist.map _)
  have perm : o.held.keys.Perm ((l.submissions.filter Submission.holds).map Submission.id) := by
    refine (List.perm_ext_iff_of_nodup o.held.nodup nodup).mpr ?_
    intro id
    rw [show id ∈ o.held.entries.map Prod.fst ↔ (o.held.get? id).isSome = true from
      o.held.mem_keys_iff id]
    constructor
    · intro some
      have live : id ∈ l.submissions.map Submission.id := by
        by_contra absent
        simp [reflects.stray id absent] at some
      obtain ⟨s, mem, rfl⟩ := List.mem_map.mp live
      rw [reflects.held s mem] at some
      exact List.mem_map_of_mem (List.mem_filter.mpr ⟨mem, some⟩)
    · intro holding
      obtain ⟨s, among, rfl⟩ := List.mem_map.mp holding
      obtain ⟨mem, holds⟩ := List.mem_filter.mp among
      rw [reflects.held s mem]
      exact holds
  rw [Table.size_eq_length_keys, perm.length_eq, List.length_map]

theorem countPending (reflects : Reflects seen o l) : o.countPending = l.submissions.length := by
  have split := List.length_eq_length_filter_add (l := l.submissions) Submission.holds
  rw [Outbox.countPending, reflects.outstanding, reflects.size_held, List.length_map]
  omega

theorem view_eq (reflects : Reflects seen o l) (taken : List TaskResult) :
    o.view taken = l.view taken := by
  have pending := reflects.countPending
  have none : (l.submissions.length == 0) = l.submissions.isEmpty := by
    cases l.submissions <;> rfl
  simp only [view, Ledger.view, countAvailable, isOneAvailable, areAllAvailable, isEmpty, pending,
    none, reflects.order, reflects.available, Bool.not_not]

/-! ### Stale ids may be dropped -/

theorem isLive (reflects : Reflects seen o l) {s : Submission} (mem : s ∈ l.submissions) :
    o.isLive s.id = true := by
  have held := reflects.held s mem
  by_cases holds : s.holds
  · simp only [Outbox.isLive, Table.contains, held]
    simp [show s.result?.isSome from holds]
  · have owed : s.id ∈ o.outstanding := by
      rw [reflects.outstanding]
      exact List.mem_map_of_mem (List.mem_filter.mpr ⟨mem, by simpa using holds⟩)
    simp [Outbox.isLive, owed]

theorem compact (reflects : Reflects seen o l) : Reflects seen o.compact l := by
  unfold Outbox.compact
  split
  · exact reflects
  · have live : (l.submissions.map Submission.id).filter o.isLive
        = l.submissions.map Submission.id := by
      refine List.filter_eq_self.mpr ?_
      intro id live
      obtain ⟨s, mem, rfl⟩ := List.mem_map.mp live
      exact reflects.isLive mem
    exact { reflects with
      listed := live ▸ reflects.listed.filter o.isLive
      known := List.filter_sublist.trans reflects.known }

/-! ### The walk from the front -/

/-- A live id in front of the list is that of the first submission. -/
theorem first {id : TaskId} {rest : List TaskId}
    (reflects : Reflects seen { o with submitted := id :: rest } l)
    (live : id ∈ l.submissions.map Submission.id) :
    ∃ later, l.submissions = { id, result? := o.held.get? id } :: later := by
  have apart : id ∉ rest := (List.nodup_cons.mp reflects.nodup_submitted).1
  have inFront : ∃ ids, l.submissions.map Submission.id = id :: ids := by
    rcases List.sublist_cons_iff.mp reflects.listed with later | ⟨ids, eq, -⟩
    · exact absurd (later.subset live) apart
    · exact ⟨ids, eq⟩
  obtain ⟨ids, eq⟩ := inFront
  obtain ⟨s, later, first, rfl, -⟩ := List.map_eq_cons_iff.mp eq
  have held := reflects.held s (first ▸ List.mem_cons_self)
  exact ⟨later, held ▸ first⟩

/-- When the result of the first submission has become available, it is a submission no longer. -/
theorem tail {id : TaskId} {rest : List TaskId} {r : TaskResult} {later : List Submission}
    (reflects : Reflects seen { o with submitted := id :: rest } l)
    (first : l.submissions = { id, result? := some r } :: later) :
    Reflects seen
      { o with
        submitted := rest
        held := o.held.erase id
        available := o.available ++ [r] }
      { l with submissions := later, log := l.log ++ [r] } := by
  have nodup := reflects.nodup
  rw [first, List.map_cons, List.nodup_cons] at nodup
  have other : ∀ s ∈ later, s.id ≠ id := fun s mem same =>
    nodup.1 (List.mem_map.mpr ⟨s, mem, same⟩)
  refine
    { order := reflects.order
      available := by rw [← reflects.available]
      outstanding := ?_
      held := ?_
      stray := ?_
      listed := ?_
      known := (List.sublist_cons_self id rest).trans reflects.known
      once := reflects.once }
  · have outstanding := reflects.outstanding
    rw [first] at outstanding
    simpa [Submission.holds] using outstanding
  · intro s mem
    have held := reflects.held s (first ▸ List.mem_cons_of_mem _ mem)
    simpa [Table.get?_erase, other s mem] using held
  · intro j absent
    dsimp only
    rw [Table.get?_erase]
    split
    · rfl
    · rename_i apart
      refine reflects.stray j ?_
      rw [first, List.map_cons, List.mem_cons, not_or]
      exact ⟨apart, absent⟩
  · have listed := reflects.listed
    rw [first] at listed
    exact listed.of_cons_cons

/-- The walk moves the results of the first submissions, and drops the stale ids among them. -/
theorem releaseFrom {ids : List TaskId} (reflects : Reflects seen { o with submitted := ids } l) :
    Reflects seen (o.releaseFrom ids) l.release := by
  induction ids generalizing o l with
  | nil =>
    have none : l.submissions = [] := by simpa using reflects.listed
    rw [Ledger.release_of_nil none]
    exact reflects
  | cons id rest ih =>
    unfold Outbox.releaseFrom
    split
    · rename_i r held
      have live : id ∈ l.submissions.map Submission.id := by
        by_contra absent
        simpa [held] using reflects.stray id absent
      obtain ⟨later, first⟩ := reflects.first live
      rw [held] at first
      rw [Ledger.release_of_held first]
      exact ih (reflects.tail first)
    · rename_i free
      split
      -- the first submission owes its result, and the walk is over
      · rename_i owed
        have live : id ∈ l.submissions.map Submission.id := by
          have owed : id ∈ o.outstanding := by simpa using owed
          rw [reflects.outstanding] at owed
          exact (List.filter_sublist.map _).subset owed
        obtain ⟨later, first⟩ := reflects.first live
        rw [free] at first
        rw [Ledger.release_of_owed first]
        exact reflects
      · rename_i paid
        have stale : id ∉ l.submissions.map Submission.id := by
          intro live
          obtain ⟨s, mem, rfl⟩ := List.mem_map.mp live
          have live := reflects.isLive mem
          simp_all [Outbox.isLive, Table.contains]
        refine ih { reflects with listed := ?_, known := ?_ }
        · rcases List.sublist_cons_iff.mp reflects.listed with listed | ⟨ids, eq, -⟩
          · exact listed
          · exact absurd (eq ▸ List.mem_cons_self) stale
        · exact (List.sublist_cons_self id rest).trans reflects.known

/-! ### Submitting and completing -/

theorem addPending (reflects : Reflects seen o l) {id : TaskId} (new : id ∉ seen) :
    Reflects (seen ++ [id]) (o.addPending id) (l.addPending id) := by
  have absent : id ∉ l.submissions.map Submission.id := fun live =>
    new (reflects.known.subset (reflects.listed.subset live))
  have unpaid : id ∉ o.outstanding := fun owed =>
    absent ((List.filter_sublist.map _).subset (reflects.outstanding ▸ owed))
  have added : o.addPending id
      = { o with outstanding := o.outstanding ++ [id], submitted := o.submitted ++ [id] } := by
    simp [Outbox.addPending, unpaid]
  rw [added]
  refine
    { order := reflects.order
      available := reflects.available
      outstanding := ?_
      held := ?_
      stray := ?_
      listed := ?_
      known := reflects.known.append (List.Sublist.refl _)
      once := ?_ }
  · simp [Ledger.addPending, reflects.outstanding, Submission.holds]
  · intro s mem
    rcases List.mem_append.mp mem with mem | mem
    · exact reflects.held s mem
    · rw [List.mem_singleton] at mem
      subst mem
      exact reflects.stray id absent
  · intro j free
    refine reflects.stray j fun live => free ?_
    simpa [Ledger.addPending] using Or.inl (List.mem_map.mp live)
  · simpa [Ledger.addPending] using reflects.listed.append (List.Sublist.refl [id])
  · refine List.nodup_append.mpr ⟨reflects.once, List.nodup_singleton id, ?_⟩
    intro j mem k here same
    exact new (List.mem_singleton.mp here ▸ same ▸ mem)

/-- The debt of a submission is settled when it holds its result or is struck. -/
theorem erase_outstanding (reflects : Reflects seen o l) (id : TaskId) :
    o.outstanding.erase id
      = (l.submissions.filter fun s => !s.holds && decide (s.id ≠ id)).map Submission.id := by
  have nodup : o.outstanding.Nodup := by
    rw [reflects.outstanding]
    exact reflects.nodup.sublist (List.filter_sublist.map _)
  rw [nodup.erase_eq_filter, reflects.outstanding, List.filter_map, List.filter_filter]
  congr 1
  refine List.filter_congr fun s _ => ?_
  by_cases same : s.id = id <;> simp [same]

/-- An id that owes its result holds none. -/
theorem held_eq_none (reflects : Reflects seen o l) {id : TaskId} (owes : l.owes id = true) :
    id ∈ l.submissions.map Submission.id ∧ o.held.get? id = none := by
  obtain ⟨s, mem, same⟩ := List.any_eq_true.mp owes
  rw [Bool.and_eq_true, decide_eq_true_iff] at same
  obtain ⟨rfl, owing⟩ := same
  refine ⟨List.mem_map_of_mem mem, (reflects.held s mem).trans ?_⟩
  simpa [Submission.holds] using owing

/-- A result that is ready at once. -/
theorem strike (reflects : Reflects seen o l) {r : TaskResult} (owes : l.owes r.id = true) :
    Reflects seen
      { o with outstanding := o.outstanding.erase r.id, available := o.available ++ [r] }
      (l.strike r) := by
  refine
    { order := reflects.order
      available := by rw [Ledger.strike, reflects.available]
      outstanding := ?_
      held := fun s mem => reflects.held s (List.mem_filter.mp mem).1
      stray := ?_
      listed := (List.filter_sublist.map _).trans reflects.listed
      known := reflects.known
      once := reflects.once }
  · rw [Ledger.strike, List.filter_filter]
    exact reflects.erase_outstanding r.id
  · intro id absent
    by_cases same : id = r.id
    · rw [same]
      exact (reflects.held_eq_none owes).2
    · refine reflects.stray id fun live => absent ?_
      obtain ⟨s, mem, rfl⟩ := List.mem_map.mp live
      exact List.mem_map_of_mem (List.mem_filter.mpr ⟨mem, by simpa using same⟩)

/-- A result that is held. -/
theorem hold (reflects : Reflects seen o l) {r : TaskResult} (owes : l.owes r.id = true) :
    Reflects seen
      { o with outstanding := o.outstanding.erase r.id, held := o.held.insert r.id r }
      (l.hold r) := by
  have ids : (l.hold r).submissions.map Submission.id = l.submissions.map Submission.id := by
    rw [Ledger.hold, List.map_map]
    exact List.map_congr_left fun s _ => s.id_receive r
  refine
    { order := reflects.order
      available := reflects.available
      outstanding := ?_
      held := ?_
      stray := ?_
      listed := ids ▸ reflects.listed
      known := reflects.known
      once := reflects.once }
  · dsimp only [Ledger.hold]
    rw [reflects.erase_outstanding r.id, List.filter_map, List.map_map]
    have owing : l.submissions.filter ((!·.holds) ∘ Submission.receive r)
        = l.submissions.filter fun s => !s.holds && decide (s.id ≠ r.id) := by
      refine List.filter_congr fun s _ => ?_
      simp [Submission.holds_receive, Bool.and_comm]
    rw [owing]
    exact List.map_congr_left fun s _ => (s.id_receive r).symm
  · intro received mem
    obtain ⟨s, among, rfl⟩ := List.mem_map.mp mem
    dsimp only
    rw [Table.get?_insert, Submission.id_receive, Submission.result?_receive,
      reflects.held s among]
  · intro id absent
    rw [ids] at absent
    have other : id ≠ r.id := fun same => absent (same ▸ (reflects.held_eq_none owes).1)
    dsimp only
    rw [Table.get?_insert, if_neg other]
    exact reflects.stray id absent

theorem addCompleted (reflects : Reflects seen o l) {r : TaskResult} (owes : l.owes r.id = true) :
    Reflects seen (o.addCompleted r) (l.addCompleted r) := by
  unfold Outbox.addCompleted Ledger.addCompleted
  rw [← reflects.order]
  cases order : o.order with
  | completion =>
    dsimp only
    exact (order ▸ reflects.strike owes).compact
  | submission =>
    dsimp only
    exact (order ▸ reflects.hold owes).releaseFrom

/-! ### A new order of delivery -/

/-- The results of the ids that are listed become available, and those ids stay listed that owe one. -/
theorem releaseAllFrom_fields {ids : List TaskId} (nodup : ids.Nodup) (o : Outbox)
    (kept : List TaskId) :
    (o.releaseAllFrom kept ids).order = o.order ∧
      (o.releaseAllFrom kept ids).outstanding = o.outstanding ∧
      (o.releaseAllFrom kept ids).available = o.available ++ ids.filterMap o.held.get? ∧
      (o.releaseAllFrom kept ids).submitted = kept ++ ids.filter (fun id =>
        (o.held.get? id).isNone && o.outstanding.contains id) ∧
      ∀ j, (o.releaseAllFrom kept ids).held.get? j
        = if j ∈ ids then none else o.held.get? j := by
  induction ids generalizing o kept with
  | nil => simp [Outbox.releaseAllFrom]
  | cons id rest ih =>
    obtain ⟨apart, nodup⟩ := List.nodup_cons.mp nodup
    unfold Outbox.releaseAllFrom
    split
    · rename_i r held
      -- the rest of the walk does not see that the id is held no more
      have same : ∀ j ∈ rest, (o.held.erase id).get? j = o.held.get? j := fun j mem => by
        rw [Table.get?_erase, if_neg (ne_of_mem_of_not_mem mem apart)]
      obtain ⟨order, outstanding, available, submitted, later⟩ :=
        ih nodup { o with held := o.held.erase id, available := o.available ++ [r] } kept
      refine ⟨order, outstanding, ?_, ?_, ?_⟩
      · rw [available, List.filterMap_cons_some held, List.filterMap_congr same, List.append_assoc]
        rfl
      · rw [submitted, List.filter_cons_of_neg (by simp [held])]
        congr 1
        exact List.filter_congr fun j mem => by rw [same j mem]
      · intro j
        rw [later, Table.get?_erase]
        by_cases here : j = id
        · simp [here]
        · simp [here]
    · rename_i free
      obtain ⟨order, outstanding, available, submitted, later⟩ :=
        ih nodup o (if o.outstanding.contains id then kept ++ [id] else kept)
      refine ⟨order, outstanding, ?_, ?_, ?_⟩
      · rw [available, List.filterMap_cons_none free]
      · rw [submitted, List.filter_cons, free]
        by_cases owed : o.outstanding.contains id = true
        · simp only [owed, if_true, Option.isNone_none, Bool.true_and, List.append_assoc]
          rfl
        · simp only [owed, Bool.false_eq_true, if_false, Option.isNone_none, Bool.true_and]
      · intro j
        rw [later]
        by_cases here : j = id
        · simp [here, free]
        · simp [here]

/-- Without the stale ids, the list of the outbox is that of the submissions. -/
theorem filter_submitted (reflects : Reflects seen o l) :
    o.submitted.filter (· ∈ l.submissions.map Submission.id) = l.submissions.map Submission.id := by
  set ids := l.submissions.map Submission.id
  have sub : ids.Sublist (o.submitted.filter (· ∈ ids)) := by
    have all : ids.filter (· ∈ ids) = ids := List.filter_eq_self.mpr fun id mem => by simpa using mem
    have listed : ids.Sublist o.submitted := reflects.listed
    have sub := listed.filter (· ∈ ids)
    rwa [all] at sub
  have few : (o.submitted.filter (· ∈ ids)).length ≤ ids.length := by
    refine (List.subperm_of_subset (reflects.nodup_submitted.filter _) ?_).length_le
    intro id mem
    simpa using (List.mem_filter.mp mem).2
  exact (sub.eq_of_length_le few).symm

/-- What is held, in the order of the list, is what the submissions hold. -/
theorem filterMap_submitted (reflects : Reflects seen o l) :
    o.submitted.filterMap o.held.get? = l.submissions.filterMap Submission.result? := by
  calc o.submitted.filterMap o.held.get?
      = (o.submitted.filter (· ∈ l.submissions.map Submission.id)).filterMap o.held.get? := by
        rw [List.filterMap_filter]
        refine List.filterMap_congr fun id _ => ?_
        split
        · rfl
        · rename_i stale
          exact reflects.stray id (by simpa using stale)
    _ = (l.submissions.map Submission.id).filterMap o.held.get? := by
        rw [reflects.filter_submitted]
    _ = l.submissions.filterMap Submission.result? := by
        rw [List.filterMap_map]
        exact List.filterMap_congr reflects.held

/-- Releasing everything that is held. -/
theorem releaseAll (reflects : Reflects seen o l) (order : DeliveryOrder) :
    Reflects seen (Outbox.releaseAllFrom { o with order } [] o.submitted)
      { order
        submissions := l.submissions.filter (!·.holds)
        log := l.log ++ l.submissions.filterMap Submission.result? } := by
  obtain ⟨order_eq, outstanding, available, submitted, held⟩ :=
    releaseAllFrom_fields reflects.nodup_submitted { o with order } []
  refine
    { order := order_eq
      available := ?_
      outstanding := ?_
      held := ?_
      stray := ?_
      listed := ?_
      known := ?_
      once := reflects.once }
  · rw [available, ← reflects.filterMap_submitted, reflects.available]
  · rw [outstanding, List.filter_filter]
    simpa using reflects.outstanding
  · intro s mem
    obtain ⟨mem, owing⟩ := List.mem_filter.mp mem
    have owing : s.result? = none := by simpa [Submission.holds] using owing
    rw [held, reflects.held s mem, owing, ite_self]
  · intro id _
    rw [held]
    split
    · rfl
    · rename_i unlisted
      exact reflects.stray id fun live => unlisted (reflects.listed.subset live)
  · rw [submitted, List.nil_append]
    have owing : ∀ id ∈ (l.submissions.filter (!·.holds)).map Submission.id,
        ((o.held.get? id).isNone && o.outstanding.contains id) = true := by
      intro id owed
      obtain ⟨s, among, rfl⟩ := List.mem_map.mp owed
      obtain ⟨mem, owes⟩ := List.mem_filter.mp among
      have free : (o.held.get? s.id).isNone := by
        rw [reflects.held s mem]
        simpa [Submission.holds] using owes
      rw [← reflects.outstanding] at owed
      simp [free, owed]
    have listed : ((l.submissions.filter (!·.holds)).map Submission.id).Sublist o.submitted :=
      (List.filter_sublist.map _).trans reflects.listed
    exact List.filter_eq_self.mpr owing ▸ listed.filter _
  · rw [submitted, List.nil_append]
    exact List.filter_sublist.trans reflects.known

theorem setOrder (reflects : Reflects seen o l) (order : DeliveryOrder) :
    Reflects seen (o.setOrder order) (l.setOrder order) := by
  have release := reflects.releaseAll order
  have keep : Reflects seen { o with order } { l with order } := { reflects with order := rfl }
  by_cases leaving : l.order = .submission ∧ order = .completion
  · have moved : l.setOrder order =
        { order
          submissions := l.submissions.filter (!·.holds)
          log := l.log ++ l.submissions.filterMap Submission.result? } := if_pos leaving
    obtain ⟨before, rfl⟩ := leaving
    have change : o.order ≠ .completion := by simp [reflects.order, before]
    rw [Outbox.setOrder, if_neg change]
    dsimp only
    split
    · exact moved ▸ release
    -- nothing is held, so there is nothing to release
    · rename_i empty
      have size : o.held.size = 0 := by
        simpa [Table.isEmpty, Table.size] using empty
      have owes : ∀ s ∈ l.submissions, s.result? = none := fun s mem => by
        rw [← reflects.held s mem]
        exact (Table.size_eq_zero_iff _).mp size s.id
      have none : l.submissions.filterMap Submission.result? = [] :=
        List.filterMap_eq_nil_iff.mpr owes
      have all : l.submissions.filter (!·.holds) = l.submissions :=
        List.filter_eq_self.mpr fun s mem => by simp [Submission.holds, owes s mem]
      rw [moved, none, all, List.append_nil]
      exact keep
  · have moved : l.setOrder order = { l with order } := if_neg leaving
    rw [moved, Outbox.setOrder]
    split
    · rename_i same
      exact { reflects with order := same }
    · rename_i change
      rw [reflects.order] at change
      have entering : order = .submission := by
        cases order <;> cases before : l.order <;> simp_all
      rw [entering] at keep ⊢
      simpa using keep

/-! ### Every operation -/

/-- The results that are ready may change at will, if they do so in both. -/
theorem of_available (reflects : Reflects seen o l) (rs : List TaskResult) :
    Reflects seen { o with available := rs } { l with log := rs } :=
  { reflects with available := rfl }

/-- An operation that submits nothing. -/
theorem of_submission?_eq_none {op : Op} (quiet : op.submission? = none)
    (reflects : Reflects seen o l) : Reflects (seen ++ op.submission?.toList) o l := by
  rw [quiet, Option.toList_none, List.append_nil]
  exact reflects

theorem takeFirst (reflects : Reflects seen o l) (k : Nat) :
    (o.takeFirst k).1 = (l.take k).1 ∧ Reflects seen (o.takeFirst k).2 (l.take k).2 := by
  rw [Outbox.takeFirst, Ledger.take, reflects.available]
  exact ⟨rfl, reflects.of_available (l.log.drop k)⟩

theorem takeFirst_of_takeOne?_eq_none {k : Nat} (none : o.takeOne? = none) :
    o.takeFirst k = ([], o) := by
  cases o with
  | mk order outstanding submitted held available =>
    cases available with
    | nil => simp [Outbox.takeFirst]
    | cons r rest => cases none

/-- **Every operation brings the same results to light**, and the outbox stands where the ledger does. -/
theorem perform (reflects : Reflects seen o l) (op : Op) (new : ∀ id ∈ op.submission?, id ∉ seen)
    (accepts : l.accepts op = true) :
    (o.perform op).1 = (l.perform op).1 ∧
      Reflects (seen ++ op.submission?.toList) (o.perform op).2 (l.perform op).2 := by
  cases op with
  | addPending id => exact ⟨rfl, reflects.addPending (new id rfl)⟩
  | addCompleted r => exact ⟨rfl, of_submission?_eq_none rfl (reflects.addCompleted accepts)⟩
  | setOrder order => exact ⟨rfl, of_submission?_eq_none rfl (reflects.setOrder order)⟩
  | takeOne =>
    have take := reflects.takeFirst 1
    have one : o.perform .takeOne = o.takeFirst 1 := by
      unfold Outbox.perform
      cases taken : o.takeOne? with
      | none => rw [takeFirst_of_takeOne?_eq_none taken]
      | some first => rw [takeFirst_one_of_takeOne? taken]
    rw [one]
    exact ⟨take.1, of_submission?_eq_none rfl take.2⟩
  | takeFirst k =>
    have take := reflects.takeFirst k
    exact ⟨take.1, of_submission?_eq_none rfl take.2⟩
  | takeAll =>
    have take := reflects.takeFirst l.log.length
    have all : o.perform .takeAll = o.takeFirst l.log.length := by
      rw [← reflects.available]
      exact o.takeAll_eq_takeFirst
    rw [all]
    exact ⟨take.1, of_submission?_eq_none rfl take.2⟩
  | restoreFront rs =>
    have restored : (o.perform (.restoreFront rs)).2 = { o with available := rs ++ l.log } := by
      rw [← reflects.available]
      rfl
    refine ⟨rfl, of_submission?_eq_none rfl ?_⟩
    rw [restored]
    exact reflects.of_available (rs ++ l.log)
  | clear =>
    refine ⟨rfl, of_submission?_eq_none rfl ?_⟩
    exact
      { order := reflects.order
        available := rfl
        outstanding := rfl
        held := fun _ mem => absurd mem List.not_mem_nil
        stray := fun _ _ => rfl
        listed := List.Sublist.refl _
        known := List.nil_sublist _
        once := reflects.once }

/-- What is seen of the two is the same after every operation. -/
theorem answers_eq (ops : List Op) (reflects : Reflects seen o l)
    (once : (seen ++ ops.filterMap Op.submission?).Nodup) (accepts : l.acceptsAll ops = true) :
    o.answers ops = l.answers ops := by
  induction ops generalizing seen o l with
  | nil => rfl
  | cons op ops ih =>
    obtain ⟨first, rest⟩ := Bool.and_eq_true_iff.mp accepts
    have split : (op :: ops).filterMap Op.submission?
        = op.submission?.toList ++ ops.filterMap Op.submission? := by
      rw [List.filterMap_cons]
      cases op.submission? <;> rfl
    rw [split, ← List.append_assoc] at once
    have new : ∀ id ∈ op.submission?, id ∉ seen := by
      intro id submitted known
      have apart := (List.nodup_append.mp (List.nodup_append.mp once).1).2.2
      exact apart id known id (Option.mem_toList.mpr submitted) rfl
    obtain ⟨taken, reflects⟩ := reflects.perform op new first
    rw [Outbox.answers, Ledger.answers, taken, reflects.view_eq, ih reflects once rest]

end Reflects

/-- **An outbox is a ledger.** If no id is submitted twice, and only such ids are completed as owe a
result, then an outbox gives the answers that the ledger gives, operation by operation: the same results
in the same order, the same order of delivery, the same numbers of results to come and of results that
are ready, and the same availability. -/
theorem answers_eq_ledger (order : DeliveryOrder) (ops : List Op)
    (once : (ops.filterMap Op.submission?).Nodup)
    (accepts : Ledger.acceptsAll { order } ops = true) :
    answers { order } ops = Ledger.answers { order } ops :=
  (Reflects.start order).answers_eq ops once accepts

/-- The order changes twice. The second id is stale from the first change on, the results of the third
and the fourth id are held until that of the first comes, and that of the sixth until the order changes
again. -/
def flipping : List Op :=
  let result (n : Nat) : TaskResult := ⟨.ofNat n, .ok .null, "ann"⟩
  [.addPending ⟨1⟩, .addPending ⟨2⟩, .addPending ⟨3⟩, .addPending ⟨4⟩, .addCompleted (result 2),
    .setOrder .submission, .addCompleted (result 4), .addCompleted (result 3), .takeOne,
    .restoreFront [result 2], .addCompleted (result 1), .addPending ⟨5⟩, .addPending ⟨6⟩,
    .addCompleted (result 6), .setOrder .completion, .takeFirst 3, .takeAll, .clear, .addPending ⟨7⟩]

/-- The results are taken in the order in which the ledger has them. -/
theorem answers_eq_ledger_flipping :
    (flipping.filterMap Op.submission?).Nodup ∧ Ledger.acceptsAll {} flipping = true ∧
      answers {} flipping = Ledger.answers {} flipping ∧
      (answers {} flipping).flatMap (fun v => v.taken.map TaskResult.id)
        = [⟨2⟩, ⟨2⟩, ⟨1⟩, ⟨3⟩, ⟨4⟩, ⟨6⟩] :=
  ⟨by decide, by decide, answers_eq_ledger .completion flipping (by decide) (by decide), by decide⟩

end Outbox

end WorkFarm
