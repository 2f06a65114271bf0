import WorkFarm.Proofs.Steady
/-!
# What is delivered, and in which order

Waits cut what the dispatcher delivers into pieces: one result, `k` of them, or all. They are answered
at different moments, some are dropped when their results were taken already, and results go on coming
in meanwhile. None of this is to be seen in the results that were delivered, one after another, followed
by those that will be next (`Books.outgoing`). As long as the order of delivery stays what it is, this
list is determined by what was submitted and what came in.

In order of completion it is the list of all results that were accepted. In order of submission each
submission stands for one result, those of the same id apart, and the list has the results of the
longest run of submissions, from the first one on, that have theirs. Two facts carry this. The outbox
lists just those submissions that owe a result or hold one, each once (`Outbox.Queued`), so what was
delivered, what is available and what is listed are all submissions, in their order. And the walk from
the front ends at an id that owes its result (`queued_releaseFrom`).

## Main definitions

* `Outbox.Queued` — the submissions that are listed owe a result or hold it
* `Books.InTurn` — what is out and what is listed is what was submitted
* `Books.Settled` — a submission has its result
* `Dispatcher.brought` — the results of a run whose tasks were launched when they came

## Main statements

* `delivered_as_accepted` — in order of completion, nothing is reordered, dropped or repeated
* `delivered_in_turn` — in order of submission, nothing comes too early, and nothing is kept back
-/

namespace WorkFarm

universe u

namespace Outbox

/-! ### The walk from the front, when no submission is stale -/

/-- Those submissions are listed, once each, that owe a result or hold it. -/
structure Queued (o : Outbox) : Prop where
  nodup : o.submitted.Nodup
  mem_submitted : ∀ id, id ∈ o.submitted ↔ id ∈ o.outstanding ∨ o.held.get? id ≠ none
  /-- Nothing is held for an id that owes its result. -/
  apart : ∀ id ∈ o.outstanding, o.held.get? id = none
  keyed : o.Keyed

variable {o : Outbox}

theorem queued_start (order : DeliveryOrder) : Queued { order } where
  nodup := List.nodup_nil
  mem_submitted id := by simp
  apart id owed := by cases owed
  keyed k r held := by cases held

/-- A result is held for the first submission, and becomes available. -/
theorem Queued.tail {id : TaskId} {rest : List TaskId} {r : TaskResult}
    (queued : Queued { o with submitted := id :: rest }) (held : o.held.get? id = some r) :
    Queued { o with
      submitted := rest
      held := o.held.erase id
      available := o.available ++ [r] } := by
  obtain ⟨fresh, nodup⟩ := List.nodup_cons.mp queued.nodup
  have paid : id ∉ o.outstanding := fun owed => by
    have free : o.held.get? id = none := queued.apart id owed
    rw [free] at held
    cases held
  refine ⟨nodup, fun j => ?_, fun j owed => ?_, fun k r' held' => ?_⟩
  · dsimp only
    rw [Table.get?_erase]
    by_cases here : j = id
    · subst here
      simp [fresh, paid]
    · have listed := queued.mem_submitted j
      rw [List.mem_cons, or_iff_right here] at listed
      rw [if_neg here]
      exact listed
  · dsimp only
    rw [Table.get?_erase]
    split
    · rfl
    · exact queued.apart j owed
  · rw [Table.get?_erase] at held'
    split at held'
    · cases held'
    · exact queued.keyed k r' held'

/-- **The walk from the front** makes results available in the order of their submissions, and ends where
one is owed. -/
theorem queued_releaseFrom {ids : List TaskId} (queued : Queued { o with submitted := ids }) :
    let o' := o.releaseFrom ids
    Queued o' ∧
      o'.available.map TaskResult.id ++ o'.submitted = o.available.map TaskResult.id ++ ids ∧
      ∀ id ∈ o'.submitted.head?, id ∈ o'.outstanding := by
  induction ids generalizing o with
  | nil => exact ⟨queued, rfl, by simp [releaseFrom]⟩
  | cons id rest ih =>
    unfold releaseFrom
    split
    · rename_i r held
      obtain ⟨queued', ids, front⟩ := ih (o := { o with
        held := o.held.erase id, available := o.available ++ [r] }) (queued.tail held)
      refine ⟨queued', ids.trans ?_, front⟩
      have own : r.id = id := queued.keyed id r held
      simp [own]
    · rename_i free
      have owed : id ∈ o.outstanding :=
        ((queued.mem_submitted id).mp List.mem_cons_self).resolve_right (not_not_intro free)
      rw [if_pos (by simpa using owed)]
      exact ⟨queued, rfl, fun j first => by cases first; exact owed⟩

/-- A new id is listed at the end. -/
theorem Queued.addPending (queued : o.Queued) {id : TaskId} (paid : id ∉ o.outstanding)
    (free : o.held.get? id = none) :
    Queued (o.addPending id) ∧ (o.addPending id).submitted = o.submitted ++ [id] ∧
      (o.addPending id).outstanding = o.outstanding ++ [id] := by
  have fresh : id ∉ o.submitted := fun mem =>
    ((queued.mem_submitted id).mp mem).elim paid (absurd free)
  have added : o.addPending id = { o with
      outstanding := o.outstanding ++ [id], submitted := o.submitted ++ [id] } := by
    simp [Outbox.addPending, paid]
  rw [added]
  refine ⟨⟨List.nodup_append.mpr ⟨queued.nodup, List.nodup_singleton id, ?_⟩, fun j => ?_,
    fun j owed => ?_, queued.keyed⟩, rfl, rfl⟩
  · rintro j listed k new rfl
    exact fresh (List.mem_singleton.mp new ▸ listed)
  · simp only [List.mem_append, List.mem_singleton, queued.mem_submitted]
    exact or_right_comm
  · rcases List.mem_append.mp owed with owed | new
    · exact queued.apart j owed
    · rw [List.mem_singleton.mp new]
      exact free

/-- The result that an id owes is held from now on. -/
theorem Queued.hold (queued : o.Queued) (nodup : o.outstanding.Nodup) {r : TaskResult}
    (owed : r.id ∈ o.outstanding) :
    Queued { o with outstanding := o.outstanding.erase r.id, held := o.held.insert r.id r } := by
  refine ⟨queued.nodup, fun j => ?_, fun j owes => ?_, fun k r' held => ?_⟩
  · dsimp only
    rw [queued.mem_submitted, nodup.mem_erase_iff, Table.get?_insert]
    by_cases here : j = r.id
    · simp [here, owed]
    · simp [here]
  · obtain ⟨other, owes⟩ := nodup.mem_erase_iff.mp owes
    dsimp only
    rw [Table.get?_insert, if_neg other]
    exact queued.apart j owes
  · dsimp only at held
    rw [Table.get?_insert] at held
    split at held
    · rename_i here
      cases held
      exact here.symm
    · exact queued.keyed k r' held

end Outbox

namespace Books

/-! ### What each order keeps -/

/-- In order of completion, what is delivered and what is available are what was accepted. -/
def Straight (b : Books) : Prop := b.outbox.order = .completion ∧ b.outgoing = b.accepted

/-- In order of submission, what is delivered, what is available and what is listed are what was
submitted, and the first one that is listed owes its result. -/
structure InTurn (b : Books) : Prop where
  order : b.outbox.order = .submission
  queued : b.outbox.Queued
  admitted : b.outgoing.map TaskResult.id ++ b.outbox.submitted = b.admitted
  front : ∀ id ∈ b.outbox.submitted.head?, id ∈ b.outbox.outstanding

variable {b b' : Books}

theorem Straight.keeps (straight : b.Straight) (keeps : Keeps b b') : b'.Straight := by
  obtain ⟨order, outgoing⟩ := straight
  obtain ⟨change, same, running⟩ := keeps
  refine ⟨same.trans order, ?_⟩
  cases change with
  | submit _ => simpa only [Books.outgoing, Outbox.available_addPending] using outgoing
  | launch _ | requeue _ | putBack _ => exact outgoing
  | complete _ _ =>
    simp only [Books.outgoing, Outbox.addCompleted, order, Outbox.available_compact,
      ← List.append_assoc] at outgoing ⊢
    rw [outgoing]
  | reorder _ =>
    rw [Outbox.setOrder_of_order_eq same]
    exact outgoing
  | deliver k => simpa [Books.outgoing, Outbox.takeFirst] using outgoing
  | close => cases running

theorem Straight.keepsOn (straight : b.Straight) (keeps : KeepsOn b b') : b'.Straight := by
  induction keeps with
  | refl => exact straight
  | tail _ last ih => exact ih.keeps last

theorem InTurn.submit (turn : b.InTurn) (agree : b.Agree) {id : TaskId} {backlog : Backlog}
    (h : b.backlog.enqueue? id = some backlog) :
    InTurn { b with
      backlog, outbox := b.outbox.addPending id, admitted := b.admitted ++ [id] } := by
  have unknown : b.backlog.stage? id = none := (Backlog.enqueue?_eq_some h).1
  have paid : id ∉ b.outbox.outstanding := by
    simp [agree.mem_outstanding, Backlog.Owes, unknown]
  have free : b.outbox.held.get? id = none := agree.held_eq_none_of_ne (by simp [unknown])
  obtain ⟨queued, submitted, outstanding⟩ := turn.queued.addPending paid free
  refine ⟨(Outbox.order_addPending ..).trans turn.order, queued, ?_, fun j first => ?_⟩
  · dsimp only
    rw [submitted, ← turn.admitted]
    simp [Books.outgoing, Outbox.available_addPending]
  · dsimp only at first ⊢
    rw [submitted] at first
    rw [outstanding, List.mem_append]
    cases listed : b.outbox.submitted with
    | nil =>
      rw [listed] at first
      cases first
      exact .inr (List.mem_singleton_self id)
    | cons k rest =>
      rw [listed] at first
      exact .inl (turn.front j (listed ▸ first))

theorem InTurn.complete (turn : b.InTurn) (agree : b.Agree) {r : TaskResult} {backlog : Backlog}
    (h : b.backlog.complete? r.id = some backlog) :
    InTurn { b with
      backlog, outbox := b.outbox.addCompleted r, accepted := b.accepted ++ [r] } := by
  have launched := (Backlog.complete?_eq_some h).1
  have owed : r.id ∈ b.outbox.outstanding := (agree.mem_outstanding r.id).mpr (.inr launched)
  obtain ⟨queued, ids, front⟩ := Outbox.queued_releaseFrom (o := { b.outbox with
      outstanding := b.outbox.outstanding.erase r.id
      held := b.outbox.held.insert r.id r }) (turn.queued.hold agree.nodup_outstanding owed)
  have added : b.outbox.addCompleted r = Outbox.releaseFrom { b.outbox with
      outstanding := b.outbox.outstanding.erase r.id
      held := b.outbox.held.insert r.id r } b.outbox.submitted := by
    simp [Outbox.addCompleted, turn.order, Outbox.release]
  rw [← added] at queued ids front
  refine ⟨(Outbox.order_addCompleted ..).trans turn.order, queued, ?_, front⟩
  have admitted := turn.admitted
  simp only [Books.outgoing, List.map_append, List.append_assoc] at admitted ⊢
  rw [ids, admitted]

theorem InTurn.keeps (turn : b.InTurn) (agree : b.Agree) (keeps : Keeps b b') : b'.InTurn := by
  obtain ⟨change, same, running⟩ := keeps
  cases change with
  | submit h => exact turn.submit agree h
  | launch _ | requeue _ | putBack _ => exact ⟨turn.order, turn.queued, turn.admitted, turn.front⟩
  | complete h _ => exact turn.complete agree h
  | reorder _ =>
    rw [Outbox.setOrder_of_order_eq same]
    exact turn
  | deliver k =>
    refine ⟨turn.order, ?_, ?_, turn.front⟩
    · obtain ⟨nodup, listed, apart, keyed⟩ := turn.queued
      exact ⟨nodup, listed, apart, keyed⟩
    · simpa [Books.outgoing, Outbox.takeFirst] using turn.admitted
  | close => cases running

theorem InTurn.keepsOn (turn : b.InTurn) (agree : b.Agree) (keeps : KeepsOn b b') : b'.InTurn := by
  have both : b'.InTurn ∧ b'.Agree := by
    induction keeps with
    | refl => exact ⟨turn, agree⟩
    | tail _ last ih => exact ⟨ih.1.keeps ih.2 last, agree_change last.change ih.2⟩
  exact both.1

/-! ### What was accepted is there -/

/-- What was accepted is delivered, held or available. -/
def Stocked (b : Books) : Prop := b.accepted.Perm (b.delivered ++ b.outbox.results)

variable {brings : TaskResult → Prop}

theorem Stocked.change (stocked : b.Stocked) (agree : b.Agree) (change : Change brings b b')
    (running : b'.closed = false) : b'.Stocked := by
  cases change with
  | submit _ =>
    rw [Stocked, Outbox.results_addPending]
    exact stocked
  | launch _ | requeue _ | putBack _ => exact stocked
  | @complete r _ h _ =>
    have launched := (Backlog.complete?_eq_some h).1
    have results := (b.outbox.addCompleted_spec r (agree.held_eq_none launched)).2.1
    have more : (b.accepted ++ [r]).Perm (r :: (b.delivered ++ b.outbox.results)) :=
      (List.perm_append_singleton r _).trans (stocked.cons r)
    exact more.trans (List.perm_middle.symm.trans (results.symm.append_left _))
  | reorder order => exact stocked.trans ((b.outbox.regroups_setOrder order).results.symm.append_left _)
  | deliver k =>
    refine stocked.trans (((b.outbox.results_takeFirst k).append_left _).trans ?_)
    rw [← List.append_assoc]
  | close => cases running

theorem stocked_changes (changes : Changes brings b b') (agree : b.Agree) (stocked : b.Stocked)
    (running : b'.closed = false) : b'.Stocked := by
  have both := changes.preserve (P := fun b => b.Agree ∧ (b.closed = false → b.Stocked))
    (fun change h => ⟨agree_change change h.1,
      fun runs => (h.2 (Changes.running (.single change) runs)).change h.1 change runs⟩)
    ⟨agree, fun _ => stocked⟩
  exact both.2 running

/-- If no result is brought, none is accepted. -/
theorem accepted_changes (changes : Changes (fun _ => False) b b') : b'.accepted = b.accepted := by
  induction changes with
  | refl => rfl
  | tail _ last ih =>
    cases last with
    | complete _ brought => exact brought.elim
    | _ => exact ih

/-- Of an id, the results that are out and those that are held are those that were accepted. -/
theorem Stocked.count_accepted (stocked : b.Stocked) (id : TaskId) :
    (b.accepted.map TaskResult.id).count id = (b.outgoing.map TaskResult.id).count id
      + (b.outbox.held.values.map TaskResult.id).count id := by
  have count := (stocked.map TaskResult.id).count_eq id
  simp only [outgoing, Outbox.results, List.map_append, List.count_append] at count ⊢
  omega

/-- No result is held for an id that owes it. -/
theorem InTurn.count_held (turn : b.InTurn) {id : TaskId} (owed : id ∈ b.outbox.outstanding) :
    (b.outbox.held.values.map TaskResult.id).count id = 0 := by
  refine List.count_eq_zero.mpr fun mem => ?_
  obtain ⟨r, value, own⟩ := List.mem_map.mp mem
  obtain ⟨k, held⟩ := (Table.mem_values_iff _).mp value
  have here : k = id := (turn.queued.keyed k r held).symm.trans own
  have free := turn.queued.apart id owed
  rw [← here, held] at free
  cases free

/-! ### Submissions that have their results -/

/-- The submission at place `i` has its result: of its id, as many results were accepted as submissions,
from the first one to this one. -/
def Settled (b : Books) (i : Nat) : Prop :=
  ∃ id, b.admitted[i]? = some id ∧
    (b.admitted.take (i + 1)).count id ≤ (b.accepted.map TaskResult.id).count id

/-- Submissions whose results are out have their results. -/
theorem InTurn.settled (turn : b.InTurn) (stocked : b.Stocked) {i : Nat}
    (inside : i < (b.outgoing.map TaskResult.id).length) : b.Settled i := by
  refine ⟨(b.outgoing.map TaskResult.id)[i], ?_, ?_⟩
  · rw [← turn.admitted, List.getElem?_append_left inside, List.getElem?_eq_getElem inside]
  · rw [← turn.admitted, List.take_append_of_le_length inside, stocked.count_accepted]
    exact Nat.le_trans ((List.take_sublist _ _).count_le _) (Nat.le_add_right _ _)

/-- The next one does not: it owes its result, and those of the same id so far are out. -/
theorem InTurn.not_settled (turn : b.InTurn) (stocked : b.Stocked) :
    ¬ b.Settled (b.outgoing.map TaskResult.id).length := by
  rintro ⟨id, place, enough⟩
  rw [← turn.admitted, List.getElem?_append_right (Nat.le_refl _), Nat.sub_self,
    ← List.head?_eq_getElem?] at place
  have none := turn.count_held (turn.front id place)
  obtain ⟨rest, listed⟩ := List.head?_eq_some_iff.mp place
  rw [← turn.admitted, listed, stocked.count_accepted, none, List.append_cons,
    List.take_left' (by simp), List.count_append, List.count_singleton_self] at enough
  omega

end Books

namespace Dispatcher

variable {σ : Type u} (c : Collaborators σ) {d : Dispatcher σ}

/-! ### A run -/

/-- The results that a run brings while their tasks are launched, in order. -/
def brought : Dispatcher σ → List (Move σ) → List TaskResult
  | _, [] => []
  | d, m :: ms =>
    (m.result?.filter fun r => d.backlog.isLaunched r.id).toList ++ brought (d.move c m) ms

theorem accepted_acceptResult (d : Dispatcher σ) (r : TaskResult) (h : Handle) :
    (d.acceptResult c r h).books.accepted
      = d.books.accepted ++ if d.backlog.isLaunched r.id then [r] else [] := by
  unfold acceptResult Backlog.complete?
  by_cases launched : d.backlog.isLaunched r.id
  · simp only [launched, if_true, books_send, books_record]
    rfl
  · simp [launched]

/-- A result is accepted if its task is launched when it comes. -/
theorem accepted_move (m : Move σ) (running : d.closed = false) : (d.move c m).books.accepted
    = d.books.accepted ++ (m.result?.filter fun r => d.backlog.isLaunched r.id).toList := by
  cases brings : m.result? with
  | none =>
    have changes : Books.Changes (fun _ => False) d.books (d.move c m).books :=
      changes_move c d m (by simp [brings])
    simpa using Books.accepted_changes changes
  | some r =>
    cases m with
    | look | outside => cases brings
    | call present call =>
      obtain ⟨caller, request⟩ := call
      cases request with
      | handIn r' h =>
        cases brings
        have served : d.move c (.call present ⟨caller, .handIn r h⟩)
            = d.serve c present ⟨caller, .handIn r h⟩ := serveOrRefuse_of_running c present running
        rw [served]
        change (((d.acceptResult c r h).dispatch c h).2.answer caller _).books.accepted = _
        have dispatched : Leads c (fun _ => False) (d.acceptResult c r h)
            ((d.acceptResult c r h).dispatch c h).2 := by
          refine (does_dispatch c _ h).leads fun _ kind => ?_
          rcases kind with staffs | hands
          · cases staffs
          · cases hands
        rw [books_answer_of_delivery_eq_nil _ _ rfl, Books.accepted_changes dispatched.books,
          accepted_acceptResult]
        by_cases launched : d.backlog.isLaunched r.id <;> simp [launched, Option.filter]
      | _ => cases brings

theorem accepted_moves (ms : List (Move σ)) (running : (d.moves c ms).closed = false) :
    (d.moves c ms).books.accepted = d.books.accepted ++ brought c d ms := by
  induction ms generalizing d with
  | nil => simp [brought]
  | cons m ms ih =>
    have runs := (changes_any c d (m :: ms)).running running
    rw [moves_cons, ih running, accepted_move c m runs, brought, List.append_assoc]

/-- **In order of completion, results are delivered as they were accepted.** As long as the dispatcher
runs, and the order of delivery stays, the results that were delivered to those who waited, one after
another, followed by those that are available, are the results that were accepted, in the order in which
they were. And those are the results that workers handed in while their tasks were launched.

Whoever has asked for `k` results, and for nothing else, is told just `k` of them, or is refused. -/
theorem delivered_as_accepted (world : σ) (ms : List (Move σ))
    (stays : Stays c .completion (start .completion world) ms)
    (running : ((start .completion world).moves c ms).closed = false) :
    let d := (start .completion world).moves c ms
    Journal.delivered d.journal ++ d.outbox.available = Journal.accepted d.journal ∧
      Journal.accepted d.journal = brought c (start .completion world) ms ∧
      ∀ caller k a, .answered caller a ∈ d.journal →
        (∀ call, Asked ms call → call.caller = caller → call.request = .wait (.exactly k)) →
        (∃ rs, rs.length = k ∧ a = .results rs) ∨ ∃ e, a = .refused e := by
  intro d
  have keeps : Books.KeepsOn (start .completion world).books d.books := keeps_moves c stays running
  have straight : d.books.Straight := Books.Straight.keepsOn ⟨rfl, rfl⟩ keeps
  refine ⟨straight.2, accepted_moves c ms running, fun caller k a told alone => ?_⟩
  obtain ⟨call, asked, own, suits⟩ := (heard_moves c .completion world ms).answered caller a told
  exact suits _ (alone call asked own)

/-- Two tasks are handed out. A client waits for two results, and that of the second task comes first. -/
def overtaking : List (Move Vault) :=
  [.outside fun v => ((v.store (.bool true)).2.store (.bool false)).2,
    .call {} ⟨0, .submit [⟨1⟩, ⟨2⟩]⟩,
    .call {} ⟨1, .requestTask ⟨0, "ann"⟩⟩,
    .call {} ⟨2, .requestTask ⟨1, "bob"⟩⟩,
    .call {} ⟨3, .wait (.exactly 2)⟩,
    .call {} ⟨4, .handIn ⟨⟨2⟩, .ok (.bool false), "bob"⟩ ⟨1, "bob"⟩⟩]

/-- The second worker hands in its result once more, and is late. Then the first one hands in. -/
def catchingUp : List (Move Vault) :=
  [.call {} ⟨5, .handIn ⟨⟨2⟩, .ok (.bool true), "bob"⟩ ⟨1, "bob"⟩⟩,
    .call {} ⟨6, .handIn ⟨⟨1⟩, .ok (.bool true), "ann"⟩ ⟨0, "ann"⟩⟩,
    .look {}]

/-- The result that came first is delivered first, and the late one is not. -/
theorem delivered_as_accepted_overtaking :
    let d := (start .completion {}).moves .ofVault (overtaking ++ catchingUp)
    (Journal.delivered d.journal).map TaskResult.id = [⟨2⟩, ⟨1⟩] ∧
      Journal.delivered d.journal ++ d.outbox.available = Journal.accepted d.journal ∧
      ∃ a, .answered 3 a ∈ d.journal ∧
        ((∃ rs, rs.length = 2 ∧ a = .results rs) ∨ ∃ e, a = .refused e) := by
  intro d
  obtain ⟨straight, -, exact⟩ := delivered_as_accepted .ofVault {} (overtaking ++ catchingUp)
    (by decide) (by decide)
  have alone : ∀ call, Asked (overtaking ++ catchingUp) call → call.caller = 3 →
      call.request = .wait (.exactly 2) := by
    rintro call ⟨present, mem⟩ own
    simp only [overtaking, catchingUp, List.cons_append, List.nil_append, List.mem_cons,
      List.not_mem_nil, Move.call.injEq, reduceCtorEq, or_false, false_or] at mem
    rcases mem with ⟨-, rfl⟩ | ⟨-, rfl⟩ | ⟨-, rfl⟩ | ⟨-, rfl⟩ | ⟨-, rfl⟩ | ⟨-, rfl⟩ | ⟨-, rfl⟩
    all_goals first | rfl | cases own
  have told : .answered 3 (.results (Journal.delivered d.journal)) ∈ d.journal :=
    List.mem_of_getElem? (i := 18) rfl
  exact ⟨by decide, straight, _, told, exact 3 2 _ told alone⟩

/-- **In order of submission, results are delivered in their turn.** As long as the dispatcher runs, and
the order of delivery stays, the ids of the results that were delivered, one after another, followed by
those of the results that are available, are the longest run of accepted submissions, from the first one
on, that all have their results. Submissions of the same id are counted apart. So a submission that has its
result is kept back only if an earlier one does not have it, and is not delivered either. -/
theorem delivered_in_turn (world : σ) (ms : List (Move σ))
    (stays : Stays c .submission (start .submission world) ms)
    (running : ((start .submission world).moves c ms).closed = false) :
    let d := (start .submission world).moves c ms
    let out := (Journal.delivered d.journal ++ d.outbox.available).map TaskResult.id
    out <+: Journal.admitted d.journal ∧
      (∀ i < out.length, d.books.Settled i) ∧
      (∀ ids, ids <+: Journal.admitted d.journal → (∀ i < ids.length, d.books.Settled i) →
        ids <+: out) ∧
      ∀ i, out.length ≤ i → d.books.Settled i →
        ∃ k, out.length ≤ k ∧ k < i ∧ ¬ d.books.Settled k := by
  intro d out
  have empty : (start .submission world).books.InTurn :=
    ⟨rfl, Outbox.queued_start _, rfl, fun id first => by cases first⟩
  have turn : d.books.InTurn := empty.keepsOn (Books.agree_start _) (keeps_moves c stays running)
  have stocked : d.books.Stocked :=
    Books.stocked_changes (changes_any c _ ms) (Books.agree_start _) (.refl _) running
  have front : out <+: Journal.admitted d.journal := ⟨d.outbox.submitted, turn.admitted⟩
  have owed : ¬ d.books.Settled out.length := turn.not_settled stocked
  refine ⟨front, fun i inside => turn.settled stocked inside, fun ids early settled => ?_,
    fun i late settled => ⟨out.length, Nat.le_refl _, ?_, owed⟩⟩
  · refine List.prefix_of_prefix_length_le early front (Nat.le_of_not_lt fun longer => ?_)
    exact owed (settled out.length longer)
  · exact Nat.lt_of_le_of_ne late fun here => owed (here ▸ settled)

/-- Both tasks are submitted again, the second one first. The result of the later submission comes first. -/
def resubmitted : List (Move Vault) :=
  [.outside fun v => (v.insert ⟨1⟩ (.bool true)).insert ⟨2⟩ (.bool false),
    .call {} ⟨7, .submit [⟨2⟩, ⟨1⟩]⟩,
    .call {} ⟨8, .requestTask ⟨0, "ann"⟩⟩,
    .call {} ⟨9, .requestTask ⟨1, "bob"⟩⟩,
    .call {} ⟨10, .handIn ⟨⟨1⟩, .ok (.bool false), "bob"⟩ ⟨1, "bob"⟩⟩]

/-- The first two results are delivered as their tasks were submitted, though they came the other way round.
Of the next two submissions, the later one has its result, which is kept back, for the earlier one has none. -/
theorem delivered_in_turn_resubmitted :
    let d := (start .submission {}).moves .ofVault (overtaking ++ catchingUp ++ resubmitted)
    Journal.admitted d.journal = [⟨1⟩, ⟨2⟩, ⟨2⟩, ⟨1⟩] ∧
      (Journal.delivered d.journal).map TaskResult.id = [⟨1⟩, ⟨2⟩] ∧ d.outbox.available = [] ∧
      d.books.Settled 0 ∧ d.books.Settled 1 ∧ d.books.Settled 3 ∧
      ∃ k, 2 ≤ k ∧ k < 3 ∧ ¬ d.books.Settled k := by
  intro d
  have last : d.books.Settled 3 := ⟨⟨1⟩, by decide, by decide⟩
  obtain ⟨-, settled, -, kept⟩ := delivered_in_turn .ofVault {} (overtaking ++ catchingUp ++ resubmitted)
    (by decide) (by decide)
  exact ⟨by decide, by decide, by decide, settled 0 (by decide), settled 1 (by decide), last,
    kept 3 (by decide) last⟩

end Dispatcher

end WorkFarm
