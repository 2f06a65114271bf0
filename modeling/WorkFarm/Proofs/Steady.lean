import WorkFarm.Proofs.Answers
import WorkFarm.Proofs.Conduct
/-!
# While the order of delivery stays

The books of a dispatcher go through changes, and one of them is a change of the order of delivery. What
is said of an order is said as long as it is in force, so here are the chains of changes in which it stays
(`Books.Keeps`). A call that sets the order that is in force changes nothing, and no other call has a step
by which the order is set.

## Main definitions

* `Books.Keeps` — what can happen to the books while the order of delivery stays

## Main statements

* `keeps_moves` — all that happens in a run in which the order of delivery stays
-/

namespace WorkFarm

universe u

namespace Books

/-- Something happens to the books, while the dispatcher runs and the order of delivery stays. -/
structure Keeps (b b' : Books) : Prop where
  change : Change (fun _ => True) b b'
  order : b'.outbox.order = b.outbox.order
  running : b'.closed = false

/-- Any number of things happen to the books, and the order of delivery stays. -/
abbrev KeepsOn : Books → Books → Prop := Relation.ReflTransGen Keeps

end Books

namespace Dispatcher

variable {σ : Type u} {c : Collaborators σ} {d d' : Dispatcher σ}

/-- A step of a dispatcher that runs leaves the order of delivery as it is, unless it sets it. -/
theorem Step.keeps {a : Act} (step : Step c d a d') (stays : a ≠ .reorder) (running : d'.closed = false) :
    Books.KeepsOn d.books d'.books := by
  cases step with
  | errand sent => rw [books_of_sent sent]
  | enroll | remove | sleep | park => exact .refl
  | requeue requeued _ => exact .single ⟨.requeue requeued, rfl, running⟩
  | @rouse _ _ backlog requeued _ =>
    have errands := errands_wakeSleepers c { d with backlog }
    have runs : d.closed = false := by
      rwa [show (wakeSleepers c _).closed = _ from congrArg Books.closed (books_of_errands errands)]
        at running
    rw [books_of_errands errands]
    exact .single ⟨.requeue requeued, rfl, runs⟩
  | launch _ launched => exact .single ⟨.launch launched, rfl, running⟩
  | @miss _ id launched backlog name launch back =>
    have away : Books.KeepsOn d.books (d.launch name id launched).books :=
      .single ⟨.launch launch, rfl, running⟩
    rw [books_errand]
    exact away.tail ⟨.putBack back, rfl, running⟩
  | @enter _ id backlog enqueued =>
    rw [books_enter]
    exact .single ⟨.submit enqueued, Outbox.order_addPending .., running⟩
  | @accept _ r _ _ completed =>
    rw [books_accept]
    exact .single ⟨.complete completed trivial, Outbox.order_addCompleted .., running⟩
  | reorder => exact absurd rfl stays
  | answer _ _ quiet => rw [books_answer_of_delivery_eq_nil _ _ quiet]
  | refuse =>
    rw [books_answer_of_delivery_eq_nil _ _ rfl]
    exact .refl
  | drop =>
    rw [books_dropped]
    exact .refl
  | deliver k _ _ bears =>
    rw [books_answer, bears]
    exact .single ⟨.deliver k, rfl, running⟩
  | close => cases running

/-- What has stopped does not run again. -/
theorem Does.running {kind : Act → Prop} (does : Does c kind d d') (running : d'.closed = false) :
    d.closed = false :=
  does.leadsOn.books.running running

theorem Does.keeps {kind : Act → Prop} (does : Does c kind d d') (stays : ¬ kind .reorder)
    (running : d'.closed = false) : Books.KeepsOn d.books d'.books := by
  induction does with
  | refl => exact .refl
  | @tail d₁ d₂ a _ fits last ih =>
    have runs : d₁.closed = false := (last.does fits).running running
    exact (ih runs).trans (last.keeps (fun here => stays (here ▸ fits)) running)

variable (c)

/-- **What a move does while the dispatcher runs and the order of delivery stays.** -/
theorem keeps_move (m : Move σ) (running : (d.move c m).closed = false)
    (order : (d.move c m).outbox.order = d.outbox.order) :
    Books.KeepsOn d.books (d.move c m).books := by
  have runs : d.closed = false := (changes_move c d m fun _ _ => trivial).running running
  cases m with
  | look present => exact (does_serveParked c d present).keeps nofun running
  | outside _ => exact .refl
  | call present call =>
    have served : d.move c (.call present call) = d.serve c present call :=
      serveOrRefuse_of_running c present runs
    rw [served] at running order ⊢
    by_cases sets : ∃ new, call.request = .setOrder new
    · obtain ⟨new, asked⟩ := sets
      have same : d.serve c present call
          = answer { d with outbox := d.outbox.setOrder new } call.caller .done := by
        simp [serve, asked]
      rw [same] at order ⊢
      rw [books_answer_of_delivery_eq_nil _ _ rfl, Outbox.setOrder_of_order_eq order]
    · exact (does_serve c d present call).keeps sets running

/-- What happens to the books in a run of a dispatcher that runs on, while the order of delivery stays. -/
theorem keeps_moves {order : DeliveryOrder} {ms : List (Move σ)} (stays : Stays c order d ms)
    (running : (d.moves c ms).closed = false) : Books.KeepsOn d.books (d.moves c ms).books := by
  induction ms generalizing d with
  | nil => exact .refl
  | cons m ms ih =>
    have runs : (d.move c m).closed = false := (changes_any c (d.move c m) ms).running running
    have first := keeps_move c m runs (stays.2.order_eq.trans stays.1.symm)
    exact first.trans (ih stays.2 running)

end Dispatcher

end WorkFarm
