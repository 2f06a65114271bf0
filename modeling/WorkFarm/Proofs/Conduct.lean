import Mathlib.Logic.Function.Basic
import WorkFarm.Proofs.Books
/-!
# The conduct of workers and clients

A dispatcher answers whoever calls, and makes no conditions. Yet who has which task can be told from its
desk only if those who call keep to rules of their own. This module states these rules about a run.

A worker keeps to its rule if it calls only after its last call was answered, and, when it was told to
run a task, calls next to hand in a result of that task. It need not call again, and it need not call in
time: it may have been reported dead meanwhile, and another instance may have its name. What an instance
was told last is not in the state of the dispatcher, so a run carries it along (`Move.tell`).

Clients have two rules. One is that no id is submitted again after its result was delivered: without it
a late result may be taken for that of a later submission. The other is that the order of delivery is
never changed, so that what was delivered is a prefix of one and the same order.

## Main definitions

* `Dispatcher.WellBehaved` — every worker keeps to its rule in a run
* `Journal.NeverReturns` — no id is submitted again after its result was delivered
* `Dispatcher.Stays` — the order of delivery is the same throughout a run
-/

namespace WorkFarm

universe u

/-- No id was submitted again after its result was delivered. -/
def Journal.NeverReturns (j : Journal) : Prop :=
  j.Pairwise fun e e' => ∀ id ∈ e'.admission?, id ∉ e.delivery.map TaskResult.id

instance (j : Journal) : Decidable j.NeverReturns :=
  inferInstanceAs (Decidable (j.Pairwise _))

namespace Journal

/-- The task that a worker was told to run, if this is what was done last. -/
def lastTask? (j : Journal) : Option TaskId :=
  match j.lastAnswer? with
  | some (.assignment a) => a.taskId?
  | _ => none

theorem NeverReturns.of_prefix {j j' : Journal} (never : j'.NeverReturns) (earlier : j <+: j') :
    j.NeverReturns :=
  List.Pairwise.sublist earlier.sublist never

/-- An id whose submission was accepted last had not been delivered. -/
theorem NeverReturns.not_mem_delivered {j : Journal} {id : TaskId}
    (never : NeverReturns (j ++ [.admitted id])) : id ∉ j.delivered.map TaskResult.id := by
  have apart := (List.pairwise_append.mp never).2.2
  intro mem
  obtain ⟨r, delivered, rfl⟩ := List.mem_map.mp mem
  obtain ⟨e, done, brought⟩ := List.mem_flatMap.mp delivered
  exact apart e done _ (List.mem_singleton_self _) r.id rfl (List.mem_map_of_mem brought)

end Journal

namespace Dispatcher

variable {σ : Type u} (c : Collaborators σ)

namespace Move

/-- An instance that was told to run a task hands in a result of it. -/
def Proper (told : Handle → Option TaskId) (m : Move σ) : Prop :=
  ∀ h ∈ m.worker?, ∀ id ∈ told h, m.result?.map TaskResult.id = some id

instance (told : Handle → Option TaskId) (m : Move σ) : Decidable (m.Proper told) :=
  inferInstanceAs
    (Decidable (∀ h ∈ m.worker?, ∀ id ∈ told h, m.result?.map TaskResult.id = some id))

/-- What every instance was told last, after a move that left the journal `j`. -/
def tell (m : Move σ) (j : Journal) (told : Handle → Option TaskId) : Handle → Option TaskId :=
  match m.worker? with
  | none => told
  | some h => Function.update told h j.lastTask?

end Move

/-- Every instance calls only after its last call was answered, and one that was told to run a task
calls next to hand in a result of it. What was told before the run is `told`. -/
def WellBehaved : Dispatcher σ → (Handle → Option TaskId) → List (Move σ) → Prop
  | _, _, [] => True
  | d, told, m :: ms =>
    m.Proper told ∧ WellBehaved (d.move c m) (m.tell (d.move c m).journal told) ms

instance decidableWellBehaved : (d : Dispatcher σ) → (told : Handle → Option TaskId) →
    (ms : List (Move σ)) → Decidable (WellBehaved c d told ms)
  | _, _, [] => .isTrue trivial
  | d, told, m :: ms =>
    have := decidableWellBehaved (d.move c m) (m.tell (d.move c m).journal told) ms
    inferInstanceAs (Decidable (_ ∧ _))

/-- The order of delivery is `order` before a run, and after each of its moves. -/
def Stays (order : DeliveryOrder) : Dispatcher σ → List (Move σ) → Prop
  | d, [] => d.outbox.order = order
  | d, m :: ms => d.outbox.order = order ∧ Stays order (d.move c m) ms

instance decidableStays (order : DeliveryOrder) : (d : Dispatcher σ) → (ms : List (Move σ)) →
    Decidable (Stays c order d ms)
  | d, [] => inferInstanceAs (Decidable (d.outbox.order = order))
  | d, m :: ms =>
    have := decidableStays order (d.move c m) ms
    inferInstanceAs (Decidable (_ ∧ _))

theorem Stays.order_eq {c : Collaborators σ} {order : DeliveryOrder} {d : Dispatcher σ}
    {ms : List (Move σ)} (stays : Stays c order d ms) : d.outbox.order = order := by
  cases ms with
  | nil => exact stays
  | cons m ms => exact stays.1

/-- Death reports, one for each name. -/
def reports (present : Attendance) (caller : Nat) (names : List String) : List (Move σ) :=
  names.map fun n => .call present ⟨caller, .reportDead n⟩

theorem wellBehaved_reports (d : Dispatcher σ) (told : Handle → Option TaskId) (present : Attendance)
    (caller : Nat) (names : List String) :
    WellBehaved c d told (reports present caller names) := by
  induction names generalizing d told with
  | nil => trivial
  | cons n names ih => exact ⟨(fun h worker => by cases worker), ih _ _⟩

end Dispatcher

end WorkFarm
