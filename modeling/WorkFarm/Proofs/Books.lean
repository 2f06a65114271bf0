import WorkFarm.Proofs.Steps
/-!
# The books of a dispatcher

The books are what a dispatcher shows of tasks and results: its backlog, its outbox, whether it has
stopped, and what its journal says of submissions that were accepted, results that were accepted, and
results that were delivered. Workers, the parked wait and the collaborators are left out.

Whatever a call does, it does to the books by few kinds of *changes*, and each of them is one operation
on the backlog together with the operation on the outbox that goes with it (`Books.Change`). This is
said once, step by step (`Step.leads`); an invariant of the books is then proved change by change, and no
proof looks into the dispatcher again.

## Main definitions

* `Journal.admitted`, `Journal.accepted`, `Journal.delivered` — what a journal says of tasks
* `Books`, `Dispatcher.books` — what a dispatcher shows of tasks and results
* `Books.Change` — what can happen to the books
* `Dispatcher.Leads` — the books went through changes, and the world through errands

## Main statements

* `Does.leads` — where a chain of steps leads
* `changes_move`, `changes_moves` — a move and a run are chains of changes
-/

namespace WorkFarm

universe u

namespace Entry

/-- The id whose submission was accepted, if that is what was done. -/
def admission? : Entry → Option TaskId
  | .admitted id => some id
  | _ => none

/-- The result that was accepted, if that is what was done. -/
def acceptance? : Entry → Option TaskResult
  | .accepted r => some r
  | _ => none

/-- The results that were delivered, if that is what was done. -/
def delivery : Entry → List TaskResult
  | .answered _ a => a.delivery
  | _ => []

end Entry

namespace Journal

/-- The ids whose submission was accepted, in order. -/
def admitted (j : Journal) : List TaskId := j.filterMap Entry.admission?

/-- The results that were accepted, in order. -/
def accepted (j : Journal) : List TaskResult := j.filterMap Entry.acceptance?

/-- The results that were delivered, in order. -/
def delivered (j : Journal) : List TaskResult := j.flatMap Entry.delivery

theorem admitted_concat (j : Journal) (e : Entry) :
    admitted (j ++ [e]) = admitted j ++ e.admission?.toList := by
  rw [admitted, List.filterMap_append]
  cases e <;> rfl

theorem accepted_concat (j : Journal) (e : Entry) :
    accepted (j ++ [e]) = accepted j ++ e.acceptance?.toList := by
  rw [accepted, List.filterMap_append]
  cases e <;> rfl

theorem delivered_concat (j : Journal) (e : Entry) :
    delivered (j ++ [e]) = delivered j ++ e.delivery := by
  simp [delivered]

end Journal

/-- What a dispatcher shows of tasks and results. -/
structure Books where
  backlog : Backlog
  /-- The results owed and ready. -/
  outbox : Outbox
  closed : Bool
  /-- The ids whose submission was accepted. -/
  admitted : List TaskId
  accepted : List TaskResult
  delivered : List TaskResult

namespace Books

/-- What can happen to the books. The results that may be taken in are those for which `brings`
holds. -/
inductive Change (brings : TaskResult → Prop) : Books → Books → Prop
  /-- An unknown id is submitted. -/
  | submit {b : Books} {id : TaskId} {backlog : Backlog} (h : b.backlog.enqueue? id = some backlog) :
    Change brings b { b with
      backlog
      outbox := b.outbox.addPending id
      admitted := b.admitted ++ [id] }
  /-- The oldest pending id is launched. -/
  | launch {b : Books} {id : TaskId} {backlog : Backlog}
    (h : b.backlog.launchNext? = some (id, backlog)) : Change brings b { b with backlog }
  /-- A launched id goes back behind the pending ones. -/
  | requeue {b : Books} {id : TaskId} {backlog : Backlog}
    (h : b.backlog.requeue? id = some backlog) : Change brings b { b with backlog }
  /-- A launched id goes back in front of the pending ones. -/
  | putBack {b : Books} {id : TaskId} {backlog : Backlog}
    (h : b.backlog.restoreFront? id = some backlog) : Change brings b { b with backlog }
  /-- The result of a launched id is accepted. -/
  | complete {b : Books} {r : TaskResult} {backlog : Backlog}
    (h : b.backlog.complete? r.id = some backlog) (brought : brings r) :
    Change brings b { b with
      backlog
      outbox := b.outbox.addCompleted r
      accepted := b.accepted ++ [r] }
  /-- The order of delivery changes. -/
  | reorder {b : Books} (order : DeliveryOrder) :
    Change brings b { b with outbox := b.outbox.setOrder order }
  /-- The first available results are delivered, and their ids forgotten. -/
  | deliver {b : Books} (k : Nat) :
    Change brings b { b with
      backlog := b.backlog.forgetAll (b.outbox.takeFirst k).1
      outbox := (b.outbox.takeFirst k).2
      delivered := b.delivered ++ (b.outbox.takeFirst k).1 }
  /-- Everything is forgotten. -/
  | close {b : Books} :
    Change brings b { b with backlog := {}, outbox := b.outbox.clear, closed := true }

/-- Any number of changes. -/
abbrev Changes (brings : TaskResult → Prop) : Books → Books → Prop :=
  Relation.ReflTransGen (Change brings)

variable {brings : TaskResult → Prop}

/-- What every change preserves, any number of changes preserves. -/
theorem Changes.preserve {P : Books → Prop} (step : ∀ {b b'}, Change brings b b' → P b → P b')
    {b b' : Books} (h : Changes brings b b') (start : P b) : P b' := by
  induction h with
  | refl => exact start
  | tail _ last ih => exact step last ih

/-- What has stopped does not run again. -/
theorem Changes.running {b b' : Books} (h : Changes brings b b') (running : b'.closed = false) :
    b.closed = false := by
  induction h with
  | refl => exact running
  | tail _ last ih =>
    refine ih ?_
    cases last <;> first | exact running | cases running

end Books

namespace Dispatcher

variable {σ : Type u}

/-- The books of a dispatcher. -/
def books (d : Dispatcher σ) : Books where
  backlog := d.backlog
  outbox := d.outbox
  closed := d.closed
  admitted := Journal.admitted d.journal
  accepted := Journal.accepted d.journal
  delivered := Journal.delivered d.journal

/-! ### What the books do not show -/

theorem books_record (d : Dispatcher σ) (e : Entry) :
    (d.record e).books = { d.books with
      admitted := d.books.admitted ++ e.admission?.toList
      accepted := d.books.accepted ++ e.acceptance?.toList
      delivered := d.books.delivered ++ e.delivery } := by
  simp only [books, record, Journal.admitted_concat, Journal.accepted_concat,
    Journal.delivered_concat]

@[simp] theorem books_errand (d : Dispatcher σ) (e : Errand) (ok : Bool) :
    (d.record (.errand e ok)).books = d.books := by
  simp [books_record, Entry.admission?, Entry.acceptance?, Entry.delivery]

@[simp] theorem books_dropped (d : Dispatcher σ) (caller : Nat) :
    (d.record (.dropped caller)).books = d.books := by
  simp [books_record, Entry.admission?, Entry.acceptance?, Entry.delivery]

@[simp] theorem books_send {ε α : Type} (d : Dispatcher σ) (e : Errand)
    (run : σ → Except ε α × σ) : (d.send e run).2.books = d.books :=
  books_errand { d with world := (run d.world).2 } e _

theorem books_of_sent {c : Collaborators σ} {e : Errand} {d d' : Dispatcher σ} (sent : Sent c e d d') :
    d'.books = d.books := by
  obtain ⟨ok⟩ := sent
  exact books_errand { d with world := c.carry e d.world } e ok

/-- Errands do not show in the books. -/
theorem books_of_errands {c : Collaborators σ} {kind : Errand → Prop} {d d' : Dispatcher σ}
    (errands : Errands c kind d d') : d'.books = d.books := by
  induction errands with
  | refl => rfl
  | tail _ last ih =>
    obtain ⟨e, -, sent⟩ := last
    exact (books_of_sent sent).trans ih

/-- A submission that is accepted shows in the books. -/
theorem books_enter (d : Dispatcher σ) (id : TaskId) (backlog : Backlog) :
    (record { d with backlog, outbox := d.outbox.addPending id } (.admitted id)).books
      = { d.books with
          backlog, outbox := d.outbox.addPending id, admitted := d.books.admitted ++ [id] } := by
  rw [books_record]
  simp [books, Entry.admission?, Entry.acceptance?, Entry.delivery]

/-- A result that is accepted shows in the books. -/
theorem books_accept (d : Dispatcher σ) (r : TaskResult) (backlog : Backlog) (roster : Roster) :
    (record { d with backlog, roster, outbox := d.outbox.addCompleted r } (.accepted r)).books
      = { d.books with
          backlog, outbox := d.outbox.addCompleted r, accepted := d.books.accepted ++ [r] } := by
  rw [books_record]
  simp [books, Entry.admission?, Entry.acceptance?, Entry.delivery]

theorem books_answer (d : Dispatcher σ) (caller : Nat) (a : Answer) :
    (d.answer caller a).books = { d.books with delivered := d.books.delivered ++ a.delivery } := by
  simp [answer, books_record, Entry.admission?, Entry.acceptance?, Entry.delivery]

/-- An answer that brings no result does not show in the books. -/
theorem books_answer_of_delivery_eq_nil (d : Dispatcher σ) (caller : Nat) {a : Answer}
    (h : a.delivery = []) : (d.answer caller a).books = d.books := by
  simp [books_answer, h]

end Dispatcher

/-- One errand of some collaborator, whatever came of it. -/
def Collaborators.Runs {σ : Type u} (c : Collaborators σ) (w w' : σ) : Prop := ∃ e, c.carry e w = w'

namespace Dispatcher

variable {σ : Type u} (c : Collaborators σ)

/-! ### Where a dispatcher is led -/

/-- From one dispatcher to another, the books went through changes, the world went through errands,
and nothing was struck from the journal. -/
structure Leads (brings : TaskResult → Prop) (d d' : Dispatcher σ) : Prop where
  /-- What happened to the books. -/
  books : Books.Changes brings d.books d'.books
  /-- What happened to the world. -/
  world : Relation.ReflTransGen c.Runs d.world d'.world
  /-- What was done stays done. -/
  journal : d.journal <+: d'.journal

/-- From one dispatcher to another, whatever results were taken in. -/
abbrev LeadsOn (d d' : Dispatcher σ) : Prop := Leads c (fun _ => True) d d'

namespace Leads

variable {c} {brings : TaskResult → Prop} {d d₁ d₂ : Dispatcher σ}

theorem trans (h₁ : Leads c brings d d₁) (h₂ : Leads c brings d₁ d₂) : Leads c brings d d₂ :=
  ⟨h₁.books.trans h₂.books, h₁.world.trans h₂.world, h₁.journal.trans h₂.journal⟩

/-- The desk may change where the books do not show it. -/
theorem of_eq (books : d₁.books = d.books) (world : d₁.world = d.world)
    (journal : d.journal <+: d₁.journal) : Leads c brings d d₁ :=
  ⟨books ▸ .refl, world ▸ .refl, journal⟩

theorem of_parked (d : Dispatcher σ) (parked : Option (Nat × Wait)) :
    Leads c brings d { d with parked } :=
  of_eq rfl rfl List.prefix_rfl

theorem of_change (change : Books.Change brings d.books d₁.books) (world : d₁.world = d.world)
    (journal : d.journal <+: d₁.journal) : Leads c brings d d₁ :=
  ⟨.single change, world ▸ .refl, journal⟩

theorem refl (d : Dispatcher σ) : Leads c brings d d := of_eq rfl rfl List.prefix_rfl

theorem of_sent {e : Errand} (sent : Sent c e d d₁) : Leads c brings d d₁ := by
  refine ⟨books_of_sent sent ▸ .refl, ?_, ?_⟩
  all_goals obtain ⟨ok⟩ := sent
  · exact .single ⟨e, rfl⟩
  · exact List.prefix_append ..

theorem answer (d : Dispatcher σ) (caller : Nat) {a : Answer} (quiet : a.delivery = []) :
    Leads c brings d (d.answer caller a) :=
  of_eq (books_answer_of_delivery_eq_nil d caller quiet) rfl (List.prefix_append ..)

end Leads

/-! ### What each step leads to -/

variable {c} {brings : TaskResult → Prop} {d d' : Dispatcher σ}

instance : Std.Refl (Leads c brings) := ⟨Leads.refl⟩

instance : IsTrans (Dispatcher σ) (Leads c brings) := ⟨fun _ _ _ => Leads.trans⟩

theorem Leads.of_errands {kind : Errand → Prop} (errands : Errands c kind d d') : Leads c brings d d' :=
  relates_errands (fun _ sent => .of_sent sent) errands

theorem Step.leads {a : Act} (step : Step c d a d') (brought : ∀ r, a = .accept r → brings r) :
    Leads c brings d d' := by
  cases step with
  | errand sent => exact .of_sent sent
  | enroll | remove | sleep | park => exact .of_eq rfl rfl List.prefix_rfl
  | requeue requeued _ => exact .of_change (.requeue requeued) rfl List.prefix_rfl
  | @rouse _ id backlog requeued _ =>
    have put : Leads c brings d { d with backlog } := .of_change (.requeue requeued) rfl List.prefix_rfl
    exact put.trans (.of_errands (errands_wakeSleepers c _))
  | launch name launched => exact .of_change (.launch launched) rfl List.prefix_rfl
  | @miss _ id launched backlog name launch back =>
    have away : Leads c brings d (d.launch name id launched) :=
      .of_change (.launch launch) rfl List.prefix_rfl
    have putBack : Leads c brings (d.launch name id launched) { d.launch name id launched with backlog } :=
      .of_change (.putBack back) rfl List.prefix_rfl
    exact (away.trans putBack).trans (.of_sent (.intro false))
  | @enter _ id backlog enqueued =>
    have change : Books.Change brings d.books _ := .submit enqueued
    exact .of_change (books_enter d id backlog ▸ change) rfl (List.prefix_append ..)
  | @accept _ r _ _ completed =>
    have change : Books.Change brings d.books _ := .complete completed (brought r rfl)
    exact .of_change (books_accept d r _ _ ▸ change) rfl (List.prefix_append ..)
  | reorder _ order => exact .of_change (.reorder order) rfl List.prefix_rfl
  | answer _ caller quiet => exact .answer d caller quiet
  | refuse => exact (Leads.of_parked d none).trans (.answer _ _ rfl)
  | drop => exact .of_eq (books_dropped _ _) rfl (List.prefix_append ..)
  | deliver k _ _ bears =>
    have change : Books.Change brings d.books _ := .deliver k
    refine .of_change ?_ rfl (List.prefix_append ..)
    rw [books_answer, bears]
    exact change
  | close => exact .of_change .close rfl List.prefix_rfl

/-- **Where a chain of steps leads**, if the results that it takes in may be taken in. -/
theorem Does.leads {kind : Act → Prop} (does : Does c kind d d')
    (brought : ∀ r, kind (.accept r) → brings r) : Leads c brings d d' :=
  does.relates fun fits step => step.leads fun r here => brought r (here ▸ fits)

theorem Does.leadsOn {kind : Act → Prop} (does : Does c kind d d') : LeadsOn c d d' :=
  does.leads fun _ _ => trivial

variable (c)

/-- Where a call leads. -/
theorem leads_serveOrRefuse (present : Attendance) (d : Dispatcher σ) (call : Call)
    (brought : ∀ r ∈ call.result?, brings r) : Leads c brings d (d.serveOrRefuse c present call) :=
  (does_serveOrRefuse c d present call).leads brought

/-- Where a look leads. -/
theorem leads_serveParked (present : Attendance) (d : Dispatcher σ) :
    Leads c brings d (d.serveParked present) :=
  (does_serveParked c d present).leads nofun

/-- **What a move does to the books.** Every move is a chain of changes. -/
theorem changes_move (d : Dispatcher σ) (m : Move σ) (brought : ∀ r ∈ m.result?, brings r) :
    Books.Changes brings d.books (d.move c m).books := by
  cases m with
  | call present call => exact (leads_serveOrRefuse c present d call brought).books
  | look present => exact (leads_serveParked c present d).books
  | outside change => exact .refl

/-- A run is a chain of changes, too. -/
theorem changes_moves (d : Dispatcher σ) (ms : List (Move σ))
    (brought : ∀ m ∈ ms, ∀ r ∈ m.result?, brings r) :
    Books.Changes brings d.books (d.moves c ms).books := by
  induction ms generalizing d with
  | nil => exact .refl
  | cons m ms ih =>
    have first := changes_move c d m (brought m List.mem_cons_self)
    exact first.trans (ih (d.move c m) fun m' mem => brought m' (List.mem_cons_of_mem m mem))

/-- So it is whatever results are brought. -/
theorem changes_any (d : Dispatcher σ) (ms : List (Move σ)) :
    Books.Changes (fun _ => True) d.books (d.moves c ms).books :=
  changes_moves c d ms fun _ _ _ _ => trivial

/-- Nothing is struck from the journal by a move. -/
theorem journal_move (d : Dispatcher σ) (m : Move σ) : d.journal <+: (d.move c m).journal := by
  cases m with
  | call present call =>
    have leads : LeadsOn c d (d.serveOrRefuse c present call) :=
      leads_serveOrRefuse c present d call fun _ _ => trivial
    exact leads.journal
  | look present =>
    have leads : LeadsOn c d (d.serveParked present) := leads_serveParked c present d
    exact leads.journal
  | outside change => exact List.prefix_rfl

theorem journal_moves (d : Dispatcher σ) (ms : List (Move σ)) :
    d.journal <+: (d.moves c ms).journal := by
  induction ms generalizing d with
  | nil => exact List.prefix_rfl
  | cons m ms ih => exact (journal_move c d m).trans (ih _)

/-- What every change of the books preserves holds after every run, if it holds of empty books. -/
theorem books_moves_start {P : Books → Prop}
    (step : ∀ {b b'}, Books.Change (fun _ => True) b b' → P b → P b')
    (order : DeliveryOrder) (world : σ) (empty : P (start order world).books)
    (ms : List (Move σ)) : P ((start order world).moves c ms).books :=
  (changes_any c _ ms).preserve step empty

end Dispatcher

end WorkFarm
