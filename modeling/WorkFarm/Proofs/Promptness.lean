import WorkFarm.Proofs.Waits
/-!
# A wait that is answered in time

A parked wait is looked at after the calls of workers and the calls that are answered at once, and not
between them. So what matters is whether there are results enough when all of these have been served,
and not whether there were in between.

For the next result, and for so many of them, this makes no difference: what is available stays
available until somebody is delivered it, and nobody is while a wait is parked (`Bypasses`). For all
results it does make one. They are all there when none is owed, and a submission that comes later in
the same batch is owed a result anew. Then the wait stays, by design: it is for all results of a moment,
and the moment is the end of the round. There is no other way in which it can miss its results
(`process_prompt`): once nothing is owed no task is launched, and so only a submission that is accepted
changes anything.

## Main definitions

* `Dispatcher.Bypasses` — calls that leave the parked wait alone and deliver nothing were served

## Main statements

* `process_prompt` — who is answered at the end of a round, if there were results enough within it
* `process_late` — a wait for all results misses them
-/

namespace WorkFarm

universe u

/-- More results may become available: for some number of them there are still enough. -/
theorem Wait.Ready.mono {o o' : Outbox} {w : Wait} (ready : w.Ready o) (some : w ≠ .all)
    (more : o.countAvailable ≤ o'.countAvailable) : w.Ready o' := by
  cases w with
  | one => exact Nat.le_trans ready more
  | all => exact absurd rfl some
  | exactly k => exact Nat.le_trans ready more

theorem Call.passes_of_priority {call : Call} (answered : call.priority ≠ .wait)
    (runs : ∀ free, call.request ≠ .terminate free) : call.Passes :=
  ⟨fun w asked => answered (by rw [Call.priority, asked]; rfl), runs⟩

theorem Call.wait_of_priority {call : Call} (waits : call.priority = .wait) :
    ∃ w, call.request = .wait w := by
  obtain ⟨caller, request⟩ := call
  cases request with
  | wait w => exact ⟨w, rfl⟩
  | _ => cases waits

theorem Call.request_ne_submit {call : Call} (works : call.priority = .worker) (ids : List TaskId) :
    call.request ≠ .submit ids := by
  intro asked
  rw [Call.priority, asked] at works
  cases works

theorem Call.result?_eq_none {call : Call} (asks : call.priority = .client) :
    call.result? = none := by
  obtain ⟨caller, request⟩ := call
  cases request with
  | handIn r h => cases asks
  | _ => rfl

theorem Outbox.length_results (o : Outbox) : o.results.length = o.held.size + o.countAvailable := by
  simp [results, countAvailable, Table.size_eq_length_values]

/-- Nothing is owed, and a result is there. If no result is accepted and none delivered, all results
are there as long as nothing is submitted. A submission that is accepted has its result missing. -/
theorem Books.Conserved.ready_all {b b' : Books} (conserved : b.Conserved)
    (conserved' : b'.Conserved) (admitted : b.admitted <+: b'.admitted)
    (accepted : b'.accepted.length = b.accepted.length) (delivered : b'.delivered = b.delivered)
    (more : b.outbox.countAvailable ≤ b'.outbox.countAvailable) (ready : Wait.all.Ready b.outbox) :
    (b'.admitted = b.admitted → Wait.all.Ready b'.outbox) ∧
      (b'.admitted ≠ b.admitted → Wait.all.Blocked b'.outbox) := by
  obtain ⟨owed, there⟩ := conserved
  obtain ⟨owed', there'⟩ := conserved'
  obtain ⟨none, some⟩ := ready
  rw [Outbox.length_results] at there there'
  rw [Outbox.countPending] at none
  rw [delivered] at there'
  refine ⟨fun same => ⟨?_, by omega⟩, fun differ => .inl ?_⟩
  all_goals rw [Outbox.countPending]
  · rw [same] at owed'
    omega
  · have longer : b.admitted.length ≠ b'.admitted.length :=
      fun length => differ (admitted.eq_of_length length).symm
    have length := admitted.length_le
    omega

namespace Dispatcher

variable {σ : Type u} (c : Collaborators σ)

/-! ### Calls that pass by -/

/-- The same wait is parked, and nothing was delivered. -/
structure Bypasses (d d' : Dispatcher σ) : Prop where
  parked : d'.parked = d.parked
  closed : d'.closed = d.closed
  books : Books.Changes (fun _ => True) d.books d'.books
  journal : d.journal <+: d'.journal
  delivered : d'.books.delivered = d.books.delivered

namespace Bypasses

variable {d d₁ d₂ : Dispatcher σ}

theorem refl (d : Dispatcher σ) : Bypasses d d := ⟨rfl, rfl, .refl, List.prefix_rfl, rfl⟩

theorem trans (h₁ : Bypasses d d₁) (h₂ : Bypasses d₁ d₂) : Bypasses d d₂ :=
  ⟨h₂.parked.trans h₁.parked, h₂.closed.trans h₁.closed, h₁.books.trans h₂.books,
    h₁.journal.trans h₂.journal, h₂.delivered.trans h₁.delivered⟩

/-- What is available stays available. -/
theorem countAvailable_le (bypasses : Bypasses d d₁) (running : d.closed = false) :
    d.outbox.countAvailable ≤ d₁.outbox.countAvailable := by
  have outgoing := Books.outgoing_changes bypasses.books (bypasses.closed.trans running)
  rw [Books.outgoing, Books.outgoing, bypasses.delivered, List.prefix_append_right_inj] at outgoing
  exact outgoing.length_le

end Bypasses

variable (present : Attendance) {d d' : Dispatcher σ} {call : Call}

theorem bypasses_serve (passes : call.Passes) : Bypasses d (d.serve c present call) := by
  obtain ⟨d₁, a, aside, -, quiet, served⟩ := serve_passing c present d passes
  obtain ⟨books, -, journal⟩ := (does_serve c d present call).leadsOn
  refine ⟨served ▸ aside.parked, served ▸ aside.closed, books, journal, ?_⟩
  rw [served, books_answer_of_delivery_eq_nil d₁ call.caller quiet]
  exact aside.delivered

/-- A call that does not submit admits nothing. -/
theorem admitted_serve (passes : call.Passes) (other : ∀ ids, call.request ≠ .submit ids) :
    (d.serve c present call).books.admitted = d.books.admitted := by
  obtain ⟨d₁, a, aside, -, quiet, served⟩ := serve_passing c present d passes
  rw [served, books_answer_of_delivery_eq_nil d₁ call.caller quiet]
  exact aside.admitted other

/-- A call that hands in no result has none accepted. -/
theorem accepted_serve (passes : call.Passes) (none : call.result? = none) :
    (d.serve c present call).books.accepted = d.books.accepted := by
  obtain ⟨d₁, a, aside, -, quiet, served⟩ := serve_passing c present d passes
  rw [served, books_answer_of_delivery_eq_nil d₁ call.caller quiet]
  exact aside.accepted none

theorem serveOrRefuse_of_running (running : d.closed = false) :
    d.serveOrRefuse c present call = d.serve c present call := by
  simp [serveOrRefuse, running]

theorem bypasses_outside (d : Dispatcher σ) (change : σ → σ) :
    Bypasses d { d with world := change d.world } :=
  ⟨rfl, rfl, .refl, List.prefix_rfl, rfl⟩

variable {calls : List Call} {ms : List (Move σ)}

/-- Calls that pass by one after another pass by together. -/
theorem bypasses_serves (serves : Serves calls ms) (passes : ∀ call ∈ calls, call.Passes)
    (running : d.closed = false) : Bypasses d (d.moves c ms) := by
  induction serves generalizing d with
  | done => exact .refl d
  | call present call _ ih =>
    have first : Bypasses d (d.serve c present call) :=
      bypasses_serve c present (passes _ List.mem_cons_self)
    rw [moves_cons, move, serveOrRefuse_of_running c present running]
    exact first.trans (ih (fun call mem => passes call (List.mem_cons_of_mem _ mem))
      (first.closed.trans running))
  | outside change _ ih => exact (bypasses_outside d change).trans (ih passes running)

/-- What is the same in the books after each of some calls is the same after all of them. -/
theorem same_serves {α : Type} (view : Books → α) (serves : Serves calls ms)
    (passes : ∀ call ∈ calls, call.Passes)
    (same : ∀ (d : Dispatcher σ) present, ∀ call ∈ calls,
      view (d.serve c present call).books = view d.books)
    (running : d.closed = false) : view (d.moves c ms).books = view d.books := by
  induction serves generalizing d with
  | done => rfl
  | call present call _ ih =>
    have first : Bypasses d (d.serve c present call) :=
      bypasses_serve c present (passes _ List.mem_cons_self)
    rw [moves_cons, move, serveOrRefuse_of_running c present running]
    refine (ih (fun call mem => passes call (List.mem_cons_of_mem _ mem))
      (fun d present call mem => same d present call (List.mem_cons_of_mem _ mem))
      (first.closed.trans running)).trans (same d present call List.mem_cons_self)
  | outside change _ ih => exact ih (d := { d with world := change d.world }) passes same running

/-! ### Once nothing is owed -/

theorem Seated.running_of_parked (seated : d.Seated) {caller : Nat} {w : Wait}
    (parked : d.parked = some (caller, w)) : d.closed = false := by
  cases closed : d.closed with
  | false => rfl
  | true =>
    rw [seated.free closed] at parked
    cases parked

/-- Once nothing is owed, no result is accepted: a call of a worker finds no task that is launched, and
other calls bring none. -/
theorem accepted_rest (seated : d.Seated) (running : d.closed = false)
    (settled : d.outbox.outstanding = []) {workers clients : List Call} {works asks : List (Move σ)}
    (serves : Serves workers works) (serves' : Serves clients asks)
    (working : ∀ call ∈ workers, call.Passes ∧ ∀ ids, call.request ≠ .submit ids)
    (asking : ∀ call ∈ clients, call.Passes ∧ call.result? = none) :
    ((d.moves c works).moves c asks).books.accepted.length = d.books.accepted.length := by
  have passing : ∀ call ∈ workers, call.Passes := fun call mem => (working call mem).1
  have pass := bypasses_serves c serves passing running
  have admitted := same_serves c Books.admitted serves passing
    (fun d present call mem => admitted_serve c present (working call mem).1 (working call mem).2)
    running
  have after := (seated.moves c works).conserved
  generalize d.moves c works = d₁ at pass admitted after ⊢
  have running₁ : d₁.closed = false := pass.closed.trans running
  have accepted := same_serves c Books.accepted serves' (fun call mem => (asking call mem).1)
    (fun d present call mem => accepted_serve c present (asking call mem).1 (asking call mem).2)
    running₁
  rw [accepted]
  -- the workers admit nothing, so there is no debt that a result of theirs could settle
  have owed := (seated.conserved running).admitted
  have owed₁ := (after running₁).admitted
  have nothing : d.books.outbox.outstanding.length = 0 := List.length_eq_zero_iff.mpr settled
  have more : d.books.accepted.length ≤ d₁.books.accepted.length :=
    (pass.journal.filterMap _).length_le
  rw [admitted] at owed₁
  omega

/-! ### Waits, and the look at the end -/

variable {present}

theorem admitted_answer (d : Dispatcher σ) (caller : Nat) (a : Answer) :
    (d.answer caller a).books.admitted = d.books.admitted := by
  rw [books_answer]

theorem Look.admitted (look : Look present d d') : d'.books.admitted = d.books.admitted := by
  cases look with
  | idle | stays => rfl
  | dropped => exact congrArg Books.admitted (books_dropped _ _)
  | refused | served => exact admitted_answer _ _ _

theorem admitted_park (caller : Nat) (v : Wait) :
    (d.park present caller v).books.admitted = d.books.admitted := by
  have first := (look_serveParked present d).admitted
  unfold park
  dsimp only
  split
  · exact (admitted_answer ..).trans first
  · exact (look_serveParked present _).admitted.trans first

variable {waits : List Call}

/-- Waits admit nothing. -/
theorem admitted_waits (serves : Serves waits ms)
    (waiting : ∀ call ∈ waits, ∃ v, call.request = .wait v) :
    (d.moves c ms).books.admitted = d.books.admitted := by
  induction serves generalizing d with
  | done => rfl
  | call present call _ ih =>
    refine (ih fun call mem => waiting call (List.mem_cons_of_mem _ mem)).trans ?_
    obtain ⟨v, asked⟩ := waiting call List.mem_cons_self
    rw [move, serveOrRefuse]
    split
    · exact admitted_answer ..
    · rw [serve_wait c asked]
      exact admitted_park call.caller v
  | outside change _ ih => exact ih (d := { d with world := change d.world }) waiting

variable {caller : Nat} {w : Wait}

theorem Move.here_of_not_misses {m : Move σ} (here : ¬ m.Misses caller)
    (asked : m.present? = some present) : present.gone caller = false ∧ present.leaves caller = false := by
  have here : ¬ present.Misses caller := fun misses => here ⟨present, asked, misses⟩
  rwa [Attendance.Misses, not_or, Bool.not_eq_true, Bool.not_eq_true] at here

/-- If there are results enough for the parked wait, it is answered with them: when the next wait comes
in, or at the end of the round. -/
theorem answered_waits (serves : Serves waits ms)
    (waiting : ∀ call ∈ waits, ∃ v, call.request = .wait v)
    (running : d.closed = false) (parked : d.parked = some (caller, w))
    (here : ∀ m ∈ ms ++ [.look present], ¬ m.Misses caller)
    (valid : w.Valid d.outbox) (ready : w.Ready d.outbox) :
    ∃ a, w.Suits a ∧
      d.journal ++ [.answered caller a] <+: (d.moves c (ms ++ [.look present])).journal := by
  -- the first wait that comes looks at the parked one, and without any the look at the end does
  induction serves generalizing d with
  | done =>
    obtain ⟨came, stays⟩ := Move.here_of_not_misses (here _ List.mem_cons_self) rfl
    obtain ⟨a, suits, journal⟩ := serveParked_of_ready parked came stays valid ready
    exact ⟨a, suits, journal ▸ List.prefix_rfl⟩
  | @call present' call calls ms rest ih =>
    obtain ⟨v, asked⟩ := waiting call List.mem_cons_self
    obtain ⟨came, stays⟩ := Move.here_of_not_misses (here _ List.mem_cons_self) rfl
    obtain ⟨a, suits, journal⟩ := serveParked_of_ready parked came stays valid ready
    have first : LeadsOn c (d.serveParked present') (d.park present' call.caller v) := by
      unfold park
      dsimp only
      split
      · exact .answer _ _ rfl
      · exact (Leads.of_parked _ _).trans (leads_serveParked c present' _)
    have served : d.move c (.call present' call) = d.park present' call.caller v := by
      rw [move, serveOrRefuse_of_running c present' running, serve_wait c asked]
    refine ⟨a, suits, ?_⟩
    rw [List.cons_append, moves_cons, served, ← journal]
    exact first.journal.trans (journal_moves c _ _)
  | outside change _ ih =>
    exact ih (d := { d with world := change d.world }) waiting running parked
      (fun m mem => here m (List.mem_cons_of_mem _ mem)) valid ready

/-- If the parked wait has a reason to stay, it stays: other waits are refused, and nothing is
delivered. -/
theorem stays_waits (serves : Serves waits ms)
    (waiting : ∀ call ∈ waits, ∃ v, call.request = .wait v)
    (running : d.closed = false) (parked : d.parked = some (caller, w))
    (here : ∀ m ∈ ms ++ [.look present], ∀ p ∈ m.present?, p.gone caller = false)
    (blocked : w.Blocked d.outbox) :
    let d' := d.moves c (ms ++ [.look present])
    d'.parked = some (caller, w) ∧ d'.books.delivered = d.books.delivered := by
  induction serves generalizing d with
  | done =>
    rw [List.nil_append, moves_cons, move,
      serveParked_of_blocked parked (here _ List.mem_cons_self _ rfl) blocked]
    exact ⟨parked, rfl⟩
  | @call present' call calls ms _ ih =>
    obtain ⟨v, asked⟩ := waiting call List.mem_cons_self
    have refused : d.move c (.call present' call)
        = d.answer call.caller (.refused .alreadyWaiting) := by
      rw [move, serveOrRefuse_of_running c present' running, serve_wait c asked, park,
        serveParked_of_blocked parked (here _ List.mem_cons_self _ rfl) blocked]
      simp [parked]
    have quiet := books_answer_of_delivery_eq_nil d call.caller
      (a := .refused .alreadyWaiting) rfl
    rw [List.cons_append, moves_cons, refused, ← quiet]
    exact ih (fun call mem => waiting call (List.mem_cons_of_mem _ mem)) running parked
      (fun m mem => here m (List.mem_cons_of_mem _ mem)) blocked
  | outside change _ ih =>
    exact ih (d := { d with world := change d.world }) waiting running parked
      (fun m mem => here m (List.mem_cons_of_mem _ mem)) blocked

/-! ### A round -/

/-- From one dispatcher to another, a caller was answered with what a wait asks for. -/
def Satisfied (d d' : Dispatcher σ) (caller : Nat) (w : Wait) : Prop :=
  ∃ a, w.Suits a ∧ .answered caller a ∈ d.since d'

theorem Satisfied.of_prefix {a : Answer} (suits : w.Suits a)
    (answered : d.journal ++ [.answered caller a] <+: d'.journal) : Satisfied d d' caller w := by
  obtain ⟨es, journal⟩ := answered
  rw [List.append_assoc] at journal
  exact ⟨a, suits, by simp [since_eq journal.symm]⟩

theorem Satisfied.of_later {d₁ : Dispatcher σ} (satisfied : Satisfied d₁ d' caller w)
    (later : d.journal <+: d₁.journal) : Satisfied d d' caller w :=
  satisfied.imp fun _ suits => ⟨suits.1, mem_since_of_since later suits.2⟩

theorem Satisfied.mem_answers (satisfied : Satisfied d d' caller w) :
    caller ∈ (Journal.answers (d.since d')).map Prod.fst := by
  obtain ⟨a, -, mem⟩ := satisfied
  have answered : (caller, a) ∈ Journal.answers (d'.journal.drop d.journal.length) :=
    List.mem_filterMap.mpr ⟨_, mem, rfl⟩
  exact List.mem_map_of_mem answered

/-- There are results enough for the parked wait, and the rest of a round is served. -/
theorem satisfied_rest (seated : d.Seated) (parked : d.parked = some (caller, w))
    (ready : w.Ready d.outbox) {workers clients waits : List Call} {works asks lasts : List (Move σ)}
    (here : ∀ m ∈ lasts ++ [.look present], ¬ m.Misses caller)
    (serves : Serves workers works) (serves' : Serves clients asks) (serves'' : Serves waits lasts)
    (working : ∀ call ∈ workers, call.Passes ∧ ∀ ids, call.request ≠ .submit ids)
    (asking : ∀ call ∈ clients, call.Passes ∧ call.result? = none)
    (waiting : ∀ call ∈ waits, ∃ v, call.request = .wait v) :
    let d' := ((d.moves c works).moves c asks).moves c (lasts ++ [.look present])
    ((w = .all → d'.books.admitted = d.books.admitted) → Satisfied d d' caller w) ∧
      (w = .all → d'.books.admitted ≠ d.books.admitted →
        d'.parked = some (caller, w) ∧ d'.books.delivered = d.books.delivered) := by
  intro d'
  have running := seated.running_of_parked parked
  have works_pass : Bypasses d (d.moves c works) :=
    bypasses_serves c serves (fun call mem => (working call mem).1) running
  have pass : Bypasses d ((d.moves c works).moves c asks) :=
    works_pass.trans (bypasses_serves c serves' (fun call mem => (asking call mem).1)
      (works_pass.closed.trans running))
  have seated₁ : ((d.moves c works).moves c asks).Seated := (seated.moves c works).moves c asks
  have accepted := fun settled => accepted_rest c seated running settled serves serves' working asking
  generalize ends : (d.moves c works).moves c asks = d₁ at pass seated₁ accepted
  have running₁ : d₁.closed = false := pass.closed.trans running
  have parked₁ : d₁.parked = some (caller, w) := pass.parked.trans parked
  have more := pass.countAvailable_le running
  -- the waits admit nothing, so what matters is how it stands when they come
  have admitted : d'.books.admitted = d₁.books.admitted := by
    simp only [d', ends, moves_append]
    exact (look_serveParked present _).admitted.trans (admitted_waits c serves'' waiting)
  have served (ready₁ : w.Ready d₁.outbox) : Satisfied d d' caller w := by
    obtain ⟨a, suits, answered⟩ := answered_waits c serves'' waiting running₁ parked₁ here
      (seated₁.valid caller w parked₁) ready₁
    rw [← ends] at answered pass
    exact (Satisfied.of_prefix suits answered).of_later pass.journal
  by_cases every : w = .all
  · subst every
    have accepted := accepted (List.length_eq_zero_iff.mp (Nat.add_eq_zero_iff.mp ready.1).1)
    obtain ⟨same, differ⟩ := (seated.conserved running).ready_all (seated₁.conserved running₁)
      (pass.journal.filterMap _) accepted pass.delivered more ready
    rw [admitted]
    refine ⟨fun none => served (same (none rfl)), fun _ some => ?_⟩
    obtain ⟨parked', delivered⟩ := stays_waits c serves'' waiting running₁ parked₁
      (fun m mem _ asked => (Move.here_of_not_misses (here m mem) asked).1) (differ some)
    simp only [d', ends]
    exact ⟨parked', delivered.trans pass.delivered⟩
  · exact ⟨fun _ => served (ready.mono every more), fun all => absurd all every⟩

/-- What is left of a batch after some calls of workers and some that are answered at once: first calls
of workers, then calls that are answered at once, then the waits. -/
theorem exists_rest {batch served : List Call} (initial : served <+:
      batch.filter (·.priority = .worker) ++ batch.filter (·.priority = .client)) :
    ∃ workers clients,
      inTurn batch = served ++ (workers ++ (clients ++ batch.filter (·.priority = .wait))) ∧
      (∀ call ∈ workers, call ∈ batch ∧ call.priority = .worker) ∧
      ∀ call ∈ clients, call ∈ batch ∧ call.priority = .client := by
  obtain ⟨rest, whole⟩ := initial
  have workers : ∀ call ∈ batch.filter (·.priority = .worker),
      call ∈ batch ∧ call.priority = .worker := by simp
  have clients : ∀ call ∈ batch.filter (·.priority = .client),
      call ∈ batch ∧ call.priority = .client := by simp
  rcases List.append_eq_append_iff.mp whole with ⟨left, split, rfl⟩ | ⟨left, rfl, split⟩
  · refine ⟨left, batch.filter (·.priority = .client), ?_, fun call mem => workers call ?_, clients⟩
    · simp [inTurn, split]
    · exact split ▸ List.mem_append_right _ mem
  · refine ⟨[], rest, ?_, nofun, fun call mem => clients call ?_⟩
    · simp [inTurn, split]
    · exact split ▸ List.mem_append_right _ mem

/-- **A wait is answered in the round that satisfies it.** A wait is parked, and a batch is served that
does not stop the dispatcher. The caller of the wait is there all the time; of the others, anybody may
leave at any time. Suppose that there are results enough for the wait after some of the calls of workers
and the calls that are answered at once. Then at the end of the round the caller has been answered with
them. For a wait for all results there is one exception, and it is exact: a submission that comes after
those calls is accepted. Then the wait stays, and nothing is delivered to anyone. -/
theorem process_prompt (order : DeliveryOrder) (world : σ) (ms : List (Move σ)) (round : Round σ)
    (early : List (Move σ)) {caller : Nat} {w : Wait}
    (parked : ((start order world).moves c ms).parked = some (caller, w))
    (here : ∀ m ∈ round.moves, ¬ m.Misses caller)
    (runs : ∀ call ∈ round.calls, ∀ free, call.request ≠ .terminate free)
    (begins : early <+: round.serving)
    (initial : early.filterMap Move.call? <+: round.calls.filter (·.priority = .worker) ++
      round.calls.filter (·.priority = .client))
    (ready : w.Ready (((start order world).moves c ms).moves c early).outbox) :
    let d := (start order world).moves c ms
    let d₁ := d.moves c early
    let d' := d.moves c round.moves
    ((w = .all → Journal.admitted d'.journal = Journal.admitted d₁.journal) →
        Satisfied d d' caller w) ∧
      (w = .all → Journal.admitted d'.journal ≠ Journal.admitted d₁.journal →
        d'.parked = some (caller, w) ∧
          Journal.delivered d'.journal = Journal.delivered d.journal) := by
  intro d d₁ d'
  have seated : d.Seated := seated_moves c order world ms
  have running : d.closed = false := seated.running_of_parked parked
  obtain ⟨later, moves⟩ := begins
  obtain ⟨served, rest, turn, first, others⟩ := (moves ▸ round.serves).split
  rw [first.calls_eq] at initial
  obtain ⟨workers, clients, whole, working, asking⟩ := exists_rest initial
  obtain rfl : rest = _ := List.append_cancel_left (turn.symm.trans whole)
  obtain ⟨works, later', rfl, serves, others⟩ := others.of_append
  obtain ⟨asks, lasts, rfl, serves', serves''⟩ := others.of_append
  have passing : ∀ call ∈ round.calls, call.priority ≠ .wait → call.Passes :=
    fun call mem answered => call.passes_of_priority answered (runs call mem)
  have passed : ∀ call ∈ served, call.Passes := fun call mem => by
    have listed := List.mem_append.mp (initial.subset mem)
    simp only [List.mem_filter, decide_eq_true_eq] at listed
    rcases listed with ⟨mem, works⟩ | ⟨mem, asks⟩
    · exact passing call mem (by simp [works])
    · exact passing call mem (by simp [asks])
  have before : Bypasses d d₁ := bypasses_serves c first passed running
  have finish : d' = ((d₁.moves c works).moves c asks).moves c (lasts ++ [.look round.present]) := by
    simp only [d', d₁, Round.moves, ← moves, moves_append]
  have last : ∀ m ∈ lasts ++ [.look round.present], m ∈ round.moves := fun m mem => by
    rw [Round.moves, ← moves]
    simp only [List.mem_append] at mem ⊢
    exact mem.imp_left fun mem => .inr (.inr (.inr mem))
  obtain ⟨satisfied, late⟩ := satisfied_rest c (seated.moves c early) (before.parked.trans parked)
    ready (fun m mem => here m (last m mem)) serves serves' serves''
    (fun call mem => ⟨passing call (working call mem).1 (by simp [(working call mem).2]),
      Call.request_ne_submit (working call mem).2⟩)
    (fun call mem => ⟨passing call (asking call mem).1 (by simp [(asking call mem).2]),
      Call.result?_eq_none (asking call mem).2⟩)
    (fun call mem => call.wait_of_priority (of_decide_eq_true (List.mem_filter.mp mem).2))
  rw [finish]
  refine ⟨fun none => (satisfied none).of_later before.journal, fun all some => ?_⟩
  obtain ⟨parked', delivered⟩ := late all some
  exact ⟨parked', delivered.trans before.delivered⟩

/-- A client waits for all results, and one is owed. -/
def lastOne : List (Move Vault) :=
  [.outside fun v => ((v.store (.bool true)).2.store (.bool false)).2,
    .call {} ⟨0, .submit [⟨1⟩]⟩,
    .call {} ⟨1, .requestTask ⟨0, "ann"⟩⟩,
    .call {} ⟨2, .wait .all⟩]

/-- The result that is owed is handed in. -/
def handsIn : Call := ⟨3, .handIn ⟨⟨1⟩, .ok (.bool true), "ann"⟩ ⟨0, "ann"⟩⟩

/-- Another task is submitted. -/
def submitsAnother : Call := ⟨4, .submit [⟨2⟩]⟩

/-- The result that is owed is handed in, and a known task is submitted. Whoever submits it has left by
then, and another client leaves while it waits. -/
def busyRound : Round Vault where
  calls := [⟨5, .wait .one⟩, ⟨4, .submit [⟨1⟩]⟩, handsIn]
  serving := [.call {} handsIn, .call { gone := (· = 4) } ⟨4, .submit [⟨1⟩]⟩,
    .call { gone := (· = 4), leaves := (· = 5) } ⟨5, .wait .one⟩]
  present := { gone := fun caller => caller = 4 ∨ caller = 5 }
  serves := .call _ _ (.call _ _ (.call _ _ .done))

/-- The wait is answered, though a task is submitted in the same round. -/
theorem process_prompt_lastOne :
    let d := (start .completion {}).moves .ofVault lastOne
    let d' := d.moves .ofVault busyRound.moves
    d.parked = some (2, .all) ∧ (∀ m ∈ busyRound.moves, ¬ m.Misses 2) ∧ Satisfied d d' 2 .all := by
  intro d d'
  have parked : d.parked = some (2, .all) := by decide
  have here : ∀ m ∈ busyRound.moves, ¬ m.Misses 2 := by
    simp [busyRound, Round.moves, Move.Misses, Move.present?, Attendance.Misses]
  have prompt := process_prompt .ofVault .completion {} lastOne busyRound [.call {} handsIn] parked
    here (by simp [busyRound, handsIn]) ⟨_, rfl⟩ ⟨[_], rfl⟩ ⟨by decide, by decide⟩
  exact ⟨parked, here, prompt.1 fun _ => by decide⟩

/-- **A wait for all results misses them**, when the last one comes in the same batch as a new task.
They were all there after the first call of the batch, and at its end the wait is still parked. -/
theorem process_late :
    let d := (start .completion {}).moves .ofVault lastOne
    let batch := [handsIn, submitsAnother]
    let d' := d.process .ofVault {} batch
    d.parked = some (2, .all) ∧
      (∀ call ∈ batch, ∀ free, call.request ≠ .terminate free) ∧
      [handsIn] <+: batch.filter (·.priority = .worker) ++ batch.filter (·.priority = .client) ∧
      Wait.all.Ready ([handsIn].foldl (serveOrRefuse .ofVault {}) d).outbox ∧
      d'.parked = some (2, .all) ∧ ¬ Satisfied d d' 2 .all := by
  intro d batch d'
  have others : (Journal.answers (d.since d')).map Prod.fst = [3, 4] := by
    decide
  refine ⟨by decide, by simp [batch, handsIn, submitsAnother], by exact ⟨_, rfl⟩,
    ⟨by decide, by decide⟩, by decide, fun satisfied => ?_⟩
  have mem := satisfied.mem_answers
  rw [others] at mem
  simp at mem

end Dispatcher

end WorkFarm
