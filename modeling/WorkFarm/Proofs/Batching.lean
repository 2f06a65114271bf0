import WorkFarm.Proofs.Answers
/-!
# Batches and single calls

A batch looks at the parked wait around its waits and at its end. Calls that come one by one, each as a
batch of its own, have it looked at after every one of them. The two ways of serving look different, and
they are the same as long as nobody is parked when the batch comes in.

What carries this is that a look has nothing to do after another look. It either frees the place for
the parked wait, or it leaves everything as it was, and then it would do so again (`Settled`). So a look
is wasted at every point of a batch: before the waits there is nothing to look at, and from the first
wait on each one ends with a look of its own. A call that stops the dispatcher makes no difference, for
it leaves nobody parked.

With a wait that is parked beforehand the statement fails. The looks between the calls may answer it
with results that a call of a client behind them still changes.

## Main definitions

* `Dispatcher.Settled` — a look changes nothing
* `Dispatcher.singly` — calls, each as a batch of its own

## Main statements

* `process_eq_run_singly` — a batch is the same as its calls one by one
-/

namespace WorkFarm

universe u

namespace Dispatcher

variable {σ : Type u} (c : Collaborators σ) {present : Attendance} {d : Dispatcher σ}

/-! ### A look changes nothing -/

/-- If a wait is parked, its caller is there, and it has a reason to stay. -/
def Settled (present : Attendance) (d : Dispatcher σ) : Prop :=
  ∀ caller w, d.parked = some (caller, w) → present.gone caller = false ∧ w.Blocked d.outbox

theorem Settled.of_free (free : d.parked = none) : d.Settled present := by
  intro caller w parked
  rw [free] at parked
  cases parked

theorem Settled.serveParked_eq (settled : d.Settled present) : d.serveParked present = d := by
  cases parked : d.parked with
  | none => exact serveParked_of_free present parked
  | some wait =>
    obtain ⟨here, blocked⟩ := settled wait.1 wait.2 parked
    exact serveParked_of_blocked parked here blocked

/-- There is nothing to do for a second look. -/
theorem settled_serveParked (present : Attendance) (d : Dispatcher σ) :
    (d.serveParked present).Settled present := by
  intro caller w parked
  obtain ⟨same, here, blocked⟩ := blocked_of_parked_serveParked parked
  rw [same]
  exact ⟨here, blocked⟩

theorem settled_park (present : Attendance) (d : Dispatcher σ) (caller : Nat) (w : Wait) :
    (d.park present caller w).Settled present := by
  have looked : (d.serveParked present).Settled present := settled_serveParked present d
  unfold park
  dsimp only
  split
  · exact looked
  · exact settled_serveParked present _

/-- Only a wait takes the place for the parked one. -/
theorem parked_serveOrRefuse_of_free (free : d.parked = none) {call : Call}
    (other : call.priority ≠ .wait) : (d.serveOrRefuse c present call).parked = none := by
  unfold serveOrRefuse
  split
  · exact free
  · rcases call.waits_or_terminates_or_passes with ⟨w, asked⟩ | ⟨stop, asked⟩ | passes
    · refine absurd ?_ other
      rw [Call.priority, asked]
      rfl
    · rw [serve_terminate c asked]
      exact parked_terminate c d stop
    · exact (bypasses_serve c present passes).parked.trans free

/-- A wait ends with a look of its own, unless the dispatcher has stopped. -/
theorem Settled.serveOrRefuse (settled : d.Settled present) {call : Call}
    (waits : call.priority = .wait) : (d.serveOrRefuse c present call).Settled present := by
  obtain ⟨w, asked⟩ := call.wait_of_priority waits
  unfold Dispatcher.serveOrRefuse
  split
  · exact settled
  · rw [serve_wait c asked]
    exact settled_park present d call.caller w

/-! ### One by one -/

/-- Calls, each as a batch of its own. -/
def singly (present : Attendance) (calls : List Call) : List Batch :=
  calls.map fun call => { calls := [call], present }

theorem inTurn_singleton (call : Call) : inTurn [call] = [call] := by
  cases priority : call.priority <;> simp [inTurn, priority]

theorem run_singly_cons (d : Dispatcher σ) (present : Attendance) (call : Call) (calls : List Call) :
    d.run c (singly present (call :: calls))
      = ((d.serveOrRefuse c present call).serveParked present).run c (singly present calls) := by
  change run c (d.process c present [call]) _ = _
  rw [process, inTurn_singleton]
  rfl

/-- In the order in which a batch is served, nothing but waits comes behind a wait. -/
theorem waits_last (batch : List Call) :
    (inTurn batch).Pairwise fun a b => a.priority = .wait → b.priority = .wait := by
  have early : ∀ call ∈ batch.filter (·.priority = .worker) ++ batch.filter (·.priority = .client),
      call.priority ≠ .wait := by
    intro call mem waits
    rcases List.mem_append.mp mem with mem | mem
    · exact absurd (waits.symm.trans (of_decide_eq_true (List.mem_filter.mp mem).2)) nofun
    · exact absurd (waits.symm.trans (of_decide_eq_true (List.mem_filter.mp mem).2)) nofun
  refine List.pairwise_append.mpr ⟨?_, ?_, fun call mem _ _ waits => absurd waits (early call mem)⟩
  · exact List.pairwise_of_forall_mem_list fun call mem _ _ waits => absurd waits (early call mem)
  · exact List.pairwise_of_forall_mem_list fun _ _ call mem _ =>
      of_decide_eq_true (List.mem_filter.mp mem).2

/-- If nobody is parked before the waits come, it makes no difference whether there is a look after each
call or none at all. -/
theorem run_singly_eq_foldl {calls : List Call} (settled : d.Settled present)
    (last : calls.Pairwise fun a b => a.priority = .wait → b.priority = .wait)
    (free : (∃ call ∈ calls, call.priority ≠ .wait) → d.parked = none) :
    d.run c (singly present calls) = calls.foldl (serveOrRefuse c present) d ∧
      (calls.foldl (serveOrRefuse c present) d).Settled present := by
  induction calls generalizing d with
  | nil => exact ⟨rfl, settled⟩
  | cons call calls ih =>
    obtain ⟨behind, last⟩ := List.pairwise_cons.mp last
    rw [run_singly_cons, List.foldl_cons]
    by_cases waits : call.priority = .wait
    -- from the first wait on, every call ends with a look
    · have settled₁ := settled.serveOrRefuse c waits
      rw [settled₁.serveParked_eq]
      refine ih settled₁ last ?_
      rintro ⟨other, mem, early⟩
      exact absurd (behind other mem waits) early
    -- before it nobody is parked
    · have free₁ : (d.serveOrRefuse c present call).parked = none :=
        parked_serveOrRefuse_of_free c (free ⟨call, List.mem_cons_self, waits⟩) waits
      rw [serveParked_of_free present free₁]
      exact ih (.of_free free₁) last fun _ => free₁

/-- A call that stops the dispatcher leaves it stopped, whether it was served or refused. -/
theorem closed_of_stops (d : Dispatcher σ) {stop : Call} (stops : stop.stops = true) :
    (d.serveOrRefuse c present stop).closed = true := by
  obtain ⟨free, asked⟩ := stop.stops_iff.mp stops
  unfold serveOrRefuse
  split
  · assumption
  · exact (serve_stop c present d asked).1

/-- **A batch is the same as its calls one by one**, as long as nobody is parked when it comes in. The
calls come in the order in which the batch is served: those of workers, then those of clients that are
answered at once, then the waits. Dispatcher, answers and errands are the same, whatever callers of
waits have gone. What comes behind a call that stops the dispatcher is refused, and nothing else is done
about it. -/
theorem process_eq_run_singly (free : d.parked = none) (present : Attendance) (batch : List Call) :
    d.process c present batch = d.run c (singly present (inTurn batch)) ∧
      ∀ before stop after, inTurn batch = before ++ stop :: after → stop.stops = true →
        d.process c present batch
          = (d.run c (singly present (before ++ [stop]))).refuseAll after := by
  have last : (inTurn batch).Pairwise fun a b => a.priority = .wait → b.priority = .wait :=
    waits_last batch
  have settled : d.Settled present := .of_free free
  obtain ⟨same, looked⟩ := run_singly_eq_foldl c settled last fun _ => free
  have served : d.process c present batch = (inTurn batch).foldl (serveOrRefuse c present) d :=
    looked.serveParked_eq
  refine ⟨served.trans same.symm, fun before stop after split stops => ?_⟩
  have front : (before ++ [stop]).Sublist (inTurn batch) := by
    rw [split]
    exact (List.cons_sublist_cons.mpr (List.nil_sublist after)).append_left before
  obtain ⟨same₁, -⟩ := run_singly_eq_foldl c settled (last.sublist front) fun _ => free
  have stopped : ((before ++ [stop]).foldl (serveOrRefuse c present) d).closed = true := by
    rw [List.foldl_append]
    exact closed_of_stops c _ stops
  calc d.process c present batch
      = (before ++ [stop] ++ after).foldl (serveOrRefuse c present) d := by
        rw [served, split, List.append_assoc, List.singleton_append]
    _ = ((before ++ [stop]).foldl (serveOrRefuse c present) d).refuseAll after := by
        rw [List.foldl_append, foldl_of_closed c stopped]
    _ = (d.run c (singly present (before ++ [stop]))).refuseAll after := by rw [same₁]

/-- Three tasks are submitted. A worker has run the first of them, and is running the second one. -/
def underway : List Batch :=
  [{ calls := [⟨0, .submit [⟨1⟩, ⟨2⟩, ⟨3⟩]⟩] }, { calls := [⟨1, .requestTask ⟨0, "ann"⟩⟩] },
    { calls := [⟨2, .handIn ⟨⟨1⟩, .ok (.bool true), "ann"⟩ ⟨0, "ann"⟩⟩] }]

/-- Of five waits one is for too many results, one is answered, the caller of one has gone, one stays
parked, and one comes after it. -/
def mixed : List Call :=
  [⟨3, .wait (.exactly 9)⟩, ⟨4, .wait .one⟩, ⟨5, .wait .one⟩, ⟨6, .submit [⟨4⟩]⟩, ⟨7, .wait .all⟩,
    ⟨8, .handIn ⟨⟨2⟩, .ok (.bool true), "ann"⟩ ⟨0, "ann"⟩⟩, ⟨9, .wait .one⟩]

/-- Each of them is told the same when it comes alone. If a call stops the dispatcher, it is the last that
has to come. -/
theorem process_eq_run_singly_mixed :
    let vault := (({} : Vault).storeAll [.bool true, .bool true, .bool true]).2
    let d := (start .completion vault).run .ofVault underway
    let present : Attendance := { gone := (· = 5) }
    let d' := d.run .ofVault (singly present (inTurn mixed))
    d.parked = none ∧ d.process .ofVault present mixed = d' ∧ d'.parked = some (7, .all) ∧
      Journal.dropped (d.since d') = [5] ∧
      (Journal.answers (d.since d')).map Prod.fst = [8, 6, 3, 4, 9] ∧
      (Journal.delivered (d.since d')).map TaskResult.id = [⟨1⟩] ∧
      d.process .ofVault present (⟨10, .terminate true⟩ :: ⟨11, .isEmpty⟩ :: mixed)
        = (d.run .ofVault (singly present
            [⟨8, .handIn ⟨⟨2⟩, .ok (.bool true), "ann"⟩ ⟨0, "ann"⟩⟩, ⟨10, .terminate true⟩])).refuseAll
          (⟨11, .isEmpty⟩ :: ⟨6, .submit [⟨4⟩]⟩ :: mixed.filter (·.priority = .wait)) := by
  intro vault d present d'
  have free : d.parked = none := by decide
  have same := (process_eq_run_singly .ofVault free present mixed).1
  have stop := (process_eq_run_singly .ofVault free present
    (⟨10, .terminate true⟩ :: ⟨11, .isEmpty⟩ :: mixed)).2
  exact ⟨free, same, by decide, by decide, by decide, by decide,
    stop [⟨8, .handIn ⟨⟨2⟩, .ok (.bool true), "ann"⟩ ⟨0, "ann"⟩⟩] ⟨10, .terminate true⟩ _ rfl rfl⟩

end Dispatcher

end WorkFarm
