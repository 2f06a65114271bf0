import WorkFarm.Proofs.Agreement
import WorkFarm.Proofs.Works
/-!
# Every delivered result is the outcome of its task

The payload of a task travels far: from the client into the vault, from there in an answer to a worker,
back into the vault as a text, and perhaps from there to another worker. Several workers may run the same
task, and the result that is accepted may come from one that was reported dead long ago. None of this
matters if the outcome of a task depends on its payload only. Whatever is on its way was said by someone
who knew, and what was true when it was said stays true, since what was stored stays stored.

So the invariant speaks of every place where a payload or a result can be: in the vault, with a worker,
in an answer or a call on its way, in the outbox, and delivered (`Works.Truthful`). It needs no knowledge
of which workers are registered, or of the stages of the tasks. That ids are not given out twice comes in
at the end only: it makes sure that an id stands for one payload.

## Main statements

* `delivered_outcome` — a delivered result carries the outcome of the payload stored under its id
-/

namespace WorkFarm

universe u v

/-! ### Workers -/

namespace Worker

variable {β : Type u} {runner : Runner} {w w' : Worker β} {s : Signal β} {acts : List Act}

/-- A worker runs no task but the one that it was told to run, and hands in no result but the outcome of
the task that it was running. -/
structure Honest (runner : Runner) (w : Worker β) (s : Signal β) (w' : Worker β) (acts : List Act) :
    Prop where
  working : ∀ t, w'.phase = .working t →
    w.phase = .working t ∨ ∃ factor, s = .reply (.ok (.task t)) factor
  handIn : ∀ r, .handIn r ∈ acts →
    ∃ t, w.phase = .working t ∧ r = ⟨t.id, (runner.perform t w.memory).1, w.handle.name⟩

/-- A worker that works on nothing and hands in nothing is honest. -/
theorem Honest.of_quiet (idle : ∀ t, w'.phase ≠ .working t) (quiet : ∀ r, .handIn r ∉ acts) :
    Honest runner w s w' acts :=
  ⟨fun t works => absurd works (idle t), fun r hands => absurd hands (quiet r)⟩

/-- A worker that stays where it stands and does nothing is honest. -/
theorem Honest.of_phase (same : w'.phase = w.phase) : Honest runner w s w' [] :=
  ⟨fun t works => .inl (same ▸ works), fun r hands => by cases hands⟩

theorem honest_rest [Quantity β] (v : Worker β) (factor : β) :
    Honest runner w s (v.rest factor).1 (v.rest factor).2 := by
  unfold rest
  dsimp only
  split
  · exact .of_quiet (by simp [ask]) (by simp [ask])
  · exact .of_quiet (by simp) (by simp)

theorem honest_step [Quantity β] (runner : Runner) (w : Worker β) (s : Signal β) :
    Honest runner w s (w.step runner s).1 (w.step runner s).2 := by
  have stopped : ∀ (v : Worker β) reason, Honest runner w s (v.stop reason).1 (v.stop reason).2 :=
    fun v reason => .of_quiet (by simp [stop]) (by simp [stop])
  have asks : ∀ v : Worker β, Honest runner w s v.ask.1 v.ask.2 :=
    fun v => .of_quiet (by simp [ask]) (by simp [ask])
  unfold step
  split
  · exact .of_phase rfl
  · exact stopped w .killed
  · unfold hear
    dsimp only
    split
    · exact asks _
    · exact .of_phase rfl
  · exact asks w
  · exact stopped w .cancelled
  · rename_i answer factor _
    unfold takeAnswer
    split
    · rename_i t
      refine ⟨?_, fun r hands => by simp at hands⟩
      intro t' works
      cases works
      exact .inr ⟨factor, rfl⟩
    · exact honest_rest w factor
    · exact honest_rest w factor
    · exact stopped w .terminated
  · exact stopped w .cancelled
  · rename_i t phase
    unfold finish
    dsimp only
    split
    · exact stopped _ .cancelled
    · constructor
      · intro t' works
        cases works
      · intro r hands
        cases List.mem_singleton.mp hands
        exact ⟨t, phase, rfl⟩
  · exact .of_phase rfl
  · exact asks _
  · exact stopped _ .cancelled
  · exact .of_phase rfl

end Worker

/-! ### The dispatcher -/

/-- Every result in the outbox and every result that was delivered has a property. -/
def Books.Vouched (P : TaskResult → Prop) (b : Books) : Prop :=
  ∀ r ∈ b.outbox.results ++ b.delivered, P r

/-- If only results with a property are taken in, then the others do not get any further. -/
theorem Books.vouched_change {P : TaskResult → Prop} {b b' : Books} (change : Change P b b')
    (agree : b.Agree) (vouched : b.Vouched P) : b'.Vouched P := by
  cases change with
  | submit =>
    intro r mem
    rw [Outbox.results_addPending] at mem
    exact vouched r mem
  | launch | requeue | putBack => exact vouched
  | complete completed brought =>
    rename_i r backlog
    obtain ⟨launched, -⟩ := Backlog.complete?_eq_some completed
    obtain ⟨-, results, -⟩ := b.outbox.addCompleted_spec r (agree.held_eq_none launched)
    intro r' mem
    rw [(results.append_right _).mem_iff, List.cons_append, List.mem_cons] at mem
    rcases mem with rfl | mem
    · exact brought
    · exact vouched r' mem
  | reorder order =>
    intro r mem
    rw [((Outbox.regroups_setOrder _ order).results.append_right _).mem_iff] at mem
    exact vouched r mem
  | deliver k =>
    intro r mem
    have results := b.outbox.results_takeFirst k
    refine vouched r ?_
    rw [(results.append_right _).mem_iff]
    simp only [List.mem_append] at mem ⊢
    tauto
  | close =>
    intro r mem
    exact vouched r (List.mem_append_right _ (by simpa [Outbox.clear, Outbox.results] using mem))

namespace Dispatcher

variable {σ : Type u} (c : Collaborators σ)

/-- A task that a worker is handed was fetched. -/
theorem dispatch_eq_task {d : Dispatcher σ} {h : Handle} {t : Task}
    (handed : (d.dispatch c h).1 = .task t) :
    ∃ id w, Relation.ReflTransGen c.Runs d.world w ∧ (c.fetch id w).1 = .ok t := by
  have register := (does_register c d h).leadsOn.world
  have hand := hand_dispatch c d h
  rw [handed] at hand
  generalize d.register c h = d₁, (d.dispatch c h).2 = d₂ at register hand
  cases hand with
  | task _ fetched => exact ⟨_, d₁.world, register, fetched⟩

/-- A task that is the answer to a worker was fetched. -/
theorem lastAnswer?_eq_task {d : Dispatcher σ} {present : Attendance} {call : Call} {h : Handle}
    {t : Task} (worker : call.worker? = some h)
    (told : (d.serveOrRefuse c present call).journal.lastAnswer? = some (.assignment (.task t))) :
    ∃ id w, Relation.ReflTransGen c.Runs d.world w ∧ (c.fetch id w).1 = .ok t := by
  have last : ∀ (d' : Dispatcher σ) a, (d'.answer call.caller a).journal.lastAnswer? = some a :=
    fun d' a => by simp [Dispatcher.answer, record, Journal.lastAnswer?]
  unfold serveOrRefuse at told
  split at told
  · rw [last] at told
    cases told
  · obtain ⟨caller, request⟩ := call
    cases request with
    | requestTask h =>
      simp only [serve, last, Option.some.injEq, Answer.assignment.injEq] at told
      exact dispatch_eq_task c told
    | handIn r h =>
      simp only [serve, last, Option.some.injEq, Answer.assignment.injEq] at told
      obtain ⟨id, w, runs, fetched⟩ := dispatch_eq_task c told
      have accept := (does_acceptResult c d r h).leadsOn
      exact ⟨id, w, accept.world.trans runs, fetched⟩
    | _ => cases worker

end Dispatcher

/-! ### The works -/

namespace Works

variable {τ : Type u} {β : Type v} {rest : Collaborators τ} {runner : Runner} {f : Json → Outcome}
  {s : Works τ β}

/-- A result carries the outcome of a payload that was stored under its id. -/
def Tells (stored : List (TaskId × Json)) (f : Json → Outcome) (r : TaskResult) : Prop :=
  ∃ p, (r.id, p) ∈ stored ∧ r.outcome = f p

/-- What was stored has the ids from one on, in order, and the next id follows them. -/
structure Numbered (stored : List (TaskId × Json)) (nextId : TaskId) : Prop where
  ids : stored.map Prod.fst = (List.range stored.length).map fun k => TaskId.ofNat (k + 1)
  next : nextId = TaskId.ofNat (stored.length + 1)

namespace Numbered

variable {stored : List (TaskId × Json)} {nextId : TaskId}

theorem store (numbered : Numbered stored nextId) (p : Json) :
    Numbered (stored ++ [(nextId, p)]) nextId.next where
  ids := by
    simp only [List.map_append, List.map_cons, List.map_nil, List.length_append,
      List.length_singleton, List.range_succ, numbered.ids, ← numbered.next]
  next := by
    simp [numbered.next, TaskId.next, TaskId.ofNat, UInt64.ofNat_add]

/-- As long as there are fewer payloads than ids, no id is given out twice. -/
theorem nodup (numbered : Numbered stored nextId) (fits : stored.length < wordCount 64) :
    (stored.map Prod.fst).Nodup := by
  rw [numbered.ids]
  refine List.Nodup.map_on ?_ List.nodup_range
  intro j hj k hk same
  rw [List.mem_range] at hj hk
  have same := congrArg TaskId.toNat same
  simp only [TaskId.toNat, TaskId.ofNat, UInt64.toNat_ofNat'] at same
  have words : wordCount 64 = 18446744073709551616 := rfl
  rw [Nat.mod_eq_of_lt (by omega), Nat.mod_eq_of_lt (by omega)] at same
  omega

end Numbered

/-- Wherever there is a payload, it was stored under the id that it goes with, and wherever there is a
result, it carries the outcome of such a payload. The ids are given out in order. -/
structure Truthful (f : Json → Outcome) (s : Works τ β) : Prop where
  vault : ∀ id p, s.vault.Holds id p → (id, p) ∈ s.stored
  working : ∀ serial w t, s.workers.get? serial = some w → w.phase = .working t →
    (t.id, t.payload) ∈ s.stored
  replies : ∀ serial t, (serial, .ok (.task t)) ∈ s.replies → (t.id, t.payload) ∈ s.stored
  inbox : ∀ call ∈ s.inbox, ∀ r ∈ call.result?, Tells s.stored f r
  agree : s.dispatcher.books.Agree
  results : s.dispatcher.books.Vouched (Tells s.stored f)
  numbered : Numbered s.stored s.vault.nextId

theorem truthful_start (f : Json → Outcome) (order : DeliveryOrder) (x : τ) :
    Truthful f (start order x : Works τ β) where
  vault id p holds := by rcases holds with hot | staged <;> contradiction
  working serial w t found := by contradiction
  replies serial t mem := by contradiction
  inbox call mem := by contradiction
  agree := Books.agree_start order
  results r mem := by contradiction
  numbered := ⟨rfl, rfl⟩

/-- Posting calls adds them to the inbox, and does nothing else. -/
theorem foldl_post (requests : List Request) (s : Works τ β) :
    ∃ inbox nextCaller, requests.foldl post s = { s with inbox, nextCaller } ∧
      ∀ call ∈ inbox, call ∈ s.inbox ∨ call.request ∈ requests := by
  induction requests generalizing s with
  | nil => exact ⟨s.inbox, s.nextCaller, rfl, fun call mem => .inl mem⟩
  | cons request requests ih =>
    obtain ⟨inbox, nextCaller, same, from_⟩ := ih (s.post request)
    refine ⟨inbox, nextCaller, same, ?_⟩
    intro call mem
    rcases from_ call mem with posted | later
    · rcases List.mem_append.mp posted with before | new
      · exact .inl before
      · cases List.mem_singleton.mp new
        exact .inr List.mem_cons_self
    · exact .inr (List.mem_cons_of_mem request later)

/-- A result that is handed in comes from the act of a worker. -/
theorem eq_handIn_of_requestOf? {h : Handle} {a : Worker.Act} {call : Call} {r : TaskResult}
    (made : requestOf? h a = some call.request) (brings : r ∈ call.result?) : a = .handIn r := by
  obtain ⟨caller, request⟩ := call
  cases a with
  | handIn r' =>
    cases made
    cases brings
    rfl
  | ask =>
    cases made
    cases brings
  | work | rest | stop => cases made

/-- A worker that is told something moves on, and its calls go to the inbox. -/
theorem signal_cases [Quantity β] (runner : Runner) (s : Works τ β) (serial : Nat)
    (told : Worker.Signal β) :
    s.signal runner serial told = s ∨
      ∃ w inbox nextCaller, s.workers.get? serial = some w ∧
        s.signal runner serial told = { s with
          workers := s.workers.insert serial (w.step runner told).1, inbox, nextCaller } ∧
        ∀ call ∈ inbox, call ∈ s.inbox ∨
          ∃ h, ∃ a ∈ (w.step runner told).2, requestOf? h a = some call.request := by
  unfold signal
  cases found : s.workers.get? serial with
  | none => exact .inl rfl
  | some w =>
    obtain ⟨inbox, nextCaller, same, from_⟩ := foldl_post
      ((w.step runner told).2.filterMap (requestOf? (w.step runner told).1.handle))
      { s with workers := s.workers.insert serial (w.step runner told).1 }
    refine .inr ⟨w, inbox, nextCaller, rfl, same, ?_⟩
    intro call mem
    rcases from_ call mem with before | made
    · exact .inl before
    · exact .inr ⟨_, List.mem_filterMap.mp made⟩

namespace Truthful

/-- Telling a worker something keeps the truth, if what it is told is true. -/
theorem signal [Quantity β] (pure : ∀ t m, (runner.perform t m).1 = f t.payload)
    (truthful : Truthful f s) (serial : Nat) (told : Worker.Signal β)
    (tells : ∀ t factor, told = .reply (.ok (.task t)) factor → (t.id, t.payload) ∈ s.stored) :
    Truthful f (s.signal runner serial told) := by
  rcases signal_cases runner s serial told with same | ⟨w, inbox, nextCaller, found, same, from_⟩
  · rwa [same]
  rw [same]
  have honest := Worker.honest_step runner w told
  refine { truthful with working := ?_, inbox := ?_ }
  · intro serial' w' t found' works
    rw [Table.get?_insert] at found'
    split at found'
    · cases found'
      rcases honest.working t works with worked | ⟨factor, here⟩
      · exact truthful.working serial w t found worked
      · exact tells t factor here
    · exact truthful.working serial' w' t found' works
  · intro call mem r brings
    rcases from_ call mem with before | ⟨h, a, act, made⟩
    · exact truthful.inbox call before r brings
    · cases eq_handIn_of_requestOf? made brings
      obtain ⟨t, worked, rfl⟩ := honest.handIn r act
      exact ⟨t.payload, truthful.working serial w t found worked, pure t w.memory⟩

/-- What the dispatcher does keeps the truth, if it takes in true results only. -/
theorem leads (truthful : Truthful f s) {d : Dispatcher (Vault × τ)}
    (leads : Dispatcher.Leads (.besideVault rest) (Tells s.stored f) s.dispatcher d) :
    Truthful f { s with dispatcher := d } := by
  have both := leads.books.preserve (P := fun b => b.Agree ∧ b.Vouched (Tells s.stored f))
    (fun change h => ⟨Books.agree_change change h.1, Books.vouched_change change h.1 h.2⟩)
    ⟨truthful.agree, truthful.results⟩
  have wanes := Collaborators.wanes_of_runs leads.world
  refine ⟨fun id p holds => truthful.vault id p (wanes.holds id p holds), truthful.working,
    truthful.replies, truthful.inbox, both.1, both.2, ?_⟩
  have next : d.world.1.nextId = s.vault.nextId := wanes.nextId
  exact next ▸ truthful.numbered

/-- A worker that is answered with a task is told what was stored. -/
theorem serve (truthful : Truthful f s) (present : Attendance) (call : Call)
    (brings : ∀ r ∈ call.result?, Tells s.stored f r) : Truthful f (s.serve rest present call) := by
  have leads := Dispatcher.leads_serveOrRefuse (.besideVault rest) present s.dispatcher call brings
  have served := truthful.leads leads
  refine { served with replies := ?_ }
  intro serial t mem
  rcases List.mem_append.mp mem with before | new
  · exact truthful.replies serial t before
  · rw [Option.mem_toList, Option.map_eq_some_iff] at new
    obtain ⟨h, worker, answered⟩ := new
    obtain ⟨-, answered⟩ := Prod.mk.inj answered
    have told : (s.dispatcher.serveOrRefuse (.besideVault rest) present call).journal.lastAnswer? =
        some (.assignment (.task t)) := by
      unfold Farm.replyOf at answered
      split at answered
      · rename_i a last
        cases answered
        exact last
      · cases answered
      · cases answered
    obtain ⟨id, w, runs, fetched⟩ := Dispatcher.lastAnswer?_eq_task _ worker told
    have wanes := Collaborators.wanes_of_runs runs
    exact truthful.vault _ _ (wanes.holds _ _ (Collaborators.fetch_besideVault fetched))

/-- Storing a payload adds to what is true. -/
theorem storeNext (truthful : Truthful f s) (client : Nat) : Truthful f (s.storeNext client) := by
  unfold Works.storeNext
  split
  · rename_i p left ids _
    dsimp only
    have kept : ∀ {x}, x ∈ s.stored → x ∈ s.stored ++ [((s.vault.store p).1, p)] :=
      fun mem => List.mem_append_left _ mem
    have tells : ∀ r, Tells s.stored f r →
        Tells (s.stored ++ [((s.vault.store p).1, p)]) f r := by
      rintro r ⟨q, mem, outcome⟩
      exact ⟨q, kept mem, outcome⟩
    refine ⟨?_, ?_, ?_,
      ?_, truthful.agree, ?_, truthful.numbered.store p⟩
    · intro id q holds
      rcases Vault.holds_store holds with before | ⟨rfl, rfl⟩
      · exact kept (truthful.vault id q before)
      · exact List.mem_append_right _ (List.mem_singleton_self _)
    · intro serial w t found works
      exact kept (truthful.working serial w t found works)
    · intro serial t mem
      exact kept (truthful.replies serial t mem)
    · intro call mem r brings
      exact tells r (truthful.inbox call mem r brings)
    · intro r mem
      exact tells r (truthful.results r mem)
  · exact truthful

/-- A call that brings no result may go to the inbox. -/
theorem inbox_append (truthful : Truthful f s) {call : Call} (quiet : call.result? = none) :
    ∀ call' ∈ s.inbox ++ [call], ∀ r ∈ call'.result?, Tells s.stored f r := by
  intro call' mem r brings
  rcases List.mem_append.mp mem with before | new
  · exact truthful.inbox call' before r brings
  · rw [List.mem_singleton.mp new, quiet] at brings
    cases brings

/-- **Every event keeps the truth.** -/
theorem step [Quantity β] (pure : ∀ t m, (runner.perform t m).1 = f t.payload)
    (truthful : Truthful f s) (e : Event τ β) : Truthful f (s.step rest runner e) := by
  cases e with
  | hire h memory backoff =>
    unfold Works.step
    dsimp only
    split
    · exact truthful
    · refine { truthful with working := ?_ }
      intro serial w t found works
      rw [Table.get?_insert] at found
      split at found
      · cases found
        cases works
      · exact truthful.working serial w t found works
  | tell serial told =>
    unfold Works.step
    dsimp only
    split
    · exact truthful
    · rename_i other
      refine truthful.signal pure serial told ?_
      intro t factor here
      rw [here] at other
      exact absurd rfl other
  | reply i factor =>
    unfold Works.step
    dsimp only
    split
    · exact truthful
    · rename_i serial answer arrives
      -- the answer is true as long as it is on its way, and is not looked for after that
      have rest : Truthful f { s with replies := s.replies.eraseIdx i } :=
        { truthful with
          replies := fun serial t mem => truthful.replies serial t (List.mem_of_mem_eraseIdx mem) }
      refine rest.signal pure serial _ ?_
      intro t factor' here
      cases here
      exact truthful.replies serial t (List.mem_of_getElem? arrives)
  | unreachable serial reason factor =>
    refine truthful.signal pure serial _ ?_
    intro t factor' here
    cases here
  | solve payloads => exact { truthful with }
  | store client => exact truthful.storeNext client
  | submit client =>
    unfold Works.step Works.submitAll
    dsimp only
    split
    · exact { truthful with inbox := truthful.inbox_append rfl }
    · exact truthful
  | call request =>
    unfold Works.step
    dsimp only
    split
    · rename_i other
      have quiet : Call.result? ⟨s.nextCaller, request⟩ = none := by
        cases request <;> first | rfl | cases other
      exact { truthful with inbox := truthful.inbox_append quiet }
    · exact truthful
  | serve present i =>
    unfold Works.step
    dsimp only
    split
    · exact truthful
    · rename_i call arrives
      -- what the call brings was true in the inbox, and is taken from there
      have rest : Truthful f { s with inbox := s.inbox.eraseIdx i } :=
        { truthful with
          inbox := fun call mem => truthful.inbox call (List.mem_of_mem_eraseIdx mem) }
      exact rest.serve present call (truthful.inbox call (List.mem_of_getElem? arrives))
  | look present =>
    exact truthful.leads (Dispatcher.leads_serveParked (.besideVault rest) present s.dispatcher)
  | outside change => exact { truthful with }

theorem run [Quantity β] (pure : ∀ t m, (runner.perform t m).1 = f t.payload)
    (truthful : Truthful f s) (events : List (Event τ β)) :
    Truthful f (s.run rest runner events) := by
  induction events generalizing s with
  | nil => exact truthful
  | cons e events ih => exact ih (truthful.step pure e)

end Truthful

/-- **Every delivered result is the outcome of its task.** All workers run one runner, whose outcome is a
function `f` of the payload, and fewer payloads are stored than there are ids. Then, whatever happens in
whatever order, there is exactly one payload that was stored under the id of a delivered result, and the
result carries the outcome of this payload. -/
theorem delivered_outcome [Quantity β] (rest : Collaborators τ) (runner : Runner) (f : Json → Outcome)
    (pure : ∀ t m, (runner.perform t m).1 = f t.payload) (order : DeliveryOrder) (x : τ)
    (events : List (Event τ β))
    (fits : ((start order x).run rest runner events).stored.length < wordCount 64) :
    let s := (start order x).run rest runner events
    ∀ r ∈ Journal.delivered s.dispatcher.journal,
      ∃ p, (∀ q, (r.id, q) ∈ s.stored ↔ q = p) ∧ r.outcome = f p := by
  intro s r delivered
  have truthful : Truthful f s := (truthful_start f order x).run pure events
  obtain ⟨p, mem, outcome⟩ := truthful.results r (List.mem_append_right _ delivered)
  refine ⟨p, fun q => ⟨?_, fun here => here ▸ mem⟩, outcome⟩
  intro mem'
  have once := List.inj_on_of_nodup_map (truthful.numbered.nodup fits) mem' mem rfl
  exact congrArg Prod.snd once

/-- Other collaborators that take every errand and do nothing. -/
def obliging : Collaborators Unit where
  fetch id _ := (.ok ⟨id, .null⟩, ())
  stage _ _ := (.ok (), ())
  evict _ _ := (.ok (), ())
  watch _ _ := (.ok (), ())
  unwatch _ _ := (.ok (), ())
  stopWatching _ := (.ok (), ())
  addResources _ _ := (.ok (), ())
  release _ _ := (.ok (), ())
  stopProvisioning _ _ := (.ok (), ())
  wake _ _ := ()

/-- A worker is reported dead while it runs a task; another one is handed the staged payload, and then
the first one hands in its result. -/
def overtaken : List (Event Unit Float) :=
  [.hire ⟨0, "ann"⟩ ∅ ⟨.fixed, 1, 1, false⟩, .hire ⟨1, "bob"⟩ ∅ ⟨.fixed, 1, 1, false⟩,
    .solve [.bool true], .store 0, .submit 0, .serve {} 0,
    .tell 0 .start, .serve {} 0, .reply 0 1,
    .call (.reportDead "ann"), .serve {} 0,
    .tell 1 .start, .serve {} 0, .reply 0 1,
    .tell 0 .finish, .serve {} 0,
    .call (.wait .one), .serve {} 0]

/-- The result is delivered, and carries the outcome of the stored payload. -/
theorem delivered_outcome_overtaken :
    let s := (start .completion ()).run obliging ⟨fun t m => (.ok t.payload, m), fun _ _ => 0⟩ overtaken
    (Journal.delivered s.dispatcher.journal).map TaskResult.id = [⟨1⟩] ∧
      ∀ r ∈ Journal.delivered s.dispatcher.journal,
        ∃ p, (∀ q, (r.id, q) ∈ s.stored ↔ q = p) ∧ r.outcome = .ok p :=
  ⟨by decide, delivered_outcome obliging _ .ok (fun _ _ => rfl) .completion () overtaken (by decide)⟩

end Works

end WorkFarm
