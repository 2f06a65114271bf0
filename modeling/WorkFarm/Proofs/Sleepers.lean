import Mathlib.Data.List.Induction
import WorkFarm.Proofs.Waits
import WorkFarm.Proofs.Workers
/-!
# Nobody sleeps through a task

A worker that finds nothing to do sleeps, and is woken when there is something again. The dispatcher does
not keep a record of whom it has woken: a sleeping worker stays marked as sleeping until it calls, and
the others are woken only when the first pending task comes. So that nobody sleeps through a task is not
to be seen from a dispatcher alone. It is a statement about how a run came to it.

What a step may do is said by `Dispatcher.Rouses`. Nobody is marked as sleeping anew, and if there was
no pending task before and there is one now, then whoever sleeps was woken in between. Almost every step
rouses (`Step.rouses`). A submission rouses as a whole: the sleeping workers are woken after all of its ids
have been entered (`rouses_submit`). The one thing that does not rouse is putting a worker to sleep. It
comes last when a worker asks for work (`dispatch_cases`), and there is no pending task then, unless one was
just put back since its payload could not be had.

## Main definitions

* `Dispatcher.Rouses` — whoever sleeps was woken if the first pending task has come
* `Dispatcher.Lulls` — what is done before a worker is put to sleep
* `Dispatcher.PutsToSleep` — a worker asks for work, and there is none
* `Dispatcher.Dozes` — when a worker was put to sleep last

## Main statements

* `sleepers_woken` — while a task is pending, whoever sleeps was woken since it was put to sleep, or was
  put to sleep because the payload of a task could not be had
-/

namespace WorkFarm

universe u

namespace Roster

variable {r : Roster} {n m : String}

theorem mem_insertName {names : List String} : m ∈ insertName n names ↔ m = n ∨ m ∈ names := by
  induction names with
  | nil => simp [insertName]
  | cons k names ih =>
    unfold insertName
    split
    · rename_i here
      simp [here]
    · split
      · simp
      · simp only [List.mem_cons, ih]
        tauto

theorem mem_sleeping_markSleeping (asleep : m ∈ (r.markSleeping n).sleeping) :
    (m = n ∧ ∃ h, r.handle? n = some h) ∨ m ∈ r.sleeping := by
  unfold markSleeping at asleep
  split at asleep
  · rename_i member
    have found := Option.isSome_iff_exists.mp member
    exact (mem_insertName.mp asleep).imp_left fun here => ⟨here, found⟩
  · exact .inr asleep

theorem sleeping_remove? {r' : Roster} {h : Handle} {assigned : Option TaskId}
    (removed : r.remove? n = some (h, assigned, r')) : r'.sleeping = r.sleeping.filter (· ≠ n) := by
  simp only [remove?, Option.map_eq_some_iff, Prod.mk.injEq] at removed
  obtain ⟨_, -, -, -, rfl⟩ := removed
  rfl

theorem sleeping_register? {r' : Roster} {h : Handle} (registered : r.register? h = some r') :
    r'.sleeping = r.sleeping := by
  unfold register? at registered
  split at registered <;> cases registered
  rfl

/-- The registered instances that sleep are all listed to be woken. -/
theorem mem_sleepers {h : Handle} (asleep : n ∈ r.sleeping) (found : r.handle? n = some h) :
    h ∈ r.sleepers :=
  List.mem_filterMap.mpr ⟨n, asleep, found⟩

end Roster

namespace Dispatcher

variable {σ : Type u} (c : Collaborators σ)

/-- Nobody is marked as sleeping anew, and those who sleep are the instances that they were. If the
first pending task has come, whoever sleeps was woken. -/
structure Rouses (d d' : Dispatcher σ) : Prop where
  asleep : ∀ n ∈ d'.roster.sleeping, n ∈ d.roster.sleeping
  handle : ∀ n ∈ d'.roster.sleeping, ∀ h, d.roster.handle? n = some h → d'.roster.handle? n = some h
  /-- Whoever is registered anew is registered under its name. -/
  named : ∀ n h, d'.roster.handle? n = some h → d.roster.handle? n = some h ∨ h.name = n
  journal : d.journal <+: d'.journal
  woken : d.backlog.pending = [] → d'.backlog.pending ≠ [] →
    ∀ n ∈ d'.roster.sleeping, ∀ h, d.roster.handle? n = some h →
      .errand (.wake h) true ∈ d.since d'

namespace Rouses

variable {d d₁ d₂ : Dispatcher σ}

theorem trans (h₁ : Rouses d d₁) (h₂ : Rouses d₁ d₂) : Rouses d d₂ where
  asleep n mem := h₁.asleep n (h₂.asleep n mem)
  handle n mem h found := h₂.handle n mem h (h₁.handle n (h₂.asleep n mem) h found)
  named n h found := (h₂.named n h found).elim (h₁.named n h) .inr
  journal := h₁.journal.trans h₂.journal
  woken none some n mem h found := by
    have asleep := h₂.asleep n mem
    by_cases still : d₁.backlog.pending = []
    · exact mem_since_of_since h₁.journal (h₂.woken still some n mem h (h₁.handle n asleep h found))
    · exact mem_since_of_prefix h₂.journal (h₁.woken none still n asleep h found)

/-- Whoever is registered stays so, and the pending tasks are as they were, or there were some. -/
theorem of_pending (asleep : ∀ n ∈ d₁.roster.sleeping, n ∈ d.roster.sleeping)
    (handle : ∀ n ∈ d₁.roster.sleeping, ∀ h,
      d.roster.handle? n = some h → d₁.roster.handle? n = some h)
    (named : ∀ n h, d₁.roster.handle? n = some h → d.roster.handle? n = some h ∨ h.name = n)
    (journal : d.journal <+: d₁.journal)
    (pending : d.backlog.pending = [] → d₁.backlog.pending = []) : Rouses d d₁ where
  asleep := asleep
  handle := handle
  named := named
  journal := journal
  woken none some := absurd (pending none) some

/-- The workers are the same. -/
theorem of_roster (roster : d₁.roster = d.roster) (journal : d.journal <+: d₁.journal)
    (pending : d.backlog.pending = [] → d₁.backlog.pending = []) : Rouses d d₁ :=
  of_pending (fun _ mem => roster ▸ mem) (fun _ _ _ found => roster ▸ found)
    (fun _ _ found => .inl (roster ▸ found)) journal pending

theorem refl (d : Dispatcher σ) : Rouses d d := of_roster rfl List.prefix_rfl id

theorem record (d : Dispatcher σ) (e : Entry) : Rouses d (d.record e) :=
  of_roster rfl (List.prefix_append ..) id

theorem send {ε α : Type} (d : Dispatcher σ) (e : Errand) (run : σ → Except ε α × σ) :
    Rouses d (d.send e run).2 :=
  of_roster rfl (List.prefix_append ..) id

instance : Std.Refl (Rouses : Dispatcher σ → Dispatcher σ → Prop) := ⟨refl⟩

instance : IsTrans (Dispatcher σ) Rouses := ⟨fun _ _ _ => trans⟩

end Rouses

/-! ### Waking -/

theorem wakeSleepers_spec (d : Dispatcher σ) :
    (d.wakeSleepers c).roster = d.roster ∧ (d.wakeSleepers c).backlog = d.backlog ∧
      (d.wakeSleepers c).journal
        = d.journal ++ d.roster.sleepers.map fun h => .errand (.wake h) true := by
  unfold wakeSleepers
  generalize d.roster.sleepers = handles
  induction handles generalizing d with
  | nil => simp
  | cons h handles ih =>
    obtain ⟨roster, backlog, journal⟩ :=
      ih ({ d with world := c.wake h d.world }.record (.errand (.wake h) true))
    rw [List.foldl_cons, roster, backlog, journal]
    simp [record]

/-- The pending tasks have become others, and then all who sleep are woken. -/
theorem Rouses.wakeSleepers {d d₁ : Dispatcher σ} (roster : d₁.roster = d.roster)
    (journal : d.journal <+: d₁.journal) : Rouses d (d₁.wakeSleepers c) := by
  obtain ⟨roster', -, journal'⟩ := wakeSleepers_spec c d₁
  rw [roster] at roster' journal'
  refine ⟨fun _ mem => roster' ▸ mem, fun _ _ _ found => roster' ▸ found,
    fun _ _ found => .inl (roster' ▸ found), journal.trans (journal' ▸ List.prefix_append ..), ?_⟩
  intro _ _ n mem h found
  refine mem_since_of_since journal ?_
  rw [since_eq journal']
  exact List.mem_map_of_mem (Roster.mem_sleepers (roster' ▸ mem) found)

/-! ### What rouses -/

theorem rouses_remove {d : Dispatcher σ} {name : String} {h : Handle} {assigned : Option TaskId}
    {roster : Roster} (removed : d.roster.remove? name = some (h, assigned, roster)) :
    Rouses d { d with roster } := by
  obtain ⟨-, -, handles, -, -⟩ := Roster.remove?_eq_some removed
  have sleeping := Roster.sleeping_remove? removed
  refine .of_pending (fun n mem => ?_) (fun n mem k found => ?_) (fun n k found => ?_)
    List.prefix_rfl id
  all_goals dsimp only at *
  · rw [sleeping] at mem
    exact (List.mem_filter.mp mem).1
  · rw [sleeping] at mem
    rw [handles, if_neg (by simpa using (List.mem_filter.mp mem).2), found]
  · rw [handles] at found
    split at found
    · cases found
    · exact .inl found

theorem rouses_enroll {d : Dispatcher σ} {h : Handle} {roster : Roster}
    (registered : d.roster.register? h = some roster) : Rouses d { d with roster } := by
  obtain ⟨free, -, handles, -, -⟩ := Roster.register?_eq_some registered
  have sleeping := Roster.sleeping_register? registered
  refine .of_pending (fun n mem => ?_) (fun n _ k found => ?_) (fun n k found => ?_)
    List.prefix_rfl id
  all_goals dsimp only at *
  · exact sleeping ▸ mem
  · have other : n ≠ h.name := fun here => by
      rw [here, free] at found
      cases found
    rw [handles, if_neg other, found]
  · rw [handles] at found
    split at found
    · rename_i here
      cases found
      exact .inr here.symm
    · exact .inl found

/-- A worker is assigned a task. -/
theorem rouses_launch {d : Dispatcher σ} {id : TaskId} {launched backlog : Backlog} {name : String}
    (launch : d.backlog.launchNext? = some (id, launched)) :
    Rouses d { d.launch name id launched with backlog } := by
  have some := Backlog.launchNext?_eq_some launch
  refine .of_pending (fun _ mem => (List.mem_filter.mp mem).1) (fun _ _ _ found => found)
    (fun _ _ found => .inl found) List.prefix_rfl fun none => ?_
  -- there was a pending task before, so that one is pending is no news for those who sleep
  simp [none] at some

theorem rouses_accept {d : Dispatcher σ} {r : TaskResult} {backlog : Backlog} (h : Handle)
    (completed : d.backlog.complete? r.id = some backlog) :
    Rouses d { d with
      backlog
      roster := if d.roster.assignment? h.name = some r.id
        then d.roster.clearAssignment h.name else d.roster
      outbox := d.outbox.addCompleted r } := by
  have pending := (Backlog.complete?_eq_some completed).2
  generalize hroster : (if d.roster.assignment? h.name = some r.id then _ else d.roster) = roster
  have asleep : roster.sleeping = d.roster.sleeping ∧ roster.byName = d.roster.byName := by
    rw [← hroster]
    split <;> exact ⟨rfl, rfl⟩
  have handle : ∀ n, roster.handle? n = d.roster.handle? n := fun n => by
    rw [Roster.handle?, asleep.2, Roster.handle?]
  exact .of_pending (fun _ mem => asleep.1 ▸ mem) (fun n _ _ found => (handle n).trans found)
    (fun n _ found => .inl ((handle n).symm.trans found)) List.prefix_rfl fun none => pending.trans none

variable {c} in
/-- Every step rouses, unless a worker is put to sleep or a submission is accepted. -/
theorem Step.rouses {a : Act} {d d' : Dispatcher σ} (step : Step c d a d') (wakeful : a ≠ .sleep)
    (known : ∀ id, a ≠ .enter id) : Rouses d d' := by
  cases step with
  | errand sent =>
    obtain ⟨ok⟩ := sent
    exact .of_roster rfl (List.prefix_append ..) id
  | enroll registered => exact rouses_enroll registered
  | remove removed => exact rouses_remove removed
  | requeue _ some => exact .of_roster rfl List.prefix_rfl fun none => absurd none some
  | rouse => exact .wakeSleepers c rfl List.prefix_rfl
  | launch _ launched => exact rouses_launch launched
  | @miss _ missed launched backlog name launch =>
    have away : Rouses d { d.launch name missed launched with backlog } := rouses_launch launch
    exact away.trans (.of_roster rfl (List.prefix_append ..) id)
  | sleep => exact absurd rfl wakeful
  | enter => exact absurd rfl (known _)
  | accept h completed => exact (rouses_accept h completed).trans (.record _ _)
  | reorder | park => exact .of_roster rfl List.prefix_rfl id
  | answer | refuse | drop => exact .of_roster rfl (List.prefix_append ..) id
  | deliver =>
    exact .of_roster rfl (List.prefix_append ..) fun none => (Backlog.pending_forgetAll _ _).trans none
  | close => exact .of_pending nofun nofun nofun List.prefix_rfl fun _ => rfl

variable {c} in
theorem Does.rouses {kind : Act → Prop} {d d' : Dispatcher σ} (does : Does c kind d d')
    (wakeful : ¬ kind .sleep) (known : ∀ id, ¬ kind (.enter id)) : Rouses d d' :=
  does.relates fun fits step =>
    step.rouses (fun here => wakeful (here ▸ fits)) fun id here => known id (here ▸ fits)

theorem roster_submitOne (d : Dispatcher σ) (id : TaskId) : (d.submitOne id).roster = d.roster := by
  unfold submitOne
  split <;> rfl

theorem roster_enter (d : Dispatcher σ) (ids : List TaskId) :
    (ids.foldl submitOne d).roster = d.roster := by
  induction ids generalizing d with
  | nil => rfl
  | cons id ids ih => exact (ih _).trans (roster_submitOne d id)

/-- Ids are entered one by one, and the sleeping workers are woken only at the end. -/
theorem rouses_submit (d : Dispatcher σ) (ids : List TaskId) : Rouses d (d.submit c ids) := by
  have enter : LeadsOn c d (ids.foldl submitOne d) := (does_enter c d ids).leadsOn
  have roster := roster_enter d ids
  unfold submit
  dsimp only
  split
  · exact .wakeSleepers c roster enter.journal
  · rename_i quiet
    refine .of_roster roster enter.journal fun none => ?_
    simpa [none] using quiet

/-! ### Putting a worker to sleep -/

/-- What is done before the worker `h` is put to sleep. If there is a pending task, its payload was
wanted for the worker and could not be had. -/
structure Lulls (h : Handle) (d d' : Dispatcher σ) : Prop where
  rouses : Rouses d d'
  failed : d'.backlog.pending ≠ [] → ∃ id, .errand (.fetch id) false ∈ d.since d'
  own : ∀ k, d'.roster.handle? h.name = some k → k = h

theorem Lulls.of_rouses {h : Handle} {d d₁ d₂ : Dispatcher σ} (rouses : Rouses d d₁)
    (lulls : Lulls h d₁ d₂) : Lulls h d d₂ where
  rouses := rouses.trans lulls.rouses
  failed some := (lulls.failed some).imp fun _ mem => mem_since_of_since rouses.journal mem
  own := lulls.own

/-- Whoever is registered under the name of an instance that has called is that instance. -/
theorem own_register {d : Dispatcher σ} (named : ∀ n h, d.roster.handle? n = some h → h.name = n)
    (h k : Handle) (found : (d.register c h).roster.handle? h.name = some k) : k = h := by
  have enrolled : ∀ d : Dispatcher σ, d.roster.handle? h.name = none →
      (register.enroll c h d).roster.handle? h.name = some k → k = h := by
    intro d free found
    unfold register.enroll at found
    split at found
    · rw [free] at found
      cases found
    · rename_i roster registered
      obtain ⟨-, -, handles, -, -⟩ := Roster.register?_eq_some registered
      change roster.handle? h.name = some k at found
      rw [handles, if_pos rfl] at found
      exact (Option.some.inj found).symm
  rcases register_cases c d h with ⟨known, member, serial, same⟩ | ⟨_, _, _, replaced⟩ | ⟨free, entered⟩
  · rw [same, member] at found
    cases found
    have name := named _ _ member
    obtain ⟨_, _⟩ := k
    obtain ⟨_, _⟩ := h
    obtain rfl : _ = _ := serial
    obtain rfl : _ = _ := name
    rfl
  · rw [replaced] at found
    exact enrolled _ (by rw [handle?_retire, if_pos rfl]) found
  · rw [entered] at found
    exact enrolled d free found

/-- **A worker that asks for work** is handed a task, and no pending task has come; or it is put to sleep
after everything else was done. -/
theorem dispatch_cases {d : Dispatcher σ} (named : ∀ n h, d.roster.handle? n = some h → h.name = n)
    (h : Handle) :
    (∃ t, (d.dispatch c h).1 = .task t ∧ Rouses d (d.dispatch c h).2) ∨
      ∃ d₁, (d.dispatch c h).1 = .noTask ∧ (d.dispatch c h).2 = d₁.putToSleep h.name ∧ Lulls h d d₁ := by
  have register : Rouses d (d.register c h) := (does_register c d h).rouses nofun nofun
  have own := own_register c named h
  have hand := hand_dispatch c d h
  generalize d.register c h = d₁, (d.dispatch c h).1 = a, (d.dispatch c h).2 = d₂
    at register own hand ⊢
  cases hand with
  | idle none =>
    refine .inr ⟨d₁, rfl, rfl, register, fun some => absurd ?_ some, own⟩
    unfold Backlog.launchNext? at none
    split at none
    · assumption
    · cases none
  | @task id backlog t launched _ =>
    have launch : Rouses d₁ (d₁.launch h.name id backlog) := rouses_launch launched
    have hand := (launch.trans (.send _ (.fetch id) (c.fetch id))).trans (.send _ (.stage id) (c.stage id))
    exact .inl ⟨t, rfl, register.trans hand⟩
  | @miss id _ _ _ launch _ back =>
    have missed := Step.miss (c := c) h.name launch back
    refine .inr ⟨_, rfl, rfl, register.trans (missed.rouses nofun nofun), fun _ => ⟨id, ?_⟩, own⟩
    refine mem_since_of_since register.journal ?_
    rw [since_eq rfl]
    exact List.mem_singleton_self _

/-! ### A move -/

/-- An instance of a worker asks for work, and there is none. -/
def PutsToSleep (d : Dispatcher σ) (m : Move σ) (h : Handle) : Prop :=
  m.worker? = some h ∧ (d.move c m).journal.lastAnswer? = some (.assignment .noTask)

theorem not_putsToSleep {d : Dispatcher σ} {m : Move σ} (other : m.worker? = none) (h : Handle) :
    ¬ PutsToSleep c d m h := by
  intro sleeps
  rw [PutsToSleep, other] at sleeps
  cases sleeps.1

theorem lastAnswer?_answer (d : Dispatcher σ) (caller : Nat) (a : Answer) :
    (d.answer caller a).journal.lastAnswer? = some a := by
  simp [answer, record, Journal.lastAnswer?]

/-- What happens when the worker `h` is served: it is handed a task, or put to sleep at the end. -/
theorem rouses_or_lulls_dispatch {d d₀ : Dispatcher σ} {m : Move σ} {h : Handle} {caller : Nat}
    (named : ∀ n h, d.roster.handle? n = some h → h.name = n) (worker : m.worker? = some h)
    (first : Rouses d d₀)
    (move : d.move c m = (d₀.dispatch c h).2.answer caller (.assignment (d₀.dispatch c h).1)) :
    (Rouses d (d.move c m) ∧ ∀ k, ¬ PutsToSleep c d m k) ∨
      ∃ h d₁ caller, PutsToSleep c d m h ∧ Lulls h d d₁ ∧
        d.move c m = (d₁.putToSleep h.name).answer caller (.assignment .noTask) := by
  have named₀ : ∀ n h, d₀.roster.handle? n = some h → h.name = n :=
    fun n h found => (first.named n h found).elim (named n h) id
  rcases dispatch_cases c named₀ h with ⟨t, task, rouses⟩ | ⟨d₁, nothing, asleep, lulls⟩
  · refine .inl ⟨?_, fun k sleeps => ?_⟩
    · rw [move]
      exact (first.trans rouses).trans (.record _ _)
    · have told := sleeps.2
      rw [move, lastAnswer?_answer, task] at told
      cases told
  · rw [nothing, asleep] at move
    exact .inr ⟨h, d₁, caller, ⟨worker, by rw [move, lastAnswer?_answer]⟩,
      lulls.of_rouses first, move⟩

/-- **What a move does to those who sleep.** It rouses them, or a worker asks for work and is put to
sleep after everything else was done. -/
theorem rouses_or_lulls {d : Dispatcher σ} (named : ∀ n h, d.roster.handle? n = some h → h.name = n)
    (m : Move σ) :
    (Rouses d (d.move c m) ∧ ∀ k, ¬ PutsToSleep c d m k) ∨
      ∃ h d₁ caller, PutsToSleep c d m h ∧ Lulls h d d₁ ∧
        d.move c m = (d₁.putToSleep h.name).answer caller (.assignment .noTask) := by
  cases m with
  | look present =>
    exact .inl ⟨(does_serveParked c d present).rouses nofun nofun, not_putsToSleep c rfl⟩
  | outside change => exact .inl ⟨.of_roster rfl List.prefix_rfl id, not_putsToSleep c rfl⟩
  | call present call =>
    by_cases closed : d.closed = true
    · have refused : d.move c (.call present call) = d.answer call.caller (.refused .terminated) := by
        simp [Dispatcher.move, serveOrRefuse, closed]
      refine .inl ⟨refused ▸ .record d _, fun k sleeps => ?_⟩
      have told := sleeps.2
      rw [refused, lastAnswer?_answer] at told
      cases told
    · have served : d.move c (.call present call) = d.serve c present call := by
        simp [Dispatcher.move, serveOrRefuse, closed]
      obtain ⟨caller, request⟩ := call
      cases request with
      | requestTask h => exact rouses_or_lulls_dispatch c named rfl (.refl d) served
      | handIn r h =>
        have accept : Rouses d (d.acceptResult c r h) := by
          refine (does_acceptResult c d r h).rouses ?_ fun id => ?_
          all_goals exact fun kind => kind.elim nofun nofun
        exact rouses_or_lulls_dispatch c named rfl accept served
      | submit ids =>
        exact .inl ⟨served ▸ (rouses_submit c d ids).trans (.record _ _), not_putsToSleep c rfl⟩
      | reportDead | setOrder | countAvailable | isEmpty | poolSize | addResources | terminate | wait =>
        refine .inl ⟨served ▸ (does_serve c d present _).rouses (fun asks => asks rfl) ?_,
          not_putsToSleep c rfl⟩
        rintro id ⟨ids, asked, -⟩
        cases asked

/-- Those who sleep are registered, and everybody who is registered is so under its name. -/
structure Bedded (d : Dispatcher σ) : Prop where
  registered : ∀ n ∈ d.roster.sleeping, ∃ h, d.roster.handle? n = some h
  named : ∀ n h, d.roster.handle? n = some h → h.name = n

namespace Bedded

variable {d d₁ : Dispatcher σ}

theorem rouses (bedded : d.Bedded) (rouses : Rouses d d₁) : d₁.Bedded where
  registered n mem :=
    (bedded.registered n (rouses.asleep n mem)).imp fun h found => rouses.handle n mem h found
  named n h found := (rouses.named n h found).elim (bedded.named n h) id

theorem putToSleep (bedded : d.Bedded) (n : String) : (d.putToSleep n).Bedded := by
  have handle : ∀ m, (d.putToSleep n).roster.handle? m = d.roster.handle? m := fun m => by
    simp [Dispatcher.putToSleep, Roster.handle?, Roster.clearAssignment]
  refine ⟨fun m mem => ?_, fun m h found => bedded.named m h (handle m ▸ found)⟩
  rw [handle]
  rcases Roster.mem_sleeping_markSleeping mem with ⟨rfl, member⟩ | before
  · exact member
  · exact bedded.registered m before

theorem move (bedded : d.Bedded) (m : Move σ) : (d.move c m).Bedded := by
  rcases rouses_or_lulls c bedded.named m with ⟨rouses, -⟩ | ⟨h, d₁, caller, -, lulls, moved⟩
  · exact bedded.rouses rouses
  · rw [moved]
    have lulled := (bedded.rouses lulls.rouses).putToSleep h.name
    exact lulled.rouses (.record _ _)

/-- **Whoever sleeps after a move** was just put to sleep, and if there is a pending task its payload
could not be had; or slept before, and was woken if the first pending task has come. -/
theorem asleep_move (bedded : d.Bedded) (m : Move σ) {n : String}
    (asleep : n ∈ (d.move c m).roster.sleeping) :
    ∃ h, (d.move c m).roster.handle? n = some h ∧
      ((PutsToSleep c d m h ∧ ((d.move c m).backlog.pending ≠ [] →
          ∃ id, .errand (.fetch id) false ∈ d.since (d.move c m))) ∨
        n ∈ d.roster.sleeping ∧ d.roster.handle? n = some h ∧
          (∀ k, k.name = n → ¬ PutsToSleep c d m k) ∧
          (d.backlog.pending = [] → (d.move c m).backlog.pending ≠ [] →
            .errand (.wake h) true ∈ d.since (d.move c m))) := by
  have after := bedded.move c m
  obtain ⟨h', found'⟩ := after.registered n asleep
  rcases rouses_or_lulls c bedded.named m with ⟨rouses, awake⟩ | ⟨h, d₁, caller, sleeps, lulls, moved⟩
  · have before := rouses.asleep n asleep
    obtain ⟨h, found⟩ := bedded.registered n before
    exact ⟨h, rouses.handle n asleep h found, .inr ⟨before, found, fun k _ => awake k,
      fun none some => rouses.woken none some n asleep h found⟩⟩
  · have lulled : (d.move c m).backlog = d₁.backlog := by rw [moved]; rfl
    have journal : d₁.journal <+: (d.move c m).journal := by
      rw [moved]
      exact List.prefix_append ..
    have handle : ∀ n, (d.move c m).roster.handle? n = d₁.roster.handle? n := fun n => by
      rw [moved]
      simp [answer, record, Dispatcher.putToSleep, Roster.handle?, Roster.clearAssignment]
    by_cases here : n = h.name
    · subst here
      obtain rfl := lulls.own h' (handle h.name ▸ found')
      refine ⟨h', found', .inl ⟨sleeps, fun some => ?_⟩⟩
      rw [lulled] at some
      exact (lulls.failed some).imp fun _ mem => mem_since_of_prefix journal mem
    · rw [moved] at asleep
      have asleep₁ : n ∈ d₁.roster.sleeping :=
        (Roster.mem_sleeping_markSleeping asleep).resolve_left fun new => here new.1
      have before := lulls.rouses.asleep n asleep₁
      obtain ⟨k, found⟩ := bedded.registered n before
      refine ⟨k, (handle n).trans (lulls.rouses.handle n asleep₁ k found), .inr ⟨before, found,
        fun k' name other => ?_, fun none some => ?_⟩⟩
      · have same : k' = h := Option.some.inj (other.1.symm.trans sleeps.1)
        exact here (name.symm.trans (congrArg Handle.name same))
      · rw [lulled] at some
        exact mem_since_of_prefix journal (lulls.rouses.woken none some n asleep₁ k found)

end Bedded

/-! ### A run -/

/-- From `d` on, the moves `before` are made, then `m` puts the worker `h` to sleep, and then the moves
`after` are made, none of which puts a worker of its name to sleep. -/
structure Dozes (d : Dispatcher σ) (before : List (Move σ)) (m : Move σ) (after : List (Move σ))
    (h : Handle) : Prop where
  asleep : PutsToSleep c (d.moves c before) m h
  last : ∀ early m' late, after = early ++ m' :: late → ∀ k, k.name = h.name →
    ¬ PutsToSleep c (d.moves c (before ++ m :: early)) m' k

theorem Dozes.concat {d : Dispatcher σ} {before after : List (Move σ)} {m m' : Move σ} {h : Handle}
    (dozes : Dozes c d before m after h)
    (awake : ∀ k, k.name = h.name → ¬ PutsToSleep c (d.moves c (before ++ m :: after)) m' k) :
    Dozes c d before m (after ++ [m']) h := by
  refine ⟨dozes.asleep, fun early x late split => ?_⟩
  rcases List.eq_nil_or_concat late with rfl | ⟨late, y, rfl⟩
  · obtain ⟨rfl, rfl⟩ := List.append_inj' split rfl |>.imp id List.singleton_inj.mp
    exact awake
  · refine dozes.last early x late ?_
    have same : after ++ [m'] = (early ++ x :: late) ++ [y] := by simpa using split
    exact List.append_inj_left' same rfl

/-- Whoever sleeps after a run was put to sleep in it, if nobody slept before; and if a task is pending,
was woken since, or the payload of a task could not be had when it asked. -/
theorem Bedded.dozes_moves {d : Dispatcher σ} (bedded : d.Bedded) (awake : d.roster.sleeping = [])
    (ms : List (Move σ)) :
    (d.moves c ms).Bedded ∧
      ∀ n ∈ (d.moves c ms).roster.sleeping, ∃ h before m after,
        (d.moves c ms).roster.handle? n = some h ∧ ms = before ++ m :: after ∧
        Dozes c d before m after h ∧
        ((d.moves c ms).backlog.pending ≠ [] →
          .errand (.wake h) true ∈ (d.moves c (before ++ [m])).since (d.moves c ms) ∨
            ∃ id, .errand (.fetch id) false ∈
              (d.moves c before).since (d.moves c (before ++ [m]))) := by
  induction ms using List.reverseRecOn with
  | nil => exact ⟨bedded, by simp [awake]⟩
  | append_singleton ms x ih =>
    obtain ⟨bedded, slept⟩ := ih
    have last : d.moves c (ms ++ [x]) = (d.moves c ms).move c x := moves_append ..
    rw [last]
    refine ⟨bedded.move c x, fun n asleep => ?_⟩
    obtain ⟨h, found, ⟨sleeps, failed⟩ | ⟨before, found', awake, woken⟩⟩ := bedded.asleep_move c x asleep
    -- it was put to sleep by the last move
    · refine ⟨h, ms, x, [], found, rfl, ⟨sleeps, fun early m' late split => ?_⟩, fun some => ?_⟩
      · exact absurd split (by simp)
      · rw [last]
        exact .inr (failed some)
    -- it slept before the last move, and that move has put no worker of its name to sleep
    · obtain ⟨h', first, m, after, same, split, dozes, rest⟩ := slept n before
      obtain rfl : h' = h := Option.some.inj (same.symm.trans found')
      have name := bedded.named n h' same
      refine ⟨h', first, m, after ++ [x], found, by simp [split], dozes.concat c fun k eq => ?_,
        fun some => ?_⟩
      · rw [← split]
        exact awake k (eq.trans name)
      · by_cases none : (d.moves c ms).backlog.pending = []
        · refine .inl (mem_since_of_since ?_ (woken none some))
          have early : ms = (first ++ [m]) ++ after := by simp [split]
          rw [early, moves_append c d (first ++ [m])]
          exact journal_moves c _ after
        · exact (rest none).imp_left fun mem => mem_since_of_prefix (journal_move c _ x) mem

/-- **Nobody sleeps through a task.** After every run, if a task is pending, every worker that sleeps was
put to sleep by some call of its own in the run, and by no later one. Since that call it was woken; or the
payload of the task that it was to be handed by that call could not be had. -/
theorem sleepers_woken (order : DeliveryOrder) (world : σ) (ms : List (Move σ)) {n : String}
    (waiting : ((start order world).moves c ms).backlog.pending ≠ [])
    (asleep : n ∈ ((start order world).moves c ms).roster.sleeping) :
    let d := (start order world).moves c ms
    ∃ h before m after, d.roster.handle? n = some h ∧ ms = before ++ m :: after ∧
      Dozes c (start order world) before m after h ∧
      (.errand (.wake h) true ∈ ((start order world).moves c (before ++ [m])).since d ∨
        ∃ id, .errand (.fetch id) false ∈ ((start order world).moves c before).since
          ((start order world).moves c (before ++ [m]))) := by
  intro d
  have bedded : (start order world).Bedded := ⟨nofun, nofun⟩
  obtain ⟨h, before, m, after, found, split, dozes, woken⟩ :=
    (bedded.dozes_moves c rfl ms).2 n asleep
  exact ⟨h, before, m, after, found, split, dozes, woken waiting⟩

/-- Two workers find nothing to do, and then a task is submitted that has no payload. The worker that asks
for it is put to sleep once more. -/
def missing : List (Move Vault) :=
  [.call {} ⟨0, .requestTask ⟨0, "ann"⟩⟩,
    .call {} ⟨1, .requestTask ⟨1, "bob"⟩⟩,
    .call {} ⟨2, .submit [⟨1⟩]⟩,
    .call {} ⟨3, .requestTask ⟨1, "bob"⟩⟩]

/-- One worker was woken since it was put to sleep. The other one was put to sleep again after that. -/
theorem sleepers_woken_missing :
    let d := (start .completion {}).moves .ofVault missing
    d.backlog.pending = [⟨1⟩] ∧ d.roster.sleeping = ["ann", "bob"] ∧
      ∃ h before m after, d.roster.handle? "ann" = some h ∧ missing = before ++ m :: after ∧
        Dozes .ofVault (start .completion {}) before m after h ∧
        (.errand (.wake h) true ∈ ((start .completion {}).moves .ofVault (before ++ [m])).since d ∨
          ∃ id, .errand (.fetch id) false ∈ ((start .completion {}).moves .ofVault before).since
            ((start .completion {}).moves .ofVault (before ++ [m]))) := by
  have waiting : ((start .completion {}).moves .ofVault missing).backlog.pending ≠ [] := by decide
  have asleep : "ann" ∈ ((start .completion {}).moves .ofVault missing).roster.sleeping := by decide
  exact ⟨by decide, by decide, sleepers_woken .ofVault .completion {} missing waiting asleep⟩

end Dispatcher

end WorkFarm
