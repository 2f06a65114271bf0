import WorkFarm.Proofs.Batching
import WorkFarm.Proofs.Onlookers
import WorkFarm.Proofs.Unseen
/-!
# Waits that leave no trace

A wait may come to nothing. It is rejected if another one has to stay parked or if its count is
impossible, and it is dropped if its caller has gone. But before it is, things happen: whoever is parked is
looked at and may be answered, and the wait itself is parked for a moment. The statement here is that all
of this would have happened anyway. Struck from its batch, the wait is not missed by anyone.

The two runs are compared by `Dispatcher.Omits`: the second one has the same tasks, results, workers and
world, and lacks only what concerns those who are struck. Calls of workers and clients keep the relation
(`Omits.serveOrRefuse`), for they do not see the difference. Waits do see it, when a struck one is parked in
the first run. So among the waits the relation is kept between the two *after a look* (`Omits.waits`), which
is where every wait begins, and after a look a struck wait is parked no more. It could only be if it had to
stay, and then it would stay to the end of the batch.

For that, whoever has gone must have gone from the beginning. A client that leaves between two looks has
kept the place until then, and a wait that was rejected meanwhile would have been parked without it
(`leaver_noticed`).

## Main definitions

* `Dispatcher.Omits` — a dispatcher that lacks what concerns those who are struck
* `Dispatcher.Fruitless` — a caller that has gone, or is parked nowhere and got nothing but refusals
* `Dispatcher.Futile` — a caller that has gone, or was dropped or rejected

## Main statements

* `futile_traceless` — a batch is the same without the waits that came to nothing
* `leaver_noticed` — a client that leaves while a batch is served is missed by another one
-/

namespace WorkFarm

universe u

/-- Something is told to one of those who are struck, or a wait of theirs is dropped. -/
def Entry.tells (struck : Nat → Bool) : Entry → Bool
  | .answered caller _ => struck caller
  | .dropped caller => struck caller
  | _ => false

/-- No wait asks to be refused. -/
theorem Wait.not_refused_of_suits {w : Wait} {a : Answer} (suits : w.Suits a) :
    ¬ ∃ e, a = .refused e := by
  rintro ⟨e, rfl⟩
  cases w with
  | one =>
    obtain ⟨r, brought⟩ := suits
    cases brought
  | all | exactly k =>
    obtain ⟨rs, -, brought⟩ := suits
    cases brought

/-- A wait is dropped, or it is rejected. -/
def Entry.turnsAway (caller : Nat) : Entry → Bool
  | .dropped k => k = caller
  | .answered k (.refused e) => k = caller && e.isRejection
  | _ => false

theorem Entry.eq_of_turnsAway {caller : Nat} {e : Entry} (turned : e.turnsAway caller = true) :
    e = .dropped caller ∨ ∃ why, e = .answered caller (.refused why) := by
  unfold turnsAway at turned
  split at turned
  · exact .inl (congrArg Entry.dropped (of_decide_eq_true turned))
  · rename_i k why
    obtain ⟨same, -⟩ := Bool.and_eq_true_iff.mp turned
    exact .inr ⟨why, by rw [of_decide_eq_true same]⟩
  · cases turned

namespace Dispatcher

variable {σ : Type u} (c : Collaborators σ) {struck : Nat → Bool} {front : Journal}
  {present : Attendance} {d d' : Dispatcher σ}

/-! ### Those who are struck are missing -/

/-- The wait that is parked, unless it is struck. -/
def unstruck (struck : Nat → Bool) (parked : Option (Nat × Wait)) : Option (Nat × Wait) :=
  parked.filter fun wait => !struck wait.1

theorem unstruck_of_other {caller : Nat} (w : Wait) (other : struck caller = false) :
    unstruck struck (some (caller, w)) = some (caller, w) := by
  simp [unstruck, other]

theorem unstruck_of_struck {caller : Nat} (w : Wait) (here : struck caller = true) :
    unstruck struck (some (caller, w)) = none := by
  simp [unstruck, here]

/-- The second dispatcher is the first one, but no wait of those who are struck is parked, and what they
were told behind `front` is missing from the journal. No results were delivered to them there. -/
def Omits (struck : Nat → Bool) (front : Journal) (d d' : Dispatcher σ) : Prop :=
  ∃ told, d.journal = front ++ told ∧ (∀ e ∈ told, e.tells struck = true → e.delivery = []) ∧
    d' = { d with
      parked := unstruck struck d.parked
      journal := front ++ told.filter (!·.tells struck) }

theorem filter_tells {told : Journal} (others : ∀ e ∈ told, e.tells struck = false) :
    told.filter (!·.tells struck) = told :=
  List.filter_eq_self.mpr fun e mem => by rw [others e mem, Bool.not_false]

namespace Omits

theorem journal (omits : Omits struck front d d') : front <+: d.journal := by
  obtain ⟨told, journal, -⟩ := omits
  exact ⟨told, journal.symm⟩

theorem closed (omits : Omits struck front d d') : d'.closed = d.closed := by
  obtain ⟨told, -, -, rfl⟩ := omits
  rfl

theorem parked (omits : Omits struck front d d') : d'.parked = unstruck struck d.parked := by
  obtain ⟨told, -, -, rfl⟩ := omits
  rfl

/-- One that is parked, and is not struck, is parked in both. -/
theorem parked_of_unstruck (omits : Omits struck front d d') {caller : Nat} {w : Wait}
    (parked : d.parked = some (caller, w)) (other : struck caller = false) :
    d'.parked = some (caller, w) := by
  rw [omits.parked, parked, unstruck_of_other w other]

theorem free_of_free (omits : Omits struck front d d') (free : d.parked = none) :
    d'.parked = none := by
  simp [omits.parked, free, unstruck]

theorem free_of_struck (omits : Omits struck front d d') {caller : Nat} {w : Wait}
    (parked : d.parked = some (caller, w)) (here : struck caller = true) : d'.parked = none := by
  rw [omits.parked, parked, unstruck_of_struck w here]

/-- Both do the same, and tell nothing to those who are struck. -/
theorem of_reseat {d₀ : Dispatcher σ} {told : Journal} (parked : Option (Nat × Wait))
    (nothing : ∀ e ∈ told, e.tells struck = true → e.delivery = [])
    (others : ∀ e ∈ d₀.journal, e.tells struck = false) :
    Omits struck front (d₀.reseat parked (front ++ told))
      (d₀.reseat (unstruck struck parked) (front ++ told.filter (!·.tells struck))) := by
  refine ⟨told ++ d₀.journal, List.append_assoc .., fun e mem tells => ?_, ?_⟩
  · rcases List.mem_append.mp mem with mem | mem
    · exact nothing e mem tells
    · rw [others e mem] at tells
      cases tells
  · simp [reseat, List.filter_append, filter_tells others]

/-- Apart from the parked wait and the journal they are one dispatcher. -/
theorem exists_reseat (omits : Omits struck front d d') :
    ∃ told, (∀ e ∈ told, e.tells struck = true → e.delivery = []) ∧
      d = d.clearJournal.reseat d.parked (front ++ told) ∧
      d' = d.clearJournal.reseat (unstruck struck d.parked)
        (front ++ told.filter (!·.tells struck)) := by
  obtain ⟨told, journal, nothing, rfl⟩ := omits
  refine ⟨told, nothing, ?_, ?_⟩
  · simp [reseat, clearJournal, ← journal]
  · simp [reseat, clearJournal]

/-- More is done in the first one, and in the second one what of it is not told to those who are struck. -/
theorem append (omits : Omits struck front d d') {es : Journal}
    (quiet : ∀ e ∈ es, e.tells struck = true → e.delivery = []) :
    Omits struck front { d with journal := d.journal ++ es }
      { d' with journal := d'.journal ++ es.filter (!·.tells struck) } := by
  obtain ⟨told, journal, nothing, rfl⟩ := omits
  refine ⟨told ++ es, ?_, fun e mem tells => ?_, ?_⟩
  · rw [journal, List.append_assoc]
  · rcases List.mem_append.mp mem with mem | mem
    · exact nothing e mem tells
    · exact quiet e mem tells
  · rw [List.filter_append, List.append_assoc]

theorem record (omits : Omits struck front d d') {e : Entry} (other : e.tells struck = false) :
    Omits struck front (d.record e) (d'.record e) := by
  have others : ∀ e' ∈ [e], e'.tells struck = false :=
    fun e' mem => List.mem_singleton.mp mem ▸ other
  have both := omits.append fun e' mem tells => by
    rw [others e' mem] at tells
    cases tells
  rwa [filter_tells others] at both

/-- What is told to those who are struck is missing. -/
theorem record_struck (omits : Omits struck front d d') {e : Entry} (here : e.tells struck = true)
    (quiet : e.delivery = []) : Omits struck front (d.record e) d' := by
  have both := omits.append fun e' mem _ => (List.mem_singleton.mp mem : e' = e) ▸ quiet
  rwa [List.filter_cons_of_neg (by simp [here]), List.filter_nil, List.append_nil] at both

/-- Another wait is parked in the first one, and in the second one unless it is struck. -/
theorem park (omits : Omits struck front d d') (parked : Option (Nat × Wait)) :
    Omits struck front { d with parked } { d' with parked := unstruck struck parked } := by
  obtain ⟨told, journal, nothing, rfl⟩ := omits
  exact ⟨told, journal, nothing, rfl⟩

/-- If none is parked in the second one, it does not matter which one is in the first. -/
theorem free (omits : Omits struck front d d') (free : d'.parked = none) :
    Omits struck front { d with parked := none } d' := by
  obtain ⟨told, journal, nothing, rfl⟩ := omits
  have free : unstruck struck d.parked = none := free
  exact ⟨told, journal, nothing, by rw [free]; rfl⟩

/-! ### Calls of workers and clients -/

theorem serve (omits : Omits struck front d d') {call : Call} (other : struck call.caller = false)
    (passes : call.Passes) :
    Omits struck front (d.serve c present call) (d'.serve c present call) := by
  obtain ⟨told, nothing, full, less⟩ := omits.exists_reseat
  obtain ⟨d₁, a, aside, -, -, served⟩ := serve_passing c present d.clearJournal passes
  obtain ⟨es, journal, noted⟩ := aside.journal
  have others : ∀ e ∈ (d.clearJournal.serve c present call).journal, e.tells struck = false := by
    intro e mem
    rw [served] at mem
    rcases List.mem_append.mp mem with mem | mem
    · rw [journal] at mem
      rcases noted e mem with ⟨errand, ok, rfl⟩ | note
      · rfl
      · cases e <;> first | rfl | cases note
    · rw [List.mem_singleton.mp mem]
      exact other
  rw [full, less, serve_reseat c _ _ _ present passes, serve_reseat c _ _ _ present passes]
  exact of_reseat d.parked nothing others

/-- The first one may have a struck wait parked, which is refused there alone. -/
theorem refuseParked (omits : Omits struck front d d') :
    Omits struck front d.refuseParked d'.refuseParked := by
  cases parked : d.parked with
  | none =>
    rw [refuseParked_of_free parked, refuseParked_of_free (omits.free_of_free parked)]
    exact omits
  | some wait =>
    obtain ⟨caller, w⟩ := wait
    have left : d.refuseParked
        = Dispatcher.record { d with parked := none } (.answered caller (.refused .terminated)) := by
      rw [Dispatcher.refuseParked, parked]
      rfl
    cases here : struck caller with
    | true =>
      rw [left, refuseParked_of_free (omits.free_of_struck parked here)]
      exact (omits.free (omits.free_of_struck parked here)).record_struck here rfl
    | false =>
      have right : d'.refuseParked
          = Dispatcher.record { d' with parked := none } (.answered caller (.refused .terminated)) := by
        rw [Dispatcher.refuseParked, omits.parked_of_unstruck parked here]
        rfl
      rw [left, right]
      exact (omits.park none).record here

theorem terminate (omits : Omits struck front d d') (free : Bool) :
    Omits struck front (d.terminate c free) (d'.terminate c free) := by
  obtain ⟨told, nothing, full, less⟩ := omits.exists_reseat
  obtain ⟨d₁, aside, stopped⟩ := terminate_reseat c d.clearJournal free
  obtain ⟨es, journal, noted⟩ := aside.journal
  have others : ∀ e ∈ d₁.journal, e.tells struck = false := by
    intro e mem
    rw [journal] at mem
    rcases noted e mem with ⟨errand, ok, rfl⟩ | note
    · rfl
    · cases note
  rw [full, less, stopped, stopped]
  exact (of_reseat d.parked nothing others).refuseParked

theorem serveOrRefuse (omits : Omits struck front d d') {call : Call}
    (other : struck call.caller = false) (early : call.priority ≠ .wait) :
    Omits struck front (d.serveOrRefuse c present call) (d'.serveOrRefuse c present call) := by
  unfold Dispatcher.serveOrRefuse
  rw [omits.closed]
  split
  · exact omits.record other
  · rcases call.waits_or_terminates_or_passes with ⟨w, asked⟩ | ⟨free, asked⟩ | passes
    · refine absurd ?_ early
      rw [Call.priority, asked]
      rfl
    · rw [serve_terminate c asked, serve_terminate c asked]
      exact (omits.terminate c free).record other
    · exact omits.serve c other passes

theorem foldl (omits : Omits struck front d d') {calls : List Call}
    (others : ∀ call ∈ calls, struck call.caller = false)
    (early : ∀ call ∈ calls, call.priority ≠ .wait) :
    Omits struck front (calls.foldl (Dispatcher.serveOrRefuse c present) d)
      (calls.foldl (Dispatcher.serveOrRefuse c present) d') := by
  induction calls generalizing d d' with
  | nil => exact omits
  | cons call calls ih =>
    exact ih
      (omits.serveOrRefuse c (others call List.mem_cons_self) (early call List.mem_cons_self))
      (fun call mem => others call (List.mem_cons_of_mem _ mem))
      fun call mem => early call (List.mem_cons_of_mem _ mem)

/-! ### Looks and waits -/

/-- A look at a wait that is not struck comes to the same in both. A struck wait is looked at in the first
one alone; that makes no difference as long as it brings no results. -/
theorem serveParked (omits : Omits struck front d d')
    (fruitless : ∀ caller w a, d.parked = some (caller, w) → struck caller = true →
      present.gone caller = false → .answered caller a ∈ d.since (d.serveParked present) →
      ∃ e, a = .refused e) :
    Omits struck front (d.serveParked present) (d'.serveParked present) := by
  cases parked : d.parked with
  | none =>
    rw [serveParked_of_free present parked, serveParked_of_free present (omits.free_of_free parked)]
    exact omits
  | some wait =>
    obtain ⟨caller, w⟩ := wait
    cases here : struck caller with
    | true =>
      have free : d'.parked = none := omits.free_of_struck parked here
      rw [serveParked_of_free present free]
      have quiet := fruitless caller w
      have look := look_serveParked present d
      generalize d.serveParked present = d₁ at look quiet ⊢
      cases look with
      | idle | stays => exact omits
      | dropped before _ =>
        rw [parked] at before
        cases before
        exact (omits.free free).record_struck here rfl
      | refused before _ _ =>
        rw [parked] at before
        cases before
        exact (omits.free free).record_struck here rfl
      | served k before there _ _ suits _ =>
        rw [parked] at before
        cases before
        have told := quiet _ parked here there (by rw [since_eq rfl]; exact List.mem_singleton_self _)
        exact absurd told (Wait.not_refused_of_suits suits)
    | false =>
      obtain ⟨told, nothing, full, less⟩ := omits.exists_reseat
      have same : d.clearJournal.parked = d.parked := rfl
      have kept : unstruck struck d.parked = d.parked := by rw [parked, unstruck_of_other w here]
      have quiet : unstruck struck (d.clearJournal.serveParked present).parked
            = (d.clearJournal.serveParked present).parked ∧
          ∀ e ∈ (d.clearJournal.serveParked present).journal, e.tells struck = false := by
        have look := look_serveParked present d.clearJournal
        generalize d.clearJournal.serveParked present = d₁ at look ⊢
        cases look with
        | idle | stays => exact ⟨kept, nofun⟩
        | dropped before _ =>
          rw [same, parked] at before
          cases before
          exact ⟨rfl, fun e mem => List.mem_singleton.mp mem ▸ here⟩
        | refused before _ _ =>
          rw [same, parked] at before
          cases before
          exact ⟨rfl, fun e mem => List.mem_singleton.mp mem ▸ here⟩
        | served _ before =>
          rw [same, parked] at before
          cases before
          exact ⟨rfl, fun e mem => List.mem_singleton.mp mem ▸ here⟩
      rw [kept] at less
      rw [full, less, ← same, serveParked_reseat, serveParked_reseat]
      have both : Omits struck front _ _ :=
        of_reseat (d.clearJournal.serveParked present).parked nothing quiet.2
      rwa [quiet.1] at both

theorem settled (omits : Omits struck front d d') (settled : d.Settled present) :
    d'.Settled present := by
  obtain ⟨told, -, -, rfl⟩ := omits
  intro caller w parked
  obtain ⟨before, -⟩ := Option.filter_eq_some_iff.mp parked
  exact settled caller w before

/-- A wait that is not struck is answered, rejected or parked in both. -/
theorem park_unstruck (omits : Omits struck front d d') (settled : d.Settled present) {caller : Nat}
    (other : struck caller = false)
    (others : ∀ k v, d.parked = some (k, v) → struck k = false) (w : Wait) :
    Omits struck front (d.park present caller w) (d'.park present caller w) := by
  unfold Dispatcher.park
  rw [settled.serveParked_eq, (omits.settled settled).serveParked_eq]
  dsimp only
  cases parked : d.parked with
  | none =>
    have enter : Omits struck front { d with parked := some (caller, w) }
        { d' with parked := some (caller, w) } := by
      have both := omits.park (some (caller, w))
      rwa [unstruck_of_other w other] at both
    rw [omits.free_of_free parked]
    refine enter.serveParked fun k v a here struck => ?_
    cases here
    rw [other] at struck
    cases struck
  | some wait =>
    obtain ⟨k, v⟩ := wait
    rw [omits.parked_of_unstruck parked (others k v parked)]
    exact omits.record other

/-- A struck wait is answered, rejected or parked in the first one alone. -/
theorem park_struck (omits : Omits struck front d d') (settled : d.Settled present) {caller : Nat}
    (here : struck caller = true) {w : Wait}
    (fruitless : ∀ a, present.gone caller = false →
      .answered caller a ∈ d.since (d.park present caller w) → ∃ e, a = .refused e) :
    Omits struck front (d.park present caller w) d' := by
  unfold Dispatcher.park at fruitless ⊢
  rw [settled.serveParked_eq] at fruitless ⊢
  dsimp only at fruitless ⊢
  split
  · exact omits.record_struck here rfl
  · rename_i free
    rw [if_neg free] at fruitless
    rw [Bool.not_eq_true, Option.isSome_eq_false_iff, Option.isNone_iff_eq_none] at free
    have free' : d'.parked = none := omits.free_of_free free
    have enter : Omits struck front { d with parked := some (caller, w) } d' := by
      have both := omits.park (some (caller, w))
      rwa [unstruck_of_struck w here, ← free'] at both
    rw [← serveParked_of_free present free']
    refine enter.serveParked fun k v a parked _ there told => ?_
    cases parked
    exact fruitless a there told

end Omits

/-! ### The waits of a batch -/

/-- A caller that has gone. Or it is not parked in the end, and was told nothing but refusals since. -/
def Fruitless (present : Attendance) (d₀ d : Dispatcher σ) (caller : Nat) : Prop :=
  present.gone caller = true ∨
    (∀ w, d.parked ≠ some (caller, w)) ∧ ∀ a, .answered caller a ∈ d₀.since d → ∃ e, a = .refused e

/-- It makes no difference if there is a look before the waits come. -/
theorem foldl_serveParked (running : d.closed = false) {waits : List Call}
    (waiting : ∀ call ∈ waits, call.priority = .wait) :
    (waits.foldl (serveOrRefuse c present) (d.serveParked present)).serveParked present
      = (waits.foldl (serveOrRefuse c present) d).serveParked present := by
  have looked : (d.serveParked present).serveParked present = d.serveParked present :=
    (settled_serveParked present d).serveParked_eq
  cases waits with
  | nil => exact looked
  | cons call waits =>
    obtain ⟨w, asked⟩ := call.wait_of_priority (waiting call List.mem_cons_self)
    have first : (d.serveParked present).serveOrRefuse c present call = d.serveOrRefuse c present call := by
      rw [serveOrRefuse_of_running c present running, serveOrRefuse_of_running c present
        ((closed_serveParked present d).trans running), serve_wait c asked, serve_wait c asked,
        park, park, looked]
    rw [List.foldl_cons, List.foldl_cons, first]

theorem journal_foldl (present : Attendance) (d : Dispatcher σ) (calls : List Call) :
    d.journal <+: ((calls.foldl (serveOrRefuse c present) d).serveParked present).journal := by
  have served : LeadsOn c d (calls.foldl (serveOrRefuse c present) d) :=
    relates_foldl (fun d call _ => (does_serveOrRefuse c d present call).leadsOn) d
  exact (served.trans (leads_serveParked c present _)).journal

/-- What a caller that is there was told on the way is a refusal. -/
theorem Fruitless.refused {d₀ d₁ d₂ : Dispatcher σ} {caller : Nat} {a : Answer}
    (fruitless : Fruitless present d₀ d caller) (there : present.gone caller = false)
    (before : d₀.journal <+: d₁.journal) (later : d₂.journal <+: d.journal)
    (told : .answered caller a ∈ d₁.since d₂) : ∃ e, a = .refused e := by
  rcases fruitless with gone | ⟨-, refused⟩
  · rw [there] at gone
    cases gone
  · have told' := mem_since_of_prefix later (mem_since_of_since before told)
    exact refused a told'

/-- Nobody who gets nothing in the end is parked after a look. Such a wait would stay to the end. -/
theorem Fruitless.unparked {d₀ : Dispatcher σ} {waits : List Call} {caller : Nat}
    (fruitless : Fruitless present d₀
      ((waits.foldl (serveOrRefuse c present) d).serveParked present) caller)
    (settled : d.Settled present) (running : d.closed = false)
    (waiting : ∀ call ∈ waits, call.priority = .wait) (w : Wait) : d.parked ≠ some (caller, w) := by
  intro parked
  obtain ⟨here, blocked⟩ := settled caller w parked
  rcases fruitless with gone | ⟨unparked, -⟩
  · rw [here] at gone
    cases gone
  · have whole (m : Move σ) (mem : m ∈ waits.map (.call present) ++ [.look present]) :
        m.present? = some present := by
      rcases List.mem_append.mp mem with made | last
      · obtain ⟨call, -, rfl⟩ := List.mem_map.mp made
        rfl
      · rw [List.mem_singleton.mp last, Move.present?]
    have stays := stays_waits c (.of_calls present waits)
      (fun call mem => call.wait_of_priority (waiting call mem)) running parked
      (fun m mem p asked => Option.some.inj ((whole m mem).symm.trans asked) ▸ here) blocked
    rw [moves_append, moves_calls] at stays
    exact unparked w stays.1

namespace Omits

/-- **Without the struck waits the others are served in the same way**, if in the end all that was done for
the struck ones has come to nothing. -/
theorem waits {d₀ : Dispatcher σ} (omits : Omits struck d₀.journal d d')
    (settled : d.Settled present) (running : d.closed = false) {waits : List Call}
    (waiting : ∀ call ∈ waits, call.priority = .wait)
    (fruitless : ∀ caller, struck caller = true → Fruitless present d₀
      ((waits.foldl (Dispatcher.serveOrRefuse c present) d).serveParked present) caller) :
    Omits struck d₀.journal
      ((waits.foldl (Dispatcher.serveOrRefuse c present) d).serveParked present)
      (((waits.filter (!struck ·.caller)).foldl (Dispatcher.serveOrRefuse c present) d').serveParked
        present) := by
  induction waits generalizing d d' with
  | nil =>
    change Omits struck _ (d.serveParked present) (d'.serveParked present)
    rw [settled.serveParked_eq, (omits.settled settled).serveParked_eq]
    exact omits
  | cons call waits ih =>
    obtain ⟨w, asked⟩ := call.wait_of_priority (waiting call List.mem_cons_self)
    have served : d.serveOrRefuse c present call = d.park present call.caller w := by
      rw [serveOrRefuse_of_running c present running, serve_wait c asked]
    have running₁ : (d.park present call.caller w).closed = false :=
      (closed_park present d call.caller w).trans running
    have settled₁ : (d.park present call.caller w).Settled present :=
      settled_park present d call.caller w
    have others := fun call' mem => waiting call' (List.mem_cons_of_mem call mem)
    have ends := fruitless
    rw [List.foldl_cons, served] at fruitless ⊢
    cases here : struck call.caller with
    | true =>
      rw [List.filter_cons_of_neg (by simp [here])]
      refine ih ?_ settled₁ running₁ others fruitless
      refine omits.park_struck settled here fun a there told => ?_
      exact (fruitless call.caller here).refused there omits.journal (journal_foldl c present _ waits) told
    | false =>
      rw [List.filter_cons_of_pos (by simp [here]), List.foldl_cons,
        serveOrRefuse_of_running c present (omits.closed.trans running), serve_wait c asked]
      refine ih ?_ settled₁ running₁ others fruitless
      refine omits.park_unstruck settled here (fun k v parked => ?_) w
      cases here : struck k with
      | false => rfl
      | true => exact absurd parked ((ends k here).unparked c settled running waiting v)

theorem refuseAll (omits : Omits struck front d d') (calls : List Call) :
    Omits struck front (d.refuseAll calls) (d'.refuseAll (calls.filter (!struck ·.caller))) := by
  have kept : (calls.map Call.refusal).filter (!·.tells struck)
      = (calls.filter (!struck ·.caller)).map Call.refusal := List.filter_map ..
  unfold Dispatcher.refuseAll
  rw [← kept]
  refine omits.append fun e mem _ => ?_
  obtain ⟨call, -, rfl⟩ := List.mem_map.mp mem
  rfl

/-- It is the same for the waits of every batch, also when the dispatcher has stopped. -/
theorem rest {d₀ : Dispatcher σ} (omits : Omits struck d₀.journal d d') {waits : List Call}
    (waiting : ∀ call ∈ waits, call.priority = .wait)
    (fruitless : ∀ caller, struck caller = true → Fruitless present d₀
      ((waits.foldl (Dispatcher.serveOrRefuse c present) d).serveParked present) caller) :
    Omits struck d₀.journal
      ((waits.foldl (Dispatcher.serveOrRefuse c present) d).serveParked present)
      (((waits.filter (!struck ·.caller)).foldl (Dispatcher.serveOrRefuse c present) d').serveParked
        present) := by
  have looked {d₁ d₁' : Dispatcher σ} (omits : Omits struck d₀.journal d₁ d₁')
      (later : (d₁.serveParked present).journal <+:
        ((waits.foldl (Dispatcher.serveOrRefuse c present) d).serveParked present).journal) :
      Omits struck d₀.journal (d₁.serveParked present) (d₁'.serveParked present) := by
    refine omits.serveParked fun caller w a _ here there told => ?_
    exact (fruitless caller here).refused there omits.journal later told
  cases closed : d.closed with
  | true =>
    have closed' : d'.closed = true := omits.closed.trans closed
    rw [foldl_of_closed c closed] at looked ⊢
    rw [foldl_of_closed c closed']
    exact looked (omits.refuseAll waits) List.prefix_rfl
  | false =>
    have others : ∀ call ∈ waits.filter (!struck ·.caller), call.priority = .wait :=
      fun call mem => waiting call (List.mem_of_mem_filter mem)
    rw [← foldl_serveParked c closed waiting] at fruitless looked ⊢
    rw [← foldl_serveParked c (omits.closed.trans closed) others]
    have running : (d.serveParked present).closed = false := (closed_serveParked present d).trans closed
    exact (looked omits (journal_foldl c present _ waits)).waits c (settled_serveParked present d)
      running waiting fruitless

end Omits

/-! ### Who comes to nothing -/

/-- A caller has gone, or it was dropped or rejected. -/
def Futile (present : Attendance) (told : Journal) (caller : Nat) : Prop :=
  present.gone caller = true ∨ ∃ e ∈ told, e.turnsAway caller = true

instance (present : Attendance) (told : Journal) (caller : Nat) :
    Decidable (Futile present told caller) :=
  inferInstanceAs (Decidable (_ ∨ _))

/-- Callers that are told apart are told something once in a batch, if at all. Then they are not parked
any more. -/
theorem told_once (d : Dispatcher σ) (present : Attendance) (batch : List Call)
    (apart : (d.parked.toList.map Prod.fst ++ batch.map Call.caller).Nodup) (caller : Nat) :
    let d' := d.process c present batch
    ((Journal.answers (d.since d')).map Prod.fst).count caller
      + (Journal.dropped (d.since d')).count caller + (d'.parked.toList.map Prod.fst).count caller
      ≤ 1 := by
  intro d'
  let round : Round σ := Batch.round ⟨batch, present⟩
  have moved : d' = d.moves c round.moves := process_eq_moves c d ⟨batch, present⟩
  obtain ⟨es, journal⟩ := journal_moves c d round.moves
  have count := tally_moves c d round.moves caller
  rw [round.callers_moves, ((inTurn_perm round.calls).map Call.caller).count_eq] at count
  change _ = _ + (batch.map Call.caller).count caller at count
  rw [← moved] at journal count
  have once := List.nodup_iff_count_le_one.mp apart caller
  rw [List.count_append] at once
  rw [since_eq journal.symm]
  simp only [tally, ← journal, Journal.answers, Journal.dropped, List.filterMap_append,
    List.map_append, List.count_append] at count ⊢
  omega

theorem eq_of_count_le_one {α : Type} {told : List (Nat × α)} {k : Nat} {a b : α}
    (once : (told.map Prod.fst).count k ≤ 1) (first : (k, a) ∈ told) (second : (k, b) ∈ told) :
    a = b := by
  obtain ⟨before, after, rfl⟩ := List.append_of_mem first
  rw [List.map_append, List.map_cons, List.count_append, List.count_cons_self] at once
  have early : k ∉ before.map Prod.fst := List.count_eq_zero.mp (by omega)
  have late : k ∉ after.map Prod.fst := List.count_eq_zero.mp (by omega)
  rcases List.mem_append.mp second with mem | mem
  · exact absurd (List.mem_map_of_mem mem) early
  · rcases List.mem_cons.mp mem with same | mem
    · exact (Prod.mk.inj same).2.symm
    · exact absurd (List.mem_map_of_mem mem) late

/-- A caller that has gone, or was dropped or rejected, has got nothing and will get nothing. -/
theorem Futile.fruitless {batch : List Call} {caller : Nat}
    (apart : (d.parked.toList.map Prod.fst ++ batch.map Call.caller).Nodup)
    (futile : Futile present (d.since (d.process c present batch)) caller) :
    Fruitless present d (d.process c present batch) caller := by
  have once := told_once c d present batch apart caller
  dsimp only at once
  generalize d.process c present batch = d' at once futile ⊢
  have parked {w : Wait} (here : d'.parked = some (caller, w)) :
      1 ≤ (d'.parked.toList.map Prod.fst).count caller := by simp [here]
  have answered {a : Answer} (mem : .answered caller a ∈ d.since d') :
      (caller, a) ∈ Journal.answers (d.since d') := List.mem_filterMap.mpr ⟨_, mem, rfl⟩
  have counted {a : Answer} (mem : .answered caller a ∈ d.since d') :
      1 ≤ ((Journal.answers (d.since d')).map Prod.fst).count caller :=
    List.one_le_count_iff.mpr (List.mem_map_of_mem (answered mem))
  rcases futile with gone | ⟨entry, mem, turned⟩
  · exact .inl gone
  rcases Entry.eq_of_turnsAway turned with rfl | ⟨e, rfl⟩
  · have one := List.one_le_count_iff.mpr (Journal.mem_dropped.mpr mem)
    refine .inr ⟨fun w here => ?_, fun a told => ?_⟩
    · have more := parked here
      omega
    · have more := counted told
      omega
  · have one := counted mem
    refine .inr ⟨fun w here => ?_, fun a told => ⟨e, ?_⟩⟩
    · have more := parked here
      omega
    · exact eq_of_count_le_one (by omega) (answered told) (answered mem)

/-- The calls of a batch that do not wait. None of them is struck, if only waits are. -/
theorem early_of_waiting {batch : List Call}
    (waiting : ∀ call ∈ batch, struck call.caller = true → call.priority = .wait) :
    ∀ call ∈ batch.filter (·.priority = .worker) ++ batch.filter (·.priority = .client),
      call.priority ≠ .wait ∧ struck call.caller = false := by
  intro call mem
  have early : call ∈ batch ∧ call.priority ≠ .wait := by
    rcases List.mem_append.mp mem with mem | mem
    all_goals
      obtain ⟨mem, priority⟩ := List.mem_filter.mp mem
      refine ⟨mem, ?_⟩
      rw [of_decide_eq_true priority]
      decide
  exact ⟨early.2, Bool.eq_false_iff.mpr fun here => early.2 (waiting call early.1 here)⟩

/-- A batch from which waits are struck that get nothing. -/
theorem omits_process {batch : List Call}
    (waiting : ∀ call ∈ batch, struck call.caller = true → call.priority = .wait)
    (fruitless : ∀ caller, struck caller = true →
      Fruitless present d (d.process c present batch) caller) :
    Omits struck d.journal (d.process c present batch)
      (process c present { d with parked := unstruck struck d.parked }
        (batch.filter (!struck ·.caller))) := by
  have early := early_of_waiting waiting
  have waits : ∀ call ∈ batch.filter (·.priority = .wait), call.priority = .wait :=
    fun call mem => of_decide_eq_true (List.mem_filter.mp mem).2
  have start : Omits struck d.journal d { d with parked := unstruck struck d.parked } :=
    ⟨[], (List.append_nil _).symm, nofun, by rw [List.filter_nil, List.append_nil]⟩
  unfold process at fruitless ⊢
  rw [inTurn_filter]
  unfold inTurn at fruitless ⊢
  generalize batch.filter (·.priority = .worker) ++ batch.filter (·.priority = .client) = early₁ at *
  have all : early₁.filter (!struck ·.caller) = early₁ :=
    List.filter_eq_self.mpr fun call mem => by rw [(early call mem).2, Bool.not_false]
  rw [List.filter_append, all, List.foldl_append, List.foldl_append]
  rw [List.foldl_append] at fruitless
  have worked : Omits struck d.journal (early₁.foldl (serveOrRefuse c present) d) _ :=
    start.foldl c (fun call mem => (early call mem).2) fun call mem => (early call mem).1
  exact worked.rest c waits fruitless

/-- **Waits that come to nothing leave no trace.** Let callers be told apart, and let some waits be struck
from a batch: waits whose callers have gone, and waits that were dropped or rejected when the batch was
served. A wait that is parked beforehand may be struck with them. Then the rest of the batch, served from
where the whole batch was, ends with the same tasks, results, workers and parked wait, and the same world.
What was done is the same, errand by errand and answer by answer, but for what concerns those who were
struck, and none of them had got a result. -/
theorem futile_traceless (d : Dispatcher σ) (present : Attendance) (batch : List Call)
    (struck : Nat → Bool)
    (apart : (d.parked.toList.map Prod.fst ++ batch.map Call.caller).Nodup)
    (waiting : ∀ call ∈ batch, struck call.caller = true → call.priority = .wait)
    (futile : ∀ caller, struck caller = true →
      Futile present (d.since (d.process c present batch)) caller) :
    let d' := d.process c present batch
    let d'' := process c present { d with parked := unstruck struck d.parked }
      (batch.filter (!struck ·.caller))
    d''.toDesk = d'.toDesk ∧ d''.world = d'.world ∧
      d.since d'' = (d.since d').filter (!·.tells struck) ∧
      ∀ e ∈ d.since d', e.tells struck = true → e.delivery = [] := by
  intro d' d''
  have fruitless (caller : Nat) (here : struck caller = true) : Fruitless present d d' caller :=
    (futile caller here).fruitless c apart
  have same : unstruck struck d'.parked = d'.parked := by
    cases parked : d'.parked with
    | none => rfl
    | some wait =>
      obtain ⟨caller, w⟩ := wait
      have settled : d'.Settled present := settled_serveParked present _
      refine unstruck_of_other w (Bool.eq_false_iff.mpr fun here => ?_)
      rcases fruitless caller here with gone | ⟨unparked, -⟩
      · rw [(settled caller w parked).1] at gone
        cases gone
      · exact unparked w parked
  have omits : Omits struck d.journal d' d'' := omits_process c waiting fruitless
  obtain ⟨told, journal, nothing, rest⟩ := omits
  have journal' : d''.journal = d.journal ++ told.filter (!·.tells struck) := by rw [rest]
  rw [since_eq journal, since_eq journal']
  refine ⟨?_, ?_, rfl, nothing⟩
  · rw [rest, same]
  · rw [rest]

/-- A client waits for all results, and goes. In the next batch there are five more waits: one is for too
many results, one is answered, the caller of one has gone, one is parked, and one comes after it. Three of
these come to nothing, and the first one does. -/
theorem futile_traceless_mixed :
    let vault := (({} : Vault).storeAll [.bool true, .bool true, .bool true]).2
    let d := (start .completion vault).run .ofVault (underway ++ [{ calls := [⟨20, .wait .all⟩] }])
    let present : Attendance := { gone := fun caller => caller = 5 || caller = 20 }
    let struck (caller : Nat) : Bool := [3, 5, 9, 20].contains caller
    let d' := d.process .ofVault present mixed
    let d'' := process .ofVault present { d with parked := unstruck struck d.parked }
      (mixed.filter (!struck ·.caller))
    d.parked = some (20, .all) ∧ (mixed.filter (!struck ·.caller)).map Call.caller = [4, 6, 7, 8] ∧
      Journal.dropped (d.since d') = [20, 5] ∧
      (Journal.answers (d.since d')).map Prod.fst = [8, 6, 3, 4, 9] ∧ d'.parked = some (7, .all) ∧
      d''.toDesk = d'.toDesk ∧ d''.world = d'.world ∧
      d.since d'' = (d.since d').filter (!·.tells struck) := by
  intro vault d present struck d' d''
  have futile : ∀ caller, struck caller = true → Futile present (d.since d') caller := by
    intro caller here
    have among : caller ∈ [3, 5, 9, 20] := List.contains_iff_mem.mp here
    have all : ∀ caller ∈ [3, 5, 9, 20], Futile present (d.since d') caller := by decide
    exact all caller among
  have same := futile_traceless .ofVault d present mixed struck (by decide)
    (by simp [mixed, struck, Call.priority, Request.priority]) futile
  exact ⟨by decide, by decide, by decide, by decide, by decide, same.1, same.2.1, same.2.2.1⟩

/-- Two clients wait. The first one leaves after the second one was rejected. -/
def leaving : Round Vault where
  calls := [⟨1, .wait .one⟩, ⟨2, .wait .one⟩]
  serving := [.call {} ⟨1, .wait .one⟩, .call {} ⟨2, .wait .one⟩]
  present := { gone := (· = 1) }
  serves := .call _ _ (.call _ _ .done)

/-- **A client that leaves while a batch is served leaves a trace.** Its wait is dropped at the end and it
got nothing, but another client was rejected because of it. Without the wait, and with everybody else
there as before, that client is parked and told nothing. -/
theorem leaver_noticed :
    let d : Dispatcher Vault := start .completion {}
    let d' := d.moves .ofVault leaving.moves
    let d'' := d.moves .ofVault (leaving.moves.filter (·.caller? ≠ some 1))
    Serves (leaving.calls.filter (·.caller ≠ 1)) (leaving.serving.filter (·.caller? ≠ some 1)) ∧
      Futile leaving.present (d.since d') 1 ∧ Journal.dropped d'.journal = [1] ∧
      .answered 2 (.refused .alreadyWaiting) ∈ d'.journal ∧ d'.parked = none ∧
      Journal.answers d''.journal = [] ∧ d''.parked = some (2, .one) ∧ d''.toDesk ≠ d'.toDesk := by
  intro d d' d''
  have free : d'.parked = none := rfl
  have parked : d''.parked = some (2, .one) := rfl
  refine ⟨.call {} _ .done, .inl rfl, rfl, List.mem_cons_self, free, rfl, parked, fun same => ?_⟩
  rw [show d''.parked = d'.parked from congrArg Desk.parked same, free] at parked
  cases parked

end Dispatcher

end WorkFarm
