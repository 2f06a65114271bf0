import WorkFarm.Dispatcher.Storage
import WorkFarm.Proofs.Aside
import WorkFarm.Proofs.Conservation
/-!
# A wait that is parked

A dispatcher has room for one wait that has to stay, and each time it is looked at the count of a wait for
several results is checked again. So two things have to be shown. What stays after a look has a reason to
stay, and what was parked once does not become impossible while it stays.

The first is a matter of the look alone (`Dispatcher.Look`). The second is an invariant of the whole run
(`Dispatcher.Seated`). As many results are owed or ready as submissions were accepted, less those that
were delivered; submissions only become more, and nobody else is delivered anything while a wait is
parked. So the count that a wait is checked against never drops.

Who is answered by a move is said by `Dispatcher.Attends`: whoever makes it, and perhaps the caller of
the parked wait, who is then answered in the way that the wait asks for, or told that the dispatcher
stops. The relation is transitive, and so it is said of runs, too.

## Main definitions

* `Dispatcher.Seated` — the parked wait can be answered some day
* `Dispatcher.Attends` — who is answered, and what becomes of the parked wait

## Main statements

* `seated_moves` — the parked wait can be answered some day, after every run
* `parked_stays` — a wait that stays after a look is answered with results, or when the dispatcher stops
-/

namespace WorkFarm

universe u

/-- While submissions only become more and nothing is delivered, no fewer results are owed or ready. -/
theorem Books.Conserved.total_mono {b b' : Books} (conserved : b.Conserved)
    (conserved' : b'.Conserved) (admitted : b.admitted <+: b'.admitted)
    (delivered : b'.delivered = b.delivered) :
    b.outbox.countPending + b.outbox.countAvailable ≤
      b'.outbox.countPending + b'.outbox.countAvailable := by
  obtain ⟨owed, there⟩ := conserved
  obtain ⟨owed', there'⟩ := conserved'
  have more := admitted.length_le
  rw [delivered] at there'
  simp only [Outbox.countPending_add_countAvailable]
  omega

namespace Dispatcher

variable {σ : Type u} (c : Collaborators σ)

/-! ### The parked wait can be answered some day -/

/-- The books are in order, and the wait that is parked, if there is one, can be answered some day. A
dispatcher that has stopped has no wait parked. -/
structure Seated (d : Dispatcher σ) : Prop where
  agree : d.books.Agree
  conserved : d.closed = false → d.books.Conserved
  valid : ∀ caller w, d.parked = some (caller, w) → w.Valid d.outbox
  free : d.closed = true → d.parked = none

theorem seated_start (order : DeliveryOrder) (world : σ) : (start order world).Seated where
  agree := Books.agree_start order
  conserved := fun _ => ⟨rfl, rfl⟩
  valid := fun _ _ parked => by cases parked
  free := fun _ => rfl

/-- While a call passes, no fewer results are owed or ready than before, so the parked wait can still be
answered some day. -/
theorem Seated.valid_passing {d : Dispatcher σ} (seated : d.Seated) {present : Attendance} {call : Call}
    (passes : call.Passes) (conserved : (d.serve c present call).closed = false →
      (d.serve c present call).books.Conserved) (running : d.closed = false) {caller : Nat} {w : Wait}
    (parked : (d.serve c present call).parked = some (caller, w)) :
    w.Valid (d.serve c present call).outbox := by
  obtain ⟨d₁, a, aside, leads, quiet, served⟩ := serve_passing c present d passes
  rw [served] at conserved parked ⊢
  have valid := seated.valid caller w (aside.parked ▸ parked)
  have after : (d₁.answer call.caller a).books.Conserved := conserved (aside.closed.trans running)
  rw [books_answer_of_delivery_eq_nil d₁ call.caller quiet] at after
  exact valid.mono ((seated.conserved running).total_mono after
    (leads.journal.filterMap _) aside.delivered)

theorem closed_serveParked (present : Attendance) (d : Dispatcher σ) :
    (d.serveParked present).closed = d.closed := by
  have look := look_serveParked present d
  generalize d.serveParked present = d' at look ⊢
  cases look <;> rfl

theorem closed_park (present : Attendance) (d : Dispatcher σ) (caller : Nat) (w : Wait) :
    (d.park present caller w).closed = d.closed := by
  unfold park
  dsimp only
  split
  · exact closed_serveParked present d
  · rw [closed_serveParked]
    exact closed_serveParked present d

theorem parked_terminate (d : Dispatcher σ) (free : Bool) : (d.terminate c free).parked = none := by
  unfold terminate refuseParked
  dsimp only
  split
  · exact ‹_›
  · rfl

theorem Seated.valid_serve {d : Dispatcher σ} (seated : d.Seated) {present : Attendance} {call : Call}
    (conserved : (d.serve c present call).closed = false → (d.serve c present call).books.Conserved)
    (running : d.closed = false) {caller : Nat} {w : Wait}
    (parked : (d.serve c present call).parked = some (caller, w)) :
    w.Valid (d.serve c present call).outbox := by
  rcases call.waits_or_terminates_or_passes with ⟨v, asked⟩ | ⟨free, asked⟩ | passes
  · rw [serve_wait c asked] at parked ⊢
    exact (w.blocked_iff.mp (blocked_of_parked_park parked)).1
  · rw [serve_terminate c asked] at parked
    exact absurd ((parked_terminate c d free).symm.trans parked) nofun
  · exact seated.valid_passing c passes conserved running parked

/-- Only a call that stops the dispatcher stops it, and then no wait is parked. -/
theorem parked_serve_of_closed {d : Dispatcher σ} {present : Attendance} {call : Call}
    (running : d.closed = false) (stopped : (d.serve c present call).closed = true) :
    (d.serve c present call).parked = none := by
  rcases call.waits_or_terminates_or_passes with ⟨v, asked⟩ | ⟨free, asked⟩ | passes
  · rw [serve_wait c asked, closed_park, running] at stopped
    cases stopped
  · rw [serve_terminate c asked]
    exact parked_terminate c d free
  · obtain ⟨d₁, a, aside, -, -, served⟩ := serve_passing c present d passes
    have closed : (d.serve c present call).closed = d.closed := served ▸ aside.closed
    rw [closed, running] at stopped
    cases stopped

theorem Seated.serveOrRefuse {d : Dispatcher σ} (seated : d.Seated) (present : Attendance)
    (call : Call) : (d.serveOrRefuse c present call).Seated := by
  obtain ⟨agree, conserved⟩ :=
    Books.conserved_changes (leads_serveOrRefuse c present d call fun _ _ => trivial).books
      seated.agree seated.conserved
  refine ⟨agree, conserved, ?_, ?_⟩
  all_goals unfold Dispatcher.serveOrRefuse at conserved ⊢
  all_goals split
  · exact seated.valid
  · rename_i runs
    rw [if_neg runs] at conserved
    exact fun _ _ => seated.valid_serve c conserved (Bool.eq_false_iff.mpr runs)
  · exact seated.free
  · rename_i runs
    exact parked_serve_of_closed c (Bool.eq_false_iff.mpr runs)

theorem Seated.serveParked (c : Collaborators σ) {d : Dispatcher σ} (seated : d.Seated)
    (present : Attendance) : (d.serveParked present).Seated := by
  have leads : LeadsOn c d (d.serveParked present) := leads_serveParked c present d
  obtain ⟨agree, conserved⟩ := Books.conserved_changes leads.books seated.agree seated.conserved
  refine ⟨agree, conserved, fun caller w parked => ?_, fun stopped => ?_⟩
  · obtain ⟨same, -, blocked⟩ := blocked_of_parked_serveParked parked
    rw [same]
    exact (w.blocked_iff.mp blocked).1
  · rw [closed_serveParked] at stopped
    have free := seated.free stopped
    simp [Dispatcher.serveParked, free]

/-- **A parked wait can be answered some day**, whatever is done. -/
theorem Seated.move {d : Dispatcher σ} (seated : d.Seated) (m : Move σ) : (d.move c m).Seated := by
  cases m with
  | call present call => exact seated.serveOrRefuse c present call
  | look present => exact seated.serveParked c present
  | outside _ => exact ⟨seated.agree, seated.conserved, seated.valid, seated.free⟩

theorem Seated.moves {d : Dispatcher σ} (seated : d.Seated) (ms : List (Move σ)) :
    (d.moves c ms).Seated := by
  induction ms generalizing d with
  | nil => exact seated
  | cons m ms ih => exact ih (seated.move c m)

/-- After every run the parked wait can be answered some day. -/
theorem seated_moves (order : DeliveryOrder) (world : σ) (ms : List (Move σ)) :
    ((start order world).moves c ms).Seated :=
  (seated_start order world).moves c ms

/-! ### Who is answered -/

/-- Those who call, of whom `own` holds, may be answered anything, and may be parked. Nobody else is
parked anew. Of the others, only the caller of the parked wait is answered: with the results that it
waits for, or that the dispatcher stops. -/
structure Attends (own : Nat → Prop) (d d' : Dispatcher σ) : Prop where
  parked : ∀ caller w, d'.parked = some (caller, w) → own caller ∨ d.parked = some (caller, w)
  answers : ∃ es, d'.journal = d.journal ++ es ∧ ∀ caller a, Entry.answered caller a ∈ es →
    own caller ∨ ∃ w, d.parked = some (caller, w) ∧ (w.Suits a ∨ a = .refused .terminated)

namespace Attends

variable {own : Nat → Prop} {d d₁ d₂ : Dispatcher σ}

theorem refl (d : Dispatcher σ) : Attends own d d :=
  ⟨fun _ _ parked => .inr parked, [], by simp, by simp⟩

theorem trans (h₁ : Attends own d d₁) (h₂ : Attends own d₁ d₂) : Attends own d d₂ := by
  obtain ⟨es₁, journal₁, answers₁⟩ := h₁.answers
  obtain ⟨es₂, journal₂, answers₂⟩ := h₂.answers
  refine ⟨fun caller w parked => (h₂.parked caller w parked).elim .inl (h₁.parked caller w),
    es₁ ++ es₂, by rw [journal₂, journal₁, List.append_assoc], fun caller a mem => ?_⟩
  rcases List.mem_append.mp mem with mem | mem
  · exact answers₁ caller a mem
  · rcases answers₂ caller a mem with mine | ⟨w, parked, suits⟩
    · exact .inl mine
    · exact (h₁.parked caller w parked).imp_right fun before => ⟨w, before, suits⟩

theorem of_aside {notes : Entry → Prop} (aside : Aside notes d d₁)
    (silent : ∀ caller a, ¬ notes (.answered caller a)) : Attends own d d₁ := by
  obtain ⟨es, journal, noted⟩ := aside.journal
  refine ⟨fun caller w parked => .inr (aside.parked ▸ parked), es, journal, fun caller a mem => ?_⟩
  rcases noted _ mem with ⟨e, ok, errand⟩ | note
  · cases errand
  · exact absurd note (silent caller a)

theorem answer (d : Dispatcher σ) {caller : Nat} (mine : own caller) (a : Answer) :
    Attends own d (d.answer caller a) := by
  refine ⟨fun _ _ parked => .inr parked, [.answered caller a], rfl, fun k b mem => .inl ?_⟩
  cases List.mem_singleton.mp mem
  exact mine

/-- The parked wait is answered, and nothing is parked any more. -/
theorem of_freed {caller : Nat} {w : Wait} {a : Answer} (parked : d.parked = some (caller, w))
    (freed : d₁.parked = none) (journal : d₁.journal = d.journal ++ [.answered caller a])
    (suits : own caller ∨ w.Suits a ∨ a = .refused .terminated) : Attends own d d₁ := by
  refine ⟨fun _ _ still => absurd (freed.symm.trans still) nofun, _, journal, fun k b mem => ?_⟩
  cases List.mem_singleton.mp mem
  exact suits.imp_right fun suits => ⟨w, parked, suits⟩

end Attends

variable {own : Nat → Prop}

/-- A look answers the parked wait with what it asks for, if its count is valid. -/
theorem attends_serveParked (present : Attendance) {d : Dispatcher σ}
    (valid : ∀ caller w, d.parked = some (caller, w) → own caller ∨ w.Valid d.outbox) :
    Attends own d (d.serveParked present) := by
  have look := look_serveParked present d
  generalize d.serveParked present = d' at look ⊢
  cases look with
  | idle | stays => exact .refl d
  | dropped => exact ⟨nofun, _, rfl, fun _ _ mem => absurd (List.mem_singleton.mp mem) nofun⟩
  | refused parked _ never =>
    exact .of_freed parked rfl rfl (.inl ((valid _ _ parked).resolve_right never))
  | served _ parked _ _ _ suits _ => exact .of_freed parked rfl rfl (.inr (.inl suits))

theorem Seated.attends_park {d : Dispatcher σ} (seated : d.Seated) (present : Attendance)
    {asking : Nat} (mine : own asking) (v : Wait) : Attends own d (d.park present asking v) := by
  have first : Attends own d (d.serveParked present) :=
    attends_serveParked present fun caller w parked => .inr (seated.valid caller w parked)
  unfold park
  dsimp only
  generalize d.serveParked present = d₁ at first ⊢
  split
  · exact first.trans (.answer d₁ mine _)
  -- the count of the new wait may be refused, but then its own caller is told
  · have enter : Attends own d₁ { d₁ with parked := some (asking, v) } :=
      ⟨fun _ _ parked => by cases parked; exact .inl mine, [], by simp, by simp⟩
    refine (first.trans enter).trans (attends_serveParked present fun caller w parked => ?_)
    cases parked
    exact .inl mine

theorem attends_terminate (d : Dispatcher σ) (free : Bool) : Attends own d (d.terminate c free) := by
  -- that it stops shows neither in the parked wait nor in the journal
  obtain ⟨d₁, aside, stopped⟩ := exists_refuseParked c d free
  have quiet : Attends own { d with closed := true } d₁ := .of_aside aside fun _ _ => id
  have go : Attends own d₁ d₁.refuseParked := by
    unfold refuseParked
    split
    · exact .refl d₁
    · exact .of_freed ‹_› rfl rfl (.inr (.inr rfl))
  have both := quiet.trans go
  rw [stopped]
  exact ⟨both.parked, both.answers⟩

theorem Seated.attends_serve {d : Dispatcher σ} (seated : d.Seated) (present : Attendance)
    {call : Call} (mine : own call.caller) : Attends own d (d.serve c present call) := by
  rcases call.waits_or_terminates_or_passes with ⟨v, asked⟩ | ⟨free, asked⟩ | passes
  · rw [serve_wait c asked]
    exact seated.attends_park present mine v
  · rw [serve_terminate c asked]
    exact (attends_terminate c d free).trans (.answer _ mine _)
  · obtain ⟨d₁, a, aside, -, -, served⟩ := serve_passing c present d passes
    exact served ▸ (Attends.of_aside aside fun _ _ => id).trans (.answer _ mine _)

/-- The caller that makes a move, if one does. -/
def Move.caller? : Move σ → Option Nat
  | .call _ asked => some asked.caller
  | _ => none

/-- **Who is answered by a move**: whoever makes it, and perhaps the caller of the parked wait. -/
theorem Seated.attends_move {d : Dispatcher σ} (seated : d.Seated) {m : Move σ}
    (mine : ∀ caller, m.caller? = some caller → own caller) : Attends own d (d.move c m) := by
  cases m with
  | call present call =>
    change Attends own d (d.serveOrRefuse c present call)
    unfold Dispatcher.serveOrRefuse
    split
    · exact .answer d (mine _ rfl) _
    · exact seated.attends_serve c present (mine _ rfl)
  | look present =>
    exact attends_serveParked present fun caller w parked => .inr (seated.valid caller w parked)
  | outside _ => exact ⟨fun _ _ parked => .inr parked, [], (List.append_nil _).symm, nofun⟩

theorem Seated.attends_moves {d : Dispatcher σ} (seated : d.Seated) {ms : List (Move σ)}
    (mine : ∀ m ∈ ms, ∀ caller, m.caller? = some caller → own caller) :
    Attends own d (d.moves c ms) := by
  induction ms generalizing d with
  | nil => exact .refl d
  | cons m ms ih =>
    have first : Attends own d (d.move c m) := seated.attends_move c (mine m List.mem_cons_self)
    exact first.trans (ih (seated.move c m) fun m mem => mine m (List.mem_cons_of_mem _ mem))

/-- **A wait that stays is answered with results, or when the dispatcher stops.** After a look, which
is how every batch ends, a parked wait has a caller that is there, and a reason to stay: for the next
result, that there is none; for all results, that some is owed, or that there is none; for `k` results,
that there are fewer, while `k` is positive and not more than what is owed or ready. Whatever is done
from then on, by anyone but the caller, an answer to the caller brings the results that the wait asks
for, unless it says that the dispatcher has stopped. -/
theorem parked_stays (order : DeliveryOrder) (world : σ) (ms : List (Move σ)) (present : Attendance)
    {caller : Nat} {w : Wait}
    (parked : ((start order world).moves c (ms ++ [.look present])).parked = some (caller, w)) :
    let d := (start order world).moves c (ms ++ [.look present])
    present.gone caller = false ∧ w.Blocked d.outbox ∧
      ∀ later : List (Move σ), (∀ m ∈ later, m.caller? ≠ some caller) →
        ∀ a, .answered caller a ∈ d.since (d.moves c later) →
          w.Suits a ∨ a = .refused .terminated := by
  intro d
  have seated : d.Seated := seated_moves c order world _
  have looked : d = ((start order world).moves c ms).serveParked present := moves_append ..
  change d.parked = _ at parked
  rw [looked] at parked
  obtain ⟨same, here, blocked⟩ := blocked_of_parked_serveParked parked
  refine ⟨here, ?_, fun later others a mem => ?_⟩
  · rw [looked, same]
    exact blocked
  -- the others are parked and answered as they may be, but the caller only as the parked wait asks
  · have attends : Attends (· ≠ caller) d (d.moves c later) :=
      seated.attends_moves c fun m mem k calls here => others m mem (here ▸ calls)
    obtain ⟨es, journal, answers⟩ := attends.answers
    rw [since_eq journal] at mem
    rcases answers caller a mem with other | ⟨v, before, suits⟩
    · exact absurd rfl other
    · rw [looked, parked] at before
      cases before
      exact suits

/-- Two tasks are submitted, one of them is run, and a client waits for both results. -/
def halfway : List (Move Vault) :=
  [.outside fun v => ((v.store (.bool true)).2.store (.bool false)).2,
    .call {} ⟨0, .submit [⟨1⟩, ⟨2⟩]⟩,
    .call {} ⟨1, .requestTask ⟨0, "ann"⟩⟩,
    .call {} ⟨2, .handIn ⟨⟨1⟩, .ok (.bool true), "ann"⟩ ⟨0, "ann"⟩⟩,
    .call {} ⟨3, .wait (.exactly 2)⟩]

/-- The wait stays, for one of two results is there. -/
theorem parked_stays_halfway :
    let d := (start .completion {}).moves .ofVault (halfway ++ [.look {}])
    d.parked = some (3, .exactly 2) ∧ d.outbox.countAvailable = 1 ∧
      (({} : Attendance).gone 3 = false ∧ (Wait.exactly 2).Blocked d.outbox ∧
      ∀ later : List (Move Vault), (∀ m ∈ later, m.caller? ≠ some 3) →
        ∀ a, .answered 3 a ∈ d.since (d.moves .ofVault later) →
          (Wait.exactly 2).Suits a ∨ a = .refused .terminated) := by
  have parked : ((start .completion {}).moves .ofVault (halfway ++ [.look {}])).parked
      = some (3, .exactly 2) := by decide
  exact ⟨parked, by decide, parked_stays .ofVault .completion {} halfway {} parked⟩

end Dispatcher

end WorkFarm
