import WorkFarm.Proofs.Promptness
/-!
# Every call is answered once

A batch is taken apart into three classes of calls. They are served one class after the other, a wait
may stay in the slot for parked ones over many batches, and a call that stops the dispatcher turns what
is left of its batch over to be refused. On each of these ways a call could get lost, and its caller
would wait for ever.

So each caller has a *tally*: how often it was answered, how often a wait of its was dropped, and whether
one is parked. A move adds one to the tally of whoever makes it, and changes no other one
(`tally_move`). In particular a parked wait that is answered or dropped leaves the slot, and it is
dropped only when its caller is away (`dropsOnly_process`). The callers of a run are therefore accounted
for by its calls alone, whatever the calls are, and however they are cut into batches.

A dispatcher that has stopped only refuses. Since nothing is parked then, what is left of the batch, and
all batches to come, add refusals to its journal and change nothing else (`run_of_closed`).

## Main definitions

* `Journal.dropped` — those whose waits were dropped
* `Dispatcher.tally` — how often a caller is accounted for
* `Dispatcher.Heard` — whoever is answered, dropped or parked has called
* `Dispatcher.DropsOnly` — whose waits are dropped
* `Dispatcher.Batch.StopsWith` — a call of a batch stops the dispatcher

## Main statements

* `answered_once` — every call is answered once, unless it is a wait that was dropped or is parked
-/

namespace WorkFarm

universe u

/-- Those whose waits were dropped, in order. -/
def Journal.dropped (j : Journal) : List Nat :=
  j.filterMap fun
    | .dropped caller => some caller
    | _ => none

theorem Journal.mem_dropped {j : Journal} {caller : Nat} :
    caller ∈ Journal.dropped j ↔ .dropped caller ∈ j := by
  refine List.mem_filterMap.trans ⟨?_, fun mem => ⟨_, mem, rfl⟩⟩
  rintro ⟨e, mem, is⟩
  cases e with
  | dropped k =>
    cases is
    exact mem
  | _ => cases is

/-- What is done with a call when the dispatcher has stopped. -/
def Call.refusal (call : Call) : Entry := .answered call.caller (.refused .terminated)

/-- A call that stops the dispatcher. -/
def Call.stops (call : Call) : Bool :=
  match call.request with
  | .terminate _ => true
  | _ => false

theorem Call.stops_iff (call : Call) : call.stops = true ↔ ∃ free, call.request = .terminate free := by
  unfold stops
  split
  · rename_i free asked
    exact iff_of_true rfl ⟨free, asked⟩
  · rename_i other
    exact iff_of_false nofun fun ⟨free, asked⟩ => other free asked

theorem Call.priority_of_stops {call : Call} (stops : call.stops = true) :
    call.priority = .client := by
  obtain ⟨free, asked⟩ := call.stops_iff.mp stops
  rw [Call.priority, asked]
  rfl

namespace Dispatcher

variable {σ : Type u} (c : Collaborators σ)

/-! ### The tally of a caller -/

/-- How often a caller was answered, or had a wait dropped, or has one parked. -/
def tally (d : Dispatcher σ) (caller : Nat) : Nat :=
  ((Journal.answers d.journal).map Prod.fst).count caller + (Journal.dropped d.journal).count caller
    + (d.parked.toList.map Prod.fst).count caller

variable {d d' : Dispatcher σ}

theorem tally_answer (d : Dispatcher σ) (k : Nat) (a : Answer) (caller : Nat) :
    (d.answer k a).tally caller = d.tally caller + [k].count caller := by
  simp only [tally, answer, record, Journal.answers, Journal.dropped, List.filterMap_append,
    List.map_append, List.count_append, List.filterMap_cons, List.filterMap_nil, List.map_cons,
    List.map_nil, List.count_nil]
  omega

theorem tally_dropped (d : Dispatcher σ) (k caller : Nat) :
    (d.record (.dropped k)).tally caller = d.tally caller + [k].count caller := by
  simp only [tally, record, Journal.answers, Journal.dropped, List.filterMap_append,
    List.map_append, List.count_append, List.filterMap_cons, List.filterMap_nil, List.map_nil,
    List.count_nil]
  omega

/-- A wait that leaves its place is no longer counted. -/
theorem tally_unparked {k : Nat} {w : Wait} (parked : d.parked = some (k, w)) (caller : Nat) :
    tally { d with parked := none } caller + [k].count caller = d.tally caller := by
  simp [tally, parked]

/-- A wait that takes the free place is counted. -/
theorem tally_parked (free : d.parked = none) (k : Nat) (w : Wait) (caller : Nat) :
    tally { d with parked := some (k, w) } caller = d.tally caller + [k].count caller := by
  simp [tally, free]

/-- What goes on aside is counted for nobody. -/
theorem tally_aside {notes : Entry → Prop} (aside : Aside notes d d')
    (unanswered : ∀ k a, ¬ notes (.answered k a)) (undropped : ∀ k, ¬ notes (.dropped k))
    (caller : Nat) : d'.tally caller = d.tally caller := by
  have answers : Journal.answers d'.journal = Journal.answers d.journal := by
    simp only [Journal.answers, List.filterMap_eq_flatMap_toList]
    refine aside.flatMap (fun _ _ => rfl) fun e note => ?_
    cases e with
    | answered k a => exact absurd note (unanswered k a)
    | _ => rfl
  have dropped : Journal.dropped d'.journal = Journal.dropped d.journal := by
    simp only [Journal.dropped, List.filterMap_eq_flatMap_toList]
    refine aside.flatMap (fun _ _ => rfl) fun e note => ?_
    cases e with
    | dropped k => exact absurd note (undropped k)
    | _ => rfl
  rw [tally, answers, dropped, aside.parked, tally]

/-- A look may answer the parked wait or drop it, and then the wait is not parked any more. -/
theorem tally_serveParked (present : Attendance) (d : Dispatcher σ) (caller : Nat) :
    (d.serveParked present).tally caller = d.tally caller := by
  have look := look_serveParked present d
  generalize d.serveParked present = d' at look ⊢
  cases look with
  | idle | stays => rfl
  | dropped parked _ =>
    rw [tally_dropped]
    exact tally_unparked parked caller
  | refused parked _ _ =>
    rw [tally_answer]
    exact tally_unparked parked caller
  | served _ parked =>
    rw [tally_answer]
    exact tally_unparked parked caller

theorem tally_park (present : Attendance) (d : Dispatcher σ) (k : Nat) (w : Wait) (caller : Nat) :
    (d.park present k w).tally caller = d.tally caller + [k].count caller := by
  have first := tally_serveParked present d caller
  unfold park
  dsimp only
  split
  · rw [tally_answer, first]
  · rename_i free
    rw [Bool.not_eq_true, Option.isSome_eq_false_iff, Option.isNone_iff_eq_none] at free
    rw [tally_serveParked, tally_parked free, first]

/-- A dispatcher that stops tells it to the caller of the parked wait, and to nobody else. -/
theorem tally_terminate (d : Dispatcher σ) (free : Bool) (caller : Nat) :
    (d.terminate c free).tally caller = d.tally caller := by
  obtain ⟨d₁, aside, stopped⟩ := exists_refuseParked c d free
  have quiet : d₁.tally caller = d.tally caller :=
    tally_aside aside (fun _ _ => id) (fun _ => id) caller
  rw [stopped, ← quiet, refuseParked]
  split
  · rfl
  · rename_i parked
    rw [tally_answer]
    exact tally_unparked parked caller

theorem tally_serve (present : Attendance) (d : Dispatcher σ) (call : Call) (caller : Nat) :
    (d.serve c present call).tally caller = d.tally caller + [call.caller].count caller := by
  rcases call.waits_or_terminates_or_passes with ⟨w, asked⟩ | ⟨free, asked⟩ | passes
  · rw [serve_wait c asked, tally_park]
  · rw [serve_terminate c asked, tally_answer, tally_terminate]
  · obtain ⟨d₁, a, aside, -, -, served⟩ := serve_passing c present d passes
    rw [served, tally_answer, tally_aside aside (fun _ _ => id) fun _ => id]

/-- **A move is counted once, for whoever makes it.** -/
theorem tally_move (d : Dispatcher σ) (m : Move σ) (caller : Nat) :
    (d.move c m).tally caller = d.tally caller + m.caller?.toList.count caller := by
  cases m with
  | call present call =>
    change (d.serveOrRefuse c present call).tally caller = _ + [call.caller].count caller
    unfold serveOrRefuse
    split
    · exact tally_answer ..
    · exact tally_serve ..
  | look present => exact tally_serveParked present d caller
  | outside change => rfl

/-- What is counted for a caller after a run are its calls. -/
theorem tally_moves (d : Dispatcher σ) (ms : List (Move σ)) (caller : Nat) :
    (d.moves c ms).tally caller = d.tally caller + (ms.filterMap Move.caller?).count caller := by
  induction ms generalizing d with
  | nil => rfl
  | cons m ms ih =>
    have split : (m :: ms).filterMap Move.caller?
        = m.caller?.toList ++ ms.filterMap Move.caller? := by
      rw [List.filterMap_cons]
      cases m.caller? <;> rfl
    rw [moves_cons, ih, tally_move, split, List.count_append, Nat.add_assoc]

/-! ### Who is answered, and what for -/

/-- A call is made in a run. -/
def Asked (ms : List (Move σ)) (call : Call) : Prop := ∃ present, .call present call ∈ ms

/-- Whoever is parked, answered or dropped has called in a run. A wait is answered with the results that
it asks for, or refused. -/
structure Heard (ms : List (Move σ)) (d : Dispatcher σ) : Prop where
  parked : ∀ caller w, d.parked = some (caller, w) → Asked ms ⟨caller, .wait w⟩
  answered : ∀ caller a, .answered caller a ∈ d.journal → ∃ call, Asked ms call ∧
    call.caller = caller ∧ ∀ w, call.request = .wait w → w.Suits a ∨ ∃ e, a = .refused e
  dropped : ∀ caller, .dropped caller ∈ d.journal → ∃ w, Asked ms ⟨caller, .wait w⟩

namespace Heard

variable {ms : List (Move σ)}

/-- What goes on aside tells nobody anything. -/
theorem of_aside {notes : Entry → Prop} (heard : Heard ms d) (aside : Aside notes d d')
    (unanswered : ∀ k a, ¬ notes (.answered k a)) (undropped : ∀ k, ¬ notes (.dropped k)) :
    Heard ms d' := by
  obtain ⟨es, journal, noted⟩ := aside.journal
  have old : ∀ e, e ∈ d'.journal → (∀ errand ok, e ≠ .errand errand ok) → ¬ notes e →
      e ∈ d.journal := by
    intro e mem other unnoted
    rw [journal] at mem
    refine (List.mem_append.mp mem).resolve_right fun new => ?_
    rcases noted e new with ⟨errand, ok, is⟩ | note
    · exact other errand ok is
    · exact unnoted note
  refine ⟨fun caller w parked => heard.parked caller w (aside.parked ▸ parked), ?_, ?_⟩
  · intro caller a mem
    exact heard.answered caller a (old _ mem nofun (unanswered caller a))
  · intro caller mem
    exact heard.dropped caller (old _ mem nofun (undropped caller))

/-- A call that is answered as it should be. -/
theorem answer (heard : Heard ms d) {call : Call} (asked : Asked ms call) {a : Answer}
    (suits : ∀ w, call.request = .wait w → w.Suits a ∨ ∃ e, a = .refused e) :
    Heard ms (d.answer call.caller a) := by
  refine ⟨heard.parked, fun caller b mem => ?_, fun caller mem => ?_⟩
  · rcases List.mem_append.mp mem with mem | mem
    · exact heard.answered caller b mem
    · cases List.mem_singleton.mp mem
      exact ⟨call, asked, rfl, suits⟩
  · rcases List.mem_append.mp mem with mem | mem
    · exact heard.dropped caller mem
    · cases List.mem_singleton.mp mem

/-- The parked wait is answered, and leaves its place. -/
theorem of_freed (heard : Heard ms d) {caller : Nat} {w : Wait} {a : Answer}
    (parked : d.parked = some (caller, w)) (suits : w.Suits a ∨ ∃ e, a = .refused e)
    (freed : d'.parked = none) (journal : d'.journal = d.journal ++ [.answered caller a]) :
    Heard ms d' := by
  have told : Heard ms (d.answer caller a) :=
    heard.answer (heard.parked caller w parked) fun v same => by
      cases same
      exact suits
  refine ⟨fun k v still => ?_, fun k b mem => ?_, fun k mem => ?_⟩
  · rw [freed] at still
    cases still
  · rw [journal] at mem
    exact told.answered k b mem
  · rw [journal] at mem
    exact told.dropped k mem

theorem serveParked (heard : Heard ms d) (present : Attendance) :
    Heard ms (d.serveParked present) := by
  have look := look_serveParked present d
  generalize d.serveParked present = d' at look ⊢
  cases look with
  | idle | stays => exact heard
  | @dropped caller w parked _ =>
    refine ⟨nofun, fun k a told => ?_, fun k dropped => ?_⟩
    · rcases List.mem_append.mp told with told | told
      · exact heard.answered k a told
      · cases List.mem_singleton.mp told
    · rcases List.mem_append.mp dropped with dropped | dropped
      · exact heard.dropped k dropped
      · cases List.mem_singleton.mp dropped
        exact ⟨w, heard.parked caller w parked⟩
  | refused parked _ _ => exact heard.of_freed parked (.inr ⟨_, rfl⟩) rfl rfl
  | served _ parked _ _ _ suits _ => exact heard.of_freed parked (.inl suits) rfl rfl

theorem park (heard : Heard ms d) (present : Attendance) {caller : Nat} {w : Wait}
    (asked : Asked ms ⟨caller, .wait w⟩) : Heard ms (d.park present caller w) := by
  have first : Heard ms (d.serveParked present) := heard.serveParked present
  unfold Dispatcher.park
  dsimp only
  generalize d.serveParked present = d₁ at first ⊢
  split
  · exact first.answer asked fun _ _ => .inr ⟨_, rfl⟩
  · have enter : Heard ms { d₁ with parked := some (caller, w) } := by
      refine ⟨fun k v parked => ?_, first.answered, first.dropped⟩
      cases parked
      exact asked
    exact enter.serveParked present

theorem terminate (heard : Heard ms d) (free : Bool) : Heard ms (d.terminate c free) := by
  obtain ⟨d₁, aside, stopped⟩ := exists_refuseParked c d free
  have closed : Heard ms { d with closed := true } := ⟨heard.parked, heard.answered, heard.dropped⟩
  have quiet : Heard ms d₁ := closed.of_aside aside (fun _ _ => id) fun _ => id
  rw [stopped, refuseParked]
  split
  · exact quiet
  · rename_i parked
    exact quiet.of_freed parked (.inr ⟨_, rfl⟩) rfl rfl

/-- **Only those are answered who call.** -/
theorem move (heard : Heard ms d) {m : Move σ} (mem : m ∈ ms) : Heard ms (d.move c m) := by
  cases m with
  | look present => exact heard.serveParked present
  | outside change => exact ⟨heard.parked, heard.answered, heard.dropped⟩
  | call present call =>
    have asked : Asked ms call := ⟨present, mem⟩
    change Heard ms (d.serveOrRefuse c present call)
    unfold serveOrRefuse
    split
    · exact heard.answer asked fun _ _ => .inr ⟨_, rfl⟩
    · rcases call.waits_or_terminates_or_passes with ⟨w, waits⟩ | ⟨free, stops⟩ | passes
      · rw [serve_wait c waits]
        obtain ⟨caller, request⟩ := call
        cases waits
        exact heard.park present asked
      · rw [serve_terminate c stops]
        refine (heard.terminate c free).answer asked fun w waits => ?_
        rw [stops] at waits
        cases waits
      · obtain ⟨d₁, a, aside, -, -, served⟩ := serve_passing c present d passes
        rw [served]
        exact (heard.of_aside aside (fun _ _ => id) fun _ => id).answer asked
          fun w waits => absurd waits (passes.1 w)

theorem moves (heard : Heard ms d) {made : List (Move σ)} (sub : ∀ m ∈ made, m ∈ ms) :
    Heard ms (d.moves c made) := by
  induction made generalizing d with
  | nil => exact heard
  | cons m made ih =>
    exact ih (heard.move c (sub m List.mem_cons_self)) fun m mem => sub m (List.mem_cons_of_mem _ mem)

end Heard

theorem heard_start (ms : List (Move σ)) (order : DeliveryOrder) (world : σ) :
    Heard ms (start order world) where
  parked _ _ parked := by cases parked
  answered _ _ mem := by cases mem
  dropped _ mem := by cases mem

theorem heard_moves (order : DeliveryOrder) (world : σ) (ms : List (Move σ)) :
    Heard ms ((start order world).moves c ms) :=
  (heard_start ms order world).moves c fun _ => id

/-! ### Whose waits are dropped -/

/-- From one dispatcher to another, only such waits are dropped whose callers are `away`. -/
def DropsOnly (away : Nat → Prop) (d d' : Dispatcher σ) : Prop :=
  ∃ es, d'.journal = d.journal ++ es ∧ ∀ caller, Entry.dropped caller ∈ es → away caller

namespace DropsOnly

variable {away : Nat → Prop} {d₁ : Dispatcher σ}

theorem refl (d : Dispatcher σ) : DropsOnly away d d := ⟨[], by simp, by simp⟩

theorem trans (h₁ : DropsOnly away d d₁) (h₂ : DropsOnly away d₁ d') : DropsOnly away d d' := by
  obtain ⟨es₁, journal₁, away₁⟩ := h₁
  obtain ⟨es₂, journal₂, away₂⟩ := h₂
  refine ⟨es₁ ++ es₂, by rw [journal₂, journal₁, List.append_assoc], fun caller mem => ?_⟩
  exact (List.mem_append.mp mem).elim (away₁ caller) (away₂ caller)

theorem mono {away' : Nat → Prop} (drops : DropsOnly away d d')
    (more : ∀ caller, away caller → away' caller) : DropsOnly away' d d' :=
  drops.imp fun _ only => ⟨only.1, fun caller mem => more caller (only.2 caller mem)⟩

theorem of_aside {notes : Entry → Prop} (aside : Aside notes d d')
    (undropped : ∀ k, ¬ notes (.dropped k)) : DropsOnly away d d' := by
  obtain ⟨es, journal, noted⟩ := aside.journal
  refine ⟨es, journal, fun caller mem => ?_⟩
  rcases noted _ mem with ⟨e, ok, errand⟩ | note
  · cases errand
  · exact absurd note (undropped caller)

/-- The desk may change, and a call may be answered. -/
theorem of_answered {caller : Nat} {a : Answer} (journal : d'.journal = d.journal ++ [.answered caller a]) :
    DropsOnly away d d' :=
  ⟨_, journal, fun _ mem => absurd (List.mem_singleton.mp mem) nofun⟩

end DropsOnly

theorem dropsOnly_serveParked (present : Attendance) (d : Dispatcher σ) :
    DropsOnly present.Misses d (d.serveParked present) := by
  have look := look_serveParked present d
  generalize d.serveParked present = d' at look ⊢
  cases look with
  | idle | stays => exact .refl d
  | @dropped caller w parked away =>
    refine ⟨_, rfl, fun k mem => ?_⟩
    cases List.mem_singleton.mp mem
    exact away.imp_right And.left
  | refused | served => exact .of_answered rfl

theorem dropsOnly_serveOrRefuse (present : Attendance) (d : Dispatcher σ) (call : Call) :
    DropsOnly present.Misses d (d.serveOrRefuse c present call) := by
  unfold serveOrRefuse
  split
  · exact .of_answered rfl
  · rcases call.waits_or_terminates_or_passes with ⟨w, asked⟩ | ⟨free, asked⟩ | passes
    · rw [serve_wait c asked, park]
      have look := dropsOnly_serveParked present d
      generalize d.serveParked present = d₁ at look ⊢
      split
      · exact look.trans (.of_answered rfl)
      · have enter : DropsOnly present.Misses d { d₁ with parked := some (call.caller, w) } := look
        exact enter.trans (dropsOnly_serveParked present _)
    · rw [serve_terminate c asked]
      obtain ⟨d₁, aside, stopped⟩ := exists_refuseParked c d free
      have quiet : DropsOnly present.Misses { d with closed := true } d₁ := .of_aside aside fun _ => id
      have told : DropsOnly present.Misses d d₁ := quiet
      refine .trans (told.trans ?_) (.of_answered rfl)
      rw [stopped, refuseParked]
      split
      · exact .refl d₁
      · exact .of_answered rfl
    · obtain ⟨d₁, a, aside, -, -, served⟩ := serve_passing c present d passes
      rw [served]
      exact (DropsOnly.of_aside aside fun _ => id).trans (.of_answered rfl)

/-- A move drops only a wait whose caller is away while it is made. -/
theorem dropsOnly_move (d : Dispatcher σ) (m : Move σ) : DropsOnly m.Misses d (d.move c m) := by
  cases m with
  | call present call =>
    exact (dropsOnly_serveOrRefuse c present d call).mono fun _ away => ⟨present, rfl, away⟩
  | look present => exact (dropsOnly_serveParked present d).mono fun _ away => ⟨present, rfl, away⟩
  | outside change => exact .refl d

/-! ### A dispatcher that has stopped -/

/-- Refuses calls, one after another, since the dispatcher has stopped. -/
def refuseAll (d : Dispatcher σ) (calls : List Call) : Dispatcher σ :=
  { d with journal := d.journal ++ calls.map Call.refusal }

theorem refuseAll_append (d : Dispatcher σ) (calls calls' : List Call) :
    d.refuseAll (calls ++ calls') = (d.refuseAll calls).refuseAll calls' := by
  simp [refuseAll]

/-- A dispatcher that has stopped refuses every call, and does nothing else. -/
theorem foldl_of_closed (stopped : d.closed = true) (present : Attendance) (calls : List Call) :
    calls.foldl (serveOrRefuse c present) d = d.refuseAll calls := by
  induction calls generalizing d with
  | nil => simp [refuseAll]
  | cons call calls ih =>
    have refused : d.serveOrRefuse c present call = d.refuseAll [call] := by
      simp [serveOrRefuse, stopped, answer, record, refuseAll, Call.refusal]
    have still : (d.refuseAll [call]).closed = true := stopped
    rw [List.foldl_cons, refused, ih still, ← refuseAll_append, List.singleton_append]

theorem serveParked_of_free (present : Attendance) (free : d.parked = none) :
    d.serveParked present = d := by
  simp [serveParked, free]

/-- Whatever comes, a dispatcher that has stopped refuses the calls in turn, and parks nobody. -/
theorem moves_of_closed (stopped : d.closed = true) (free : d.parked = none) (ms : List (Move σ)) :
    let d' := d.moves c ms
    d'.journal = d.journal ++ (ms.filterMap Move.call?).map Call.refusal ∧
      d'.closed = true ∧ d'.parked = none := by
  induction ms generalizing d with
  | nil => exact ⟨(List.append_nil _).symm, stopped, free⟩
  | cons m ms ih =>
    cases m with
    | call present call =>
      have refused : d.move c (.call present call) = d.answer call.caller (.refused .terminated) := by
        simp [move, serveOrRefuse, stopped]
      rw [moves_cons, refused]
      obtain ⟨journal, closed, parked⟩ := ih (d := d.answer call.caller _) stopped free
      refine ⟨journal.trans ?_, closed, parked⟩
      simp [answer, record, Move.call?, Call.refusal]
    | look present =>
      rw [moves_cons, move, serveParked_of_free present free]
      exact ih stopped free
    | outside change => exact ih (d := { d with world := change d.world }) stopped free

/-- A call that stops the dispatcher is told so, and so is the caller of the parked wait. -/
theorem serve_stop (present : Attendance) (d : Dispatcher σ) {call : Call} {free : Bool}
    (stops : call.request = .terminate free) :
    let d' := d.serve c present call
    d'.closed = true ∧ d'.parked = none ∧ .answered call.caller (.flag true) ∈ d.since d' ∧
      ∀ caller w, d.parked = some (caller, w) →
        .answered caller (.refused .terminated) ∈ d.since d' := by
  obtain ⟨d₁, aside, stopped⟩ := exists_refuseParked c d free
  obtain ⟨es, journal, -⟩ := aside.journal
  have journal : d₁.journal = d.journal ++ es := journal
  have free : d₁.parked = d.parked := aside.parked
  rw [serve_terminate c stops, stopped, refuseParked, free]
  cases parked : d.parked with
  | none =>
    refine ⟨aside.closed, free.trans parked, ?_, nofun⟩
    have all : (d₁.answer call.caller (.flag true)).journal
        = d.journal ++ (es ++ [.answered call.caller (.flag true)]) := by
      simp [answer, record, journal]
    rw [since_eq all]
    simp
  | some wait =>
    obtain ⟨k, v⟩ := wait
    have all : (answer (answer { d₁ with parked := none } k (.refused .terminated)) call.caller
          (.flag true)).journal = d.journal ++
        (es ++ [.answered k (.refused .terminated), .answered call.caller (.flag true)]) := by
      simp [answer, record, journal]
    refine ⟨aside.closed, rfl, ?_, fun caller w same => ?_⟩
    · rw [since_eq all]
      simp
    · cases same
      rw [since_eq all]
      simp

/-! ### Rounds -/

/-- Nothing is lost and nothing comes twice when a batch is put in turn. -/
theorem inTurn_perm (batch : List Call) : (inTurn batch).Perm batch := by
  induction batch with
  | nil => exact .refl _
  | cons call batch ih =>
    refine .trans ?_ (ih.cons call)
    simp only [inTurn, List.filter_cons]
    cases call.priority with
    | worker => exact .refl _
    | client =>
      simp only [reduceCtorEq, decide_false, decide_true, if_true, Bool.false_eq_true, if_false]
      exact List.perm_middle.append_right _
    | wait =>
      simp only [reduceCtorEq, decide_false, decide_true, if_true, Bool.false_eq_true, if_false]
      exact List.perm_middle

theorem Serves.callers_eq {calls : List Call} {ms : List (Move σ)} (serves : Serves calls ms) :
    ms.filterMap Move.caller? = calls.map Call.caller := by
  induction serves with
  | done => rfl
  | call present call _ ih => exact congrArg (call.caller :: ·) ih
  | outside _ _ ih => exact ih

theorem Round.calls_moves (r : Round σ) : r.moves.filterMap Move.call? = inTurn r.calls := by
  simp [Round.moves, List.filterMap_append, r.serves.calls_eq, Move.call?]

theorem Round.callers_moves (r : Round σ) :
    r.moves.filterMap Move.caller? = (inTurn r.calls).map Call.caller := by
  simp [Round.moves, List.filterMap_append, r.serves.callers_eq, Move.caller?]

/-- The callers of some rounds, each as often as it calls. -/
theorem count_callers (rounds : List (Round σ)) (caller : Nat) :
    ((rounds.flatMap Round.moves).filterMap Move.caller?).count caller
      = ((rounds.flatMap Round.calls).map Call.caller).count caller := by
  induction rounds with
  | nil => rfl
  | cons r rounds ih =>
    simp only [List.flatMap_cons, List.filterMap_append, List.map_append, List.count_append, ih,
      r.callers_moves, ((inTurn_perm r.calls).map Call.caller).count_eq]

theorem calls_rounds (rounds : List (Round σ)) :
    (rounds.flatMap Round.moves).filterMap Move.call? = rounds.flatMap fun r => inTurn r.calls := by
  induction rounds with
  | nil => rfl
  | cons r rounds ih => rw [List.flatMap_cons, List.filterMap_append, r.calls_moves, ih, List.flatMap_cons]

theorem exists_round_of_asked {rounds : List (Round σ)} {call : Call}
    (asked : Asked (rounds.flatMap Round.moves) call) : ∃ r ∈ rounds, call ∈ r.calls := by
  obtain ⟨present, mem⟩ := asked
  obtain ⟨r, among, made⟩ := List.mem_flatMap.mp mem
  have listed : call ∈ r.moves.filterMap Move.call? := List.mem_filterMap.mpr ⟨_, made, rfl⟩
  rw [r.calls_moves] at listed
  exact ⟨r, among, (inTurn_perm r.calls).subset listed⟩

/-- Among the calls of a round that are answered at once, `stop` is the first that stops the dispatcher.
It comes after `before`, and `after` is placed behind it. -/
structure Round.StopsWith (r : Round σ) (before : List Call) (stop : Call) (after : List Call) :
    Prop where
  clients : r.calls.filter (·.priority = .client) = before ++ stop :: after
  stops : stop.stops = true
  first : ∀ call ∈ before, call.stops = false

theorem Round.exists_stopsWith {r : Round σ} (some : ∃ call ∈ r.calls, call.stops = true) :
    ∃ before stop after, r.StopsWith before stop after := by
  obtain ⟨call, mem, stops⟩ := some
  have asks : call ∈ r.calls.filter (·.priority = .client) :=
    List.mem_filter.mpr ⟨mem, decide_eq_true (Call.priority_of_stops stops)⟩
  obtain ⟨stop, found⟩ := Option.isSome_iff_exists.mp (List.find?_isSome.mpr ⟨call, asks, stops⟩)
  obtain ⟨stops, before, after, clients, first⟩ := List.find?_eq_some_iff_append.mp found
  exact ⟨before, stop, after, clients, stops, fun call mem => by simpa using first call mem⟩

/-- Only a call for that stops the dispatcher. -/
theorem closed_serveOrRefuse (present : Attendance) (d : Dispatcher σ) {call : Call}
    (other : call.stops = false) : (d.serveOrRefuse c present call).closed = d.closed := by
  unfold serveOrRefuse
  split
  · rfl
  · rcases call.waits_or_terminates_or_passes with ⟨w, asked⟩ | ⟨free, asked⟩ | passes
    · rw [serve_wait c asked, closed_park]
    · rw [call.stops_iff.mpr ⟨free, asked⟩] at other
      cases other
    · exact (bypasses_serve c present passes).closed

theorem closed_moves {ms : List (Move σ)}
    (none : ∀ call ∈ ms.filterMap Move.call?, call.stops = false) :
    (d.moves c ms).closed = d.closed := by
  induction ms generalizing d with
  | nil => rfl
  | cons m ms ih =>
    cases m with
    | call present call =>
      rw [moves_cons, ih fun call mem => none call (List.mem_cons_of_mem _ mem)]
      exact closed_serveOrRefuse c present d (none call List.mem_cons_self)
    | look present =>
      rw [moves_cons, ih none]
      exact closed_serveParked present d
    | outside change => exact ih (d := { d with world := change d.world }) none

/-- If there is a call for that, a round stops the dispatcher. -/
theorem exists_stopping_round {rounds : List (Round σ)} (running : d.closed = false)
    (some : ∃ r ∈ rounds, ∃ call ∈ r.calls, call.stops = true) :
    ∃ earlier r later before stop after, rounds = earlier ++ r :: later ∧
      r.StopsWith before stop after ∧ (d.moves c (earlier.flatMap Round.moves)).closed = false := by
  induction rounds generalizing d with
  | nil =>
    obtain ⟨r, mem, -⟩ := some
    cases mem
  | cons r rounds ih =>
    by_cases here : ∃ call ∈ r.calls, call.stops = true
    · obtain ⟨before, stop, after, stops⟩ := Round.exists_stopsWith here
      exact ⟨[], r, rounds, before, stop, after, rfl, stops, running⟩
    · have none : ∀ call ∈ r.moves.filterMap Move.call?, call.stops = false := by
        intro call mem
        rw [r.calls_moves] at mem
        exact Bool.eq_false_iff.mpr fun stops => here ⟨call, (inTurn_perm r.calls).subset mem, stops⟩
      obtain ⟨r', mem, there⟩ := some
      have rest : r' ∈ rounds :=
        (List.mem_cons.mp mem).resolve_left fun same => here (same ▸ there)
      obtain ⟨earlier, r', later, before, stop, after, split, stops, runs⟩ :=
        ih ((closed_moves c none).trans running) ⟨r', rest, there⟩
      refine ⟨r :: earlier, r', later, before, stop, after, by rw [split]; rfl, stops, ?_⟩
      rw [List.flatMap_cons, moves_append]
      exact runs

/-- The calls that are served before the one that stops the dispatcher pass by. -/
theorem Round.StopsWith.passes {r : Round σ} {before after : List Call} {stop : Call}
    (stops : r.StopsWith before stop after) :
    ∀ call ∈ r.calls.filter (·.priority = .worker) ++ before, call.Passes := by
  intro call mem
  rcases List.mem_append.mp mem with works | early
  · have works : call.priority = .worker := of_decide_eq_true (List.mem_filter.mp works).2
    refine call.passes_of_priority (by simp [works]) fun free asked => ?_
    rw [Call.priority, asked] at works
    cases works
  · have asks : call ∈ r.calls.filter (·.priority = .client) :=
      stops.clients ▸ List.mem_append_left _ early
    have asks : call.priority = .client := of_decide_eq_true (List.mem_filter.mp asks).2
    refine call.passes_of_priority (by simp [asks]) fun free asked => ?_
    have other := stops.first call early
    rw [call.stops_iff.mpr ⟨free, asked⟩] at other
    cases other

/-- Where a round stops the dispatcher: the calls of workers and those in front of `stop` are served, then
`stop` is, and the others are left. -/
theorem Round.StopsWith.exists_stop {r : Round σ} {before after : List Call} {stop : Call}
    (stops : r.StopsWith before stop after) :
    ∃ ms present rest, r.moves = ms ++ .call present stop :: rest ∧
      Serves (r.calls.filter (·.priority = .worker) ++ before) ms ∧
      rest.filterMap Move.call? = after ++ r.calls.filter (·.priority = .wait) := by
  have turn : inTurn r.calls = (r.calls.filter (·.priority = .worker) ++ before)
      ++ stop :: (after ++ r.calls.filter (·.priority = .wait)) := by
    simp [inTurn, stops.clients]
  obtain ⟨ms₁, ms₂, serving, front, back⟩ := (turn ▸ r.serves).of_append
  obtain ⟨pause, present, rest, rfl, idle, last⟩ := back.of_cons
  refine ⟨ms₁ ++ pause, present, rest ++ [.look r.present], ?_, ?_, ?_⟩
  · simp [Round.moves, serving]
  · exact List.append_nil (_ ++ before) ▸ front.append idle
  · simp [last.calls_eq, Move.call?]

/-- **Every call is answered once.** After any rounds, each caller was answered as often as it has
called, less the waits of its that were dropped and the one that is parked. Callers are told apart, so
each has called once. Anybody may leave at any time. But a wait is dropped only after it was made, and by
a move during which its caller has gone, or leaves while its answer is on its way.

If there is a call for that, some round stops the dispatcher. By then all calls of workers in the batch
have been served, wherever they stood, and the calls of clients that came before: the dispatcher has not
stopped after any of them. The parked wait is answered that the dispatcher has stopped, the call that stops
it is answered too, and what is done from then on is to refuse: first the calls of clients that came behind
and the waits of the batch, and then every call of every later batch. Nobody is parked any more. -/
theorem answered_once (order : DeliveryOrder) (world : σ) (rounds : List (Round σ)) :
    let d := (start order world).moves c (rounds.flatMap Round.moves)
    (∀ caller, ((Journal.answers d.journal).map Prod.fst).count caller
        + (Journal.dropped d.journal).count caller + (d.parked.toList.map Prod.fst).count caller
        = ((rounds.flatMap Round.calls).map Call.caller).count caller) ∧
      (∀ caller w, d.parked = some (caller, w) → ∃ r ∈ rounds, ⟨caller, .wait w⟩ ∈ r.calls) ∧
      (∀ earlier m later, rounds.flatMap Round.moves = earlier ++ m :: later →
        let d₀ := (start order world).moves c earlier
        ∀ caller ∈ Journal.dropped (d₀.since (d₀.move c m)),
          m.Misses caller ∧ ∃ w, Asked (earlier ++ [m]) ⟨caller, .wait w⟩) ∧
      ((∃ r ∈ rounds, ∃ call ∈ r.calls, call.stops = true) →
        ∃ earlier r later before stop after, rounds = earlier ++ r :: later ∧
          r.StopsWith before stop after ∧
          ((start order world).moves c (earlier.flatMap Round.moves)).closed = false) ∧
      ∀ earlier r later before stop after, rounds = earlier ++ r :: later →
        r.StopsWith before stop after →
        let d₀ := (start order world).moves c (earlier.flatMap Round.moves)
        d₀.closed = false →
        ∃ ms present rest, r.moves = ms ++ .call present stop :: rest ∧
          Serves (r.calls.filter (·.priority = .worker) ++ before) ms ∧
          (∀ ms₀, ms₀ <+: ms → (d₀.moves c ms₀).closed = false) ∧
          let d₁ := d₀.moves c ms
          let d₂ := d₁.move c (.call present stop)
          (∀ caller w, d₀.parked = some (caller, w) →
            .answered caller (.refused .terminated) ∈ d₁.since d₂) ∧
          .answered stop.caller (.flag true) ∈ d₁.since d₂ ∧
          d.journal = d₂.journal ++ (after ++ r.calls.filter (·.priority = .wait)
            ++ later.flatMap fun r => inTurn r.calls).map Call.refusal ∧
          d.closed = true ∧ d.parked = none := by
  intro d
  refine ⟨fun caller => ?_, fun caller w parked => ?_, ?_, exists_stopping_round c rfl, ?_⟩
  · have count := tally_moves c (start order world) (rounds.flatMap Round.moves) caller
    have nothing : (start order world).tally caller = 0 := rfl
    rw [count_callers, nothing, Nat.zero_add] at count
    exact count
  · exact exists_round_of_asked ((heard_moves c order world _).parked caller w parked)
  · intro earlier m later _ d₀ caller mem
    have dropped := Journal.mem_dropped.mp mem
    have heard := heard_moves c order world (earlier ++ [m])
    rw [moves_append] at heard
    obtain ⟨es, journal, away⟩ := dropsOnly_move c d₀ m
    obtain ⟨w, asked⟩ := heard.dropped caller (List.mem_of_mem_drop dropped)
    rw [since_eq journal] at dropped
    exact ⟨away caller dropped, w, asked⟩
  · intro earlier r later before stop after split stops d₀ running
    obtain ⟨ms, present, rest, made, serves, left⟩ := stops.exists_stop
    refine ⟨ms, present, rest, made, serves, fun ms₀ front => ?_, ?_⟩
    · refine (closed_moves c fun call mem => ?_).trans running
      have served := (front.filterMap Move.call?).subset mem
      rw [serves.calls_eq] at served
      exact Bool.eq_false_iff.mpr fun ends =>
        (stops.passes call served).2 _ (call.stops_iff.mp ends).choose_spec
    intro d₁ d₂
    have bypasses : Bypasses d₀ d₁ := bypasses_serves c serves stops.passes running
    obtain ⟨free, asked⟩ := stop.stops_iff.mp stops.stops
    have served : d₂ = d₁.serve c present stop :=
      serveOrRefuse_of_running c present (bypasses.closed.trans running)
    obtain ⟨stopped, unparked, told, refused⟩ := serve_stop c present d₁ asked
    rw [← served] at stopped unparked told refused
    have end_eq : d = d₂.moves c (rest ++ later.flatMap Round.moves) := by
      simp only [d, split, List.flatMap_append, List.flatMap_cons, made, moves_append, moves_cons,
        List.append_assoc, List.cons_append, d₂, d₁, d₀]
    obtain ⟨journal, closed, parked⟩ := moves_of_closed c stopped unparked
      (rest ++ later.flatMap Round.moves)
    rw [List.filterMap_append, left, calls_rounds, ← end_eq] at journal
    rw [end_eq]
    exact ⟨fun caller w parked => refused caller w (bypasses.parked.trans parked), told,
      end_eq ▸ journal, closed, parked⟩

/-- A client leaves while it waits. The next wait is rejected while the client is still there, and the one
behind it finds the place free. -/
def abandoned : List (Round Vault) :=
  [(⟨[⟨0, .wait .one⟩, ⟨1, .submit [⟨1⟩]⟩], {}⟩ : Batch).round,
    { calls := [⟨2, .wait .one⟩, ⟨9, .wait .all⟩]
      serving := [.call {} ⟨2, .wait .one⟩, .call { gone := (· = 0) } ⟨9, .wait .all⟩]
      present := { gone := (· = 0) }
      serves := .call _ _ (.call _ _ .done) }]

/-- The dispatcher is stopped. A worker has called after that, and so have two clients. -/
def closing : Round Vault :=
  (⟨[⟨3, .countAvailable⟩, ⟨4, .terminate true⟩, ⟨5, .requestTask ⟨0, "ann"⟩⟩, ⟨6, .wait .one⟩,
    ⟨7, .isEmpty⟩], {}⟩ : Batch).round

/-- A task is submitted to a dispatcher that has stopped. -/
def belated : Round Vault := (⟨[⟨8, .submit [⟨2⟩]⟩], {}⟩ : Batch).round

/-- The first client is dropped between two waits, and the last one refused when the dispatcher stops. The
worker is told that the payload of its task cannot be had; the clients that came behind are refused, and
so is a client in the next batch. -/
theorem answered_once_closing :
    let d₀ := (start .completion {}).moves .ofVault (abandoned.flatMap Round.moves)
    let d := (start .completion {}).moves .ofVault
      ((abandoned ++ closing :: [belated]).flatMap Round.moves)
    .answered 2 (.refused .alreadyWaiting) ∈ d₀.journal ∧ d₀.parked = some (9, .all) ∧
      Journal.dropped d.journal = [0] ∧ ((Journal.answers d.journal).map Prod.fst).count 9 = 1 ∧
      .answered 5 (.assignment .noTask) ∈ d.journal ∧
      ∃ j, .answered 9 (.refused .terminated) ∈ j ∧
        d.journal = j ++ [.answered 7 (.refused .terminated), .answered 6 (.refused .terminated),
          .answered 8 (.refused .terminated)] := by
  intro d₀ d
  obtain ⟨counts, -, -, -, closed⟩ := answered_once .ofVault .completion {}
    (abandoned ++ closing :: [belated])
  have count : _ + 0 + 0 = 1 := counts 9
  obtain ⟨ms, present, rest, -, -, -, told, -, journal, -, -⟩ := closed abandoned closing _
    [⟨3, .countAvailable⟩] ⟨4, .terminate true⟩ [⟨7, .isEmpty⟩] rfl
    ⟨rfl, rfl, by simp [Call.stops]⟩ rfl
  exact ⟨List.mem_of_getElem? (i := 2) rfl, rfl, rfl, count, List.mem_of_getElem? (i := 6) rfl, _,
    List.mem_of_mem_drop (told 9 .all rfl), journal⟩

end Dispatcher

end WorkFarm
