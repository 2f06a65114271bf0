import Mathlib.Data.List.Induction
import WorkFarm.Heartbeat
import WorkFarm.Proofs.Table
/-!
# The heartbeat in its smallest steps

A signal may have the heartbeat look at any number of outcomes. Here it goes on by smaller steps: a ping has
its outcome, one outcome is looked at, a report is taken. Between any two of them anybody may have an instance
watched, let one go, shut the heartbeat down or drop it, and a report may take as long as it likes. Only one
thing is done in one go: an instance is removed, the heartbeat looks whether it was closed, and the report
begins.

The calls are not done in one go either. A call to watch looks whether the heartbeat was closed and writes its
instance down later, when it may have been closed; the call counts from then on. Shutting down closes the
heartbeat before it clears the table, which is to drop it first.

What is done is written to a log, on the side. Nothing reads it. Who is watched can be told from the log
alone (`Deed.watches`), and every report was right by the log as it stood at that time (`Deed.Warranted`).
Both are kept by every step, whatever a round found out before it, since an outcome is looked at together
with the table as it is then.

## Main definitions

* `Pulse` — a heartbeat, with the calls that are under way, and the log
* `Pulse.Event`, `Pulse.step`, `Pulse.run` — what happens, in any order
* `Deed.watches` — who is watched, by a log
* `Pulse.Faithful` — the heartbeat is as its log has it

## Main statements

* `arrives_step`, `run_watch` — the heartbeat goes on by such steps
* `report_once` — an instance is reported once each time that it is watched, and not after it was let go
-/

namespace WorkFarm

namespace Heartbeat

/-- Whether a report is being taken. -/
def Round.takes : Round → Bool
  | .reporting _ => true
  | .waiting | .pinging _ | .over => false

/-- The ping of an instance has failed, and this is still to be looked at. -/
def Round.Failing (h : Handle) : Round → Prop
  | .pinging pings => (h, some false) ∈ pings
  | .reporting rest => (h, false) ∈ rest
  | .waiting | .over => False

/-- Writes an instance down as watched. -/
def enter (h : Handle) (b : Heartbeat) : Heartbeat :=
  { b with watched := b.watched.insert h.serial h }

/-- The outcome of a ping is the first that it has. -/
def answer (h : Handle) (alive : Bool) (pings : List (Handle × Option Bool)) :
    List (Handle × Option Bool) :=
  pings.map fun p => if p.1 = h then (h, p.2.or (some alive)) else p

theorem map_fst_answer (h : Handle) (alive : Bool) (pings : List (Handle × Option Bool)) :
    (answer h alive pings).map Prod.fst = pings.map Prod.fst := by
  rw [answer, List.map_map]
  refine List.map_congr_left fun p _ => ?_
  by_cases here : p.1 = h <;> simp [here]

/-- A ping has failed before, or this is its outcome. -/
theorem failing_answer {h k : Handle} {alive : Bool} {pings : List (Handle × Option Bool)}
    (fails : (k, some false) ∈ answer h alive pings) :
    (k, some false) ∈ pings ∨ k = h ∧ alive = false ∧ (h, none) ∈ pings := by
  obtain ⟨⟨k', o⟩, mem, put⟩ := List.mem_map.mp fails
  dsimp only at put
  split at put
  case isFalse =>
    cases put
    exact .inl mem
  case isTrue here =>
    subst here
    cases o with
    | some earlier =>
      cases put
      exact .inl mem
    | none =>
      cases put
      exact .inr ⟨rfl, rfl, mem⟩

theorem step_outcome (watched : Table Nat Handle) (closed : Bool) (pings : List (Handle × Option Bool))
    (h : Handle) (alive : Bool) :
    step ⟨watched, closed, .pinging pings⟩ (.outcome h alive) =
      match outcomes? (answer h alive pings) with
      | none => (⟨watched, closed, .pinging (answer h alive pings)⟩, [])
      | some outcomes =>
        ((settle ⟨watched, closed, .pinging pings⟩ outcomes).1,
          [(settle ⟨watched, closed, .pinging pings⟩ outcomes).2]) :=
  rfl

/-- The outcomes of a round are those of its pings. -/
theorem outcomes?_eq_some_map {pings : List (Handle × Option Bool)} {outcomes : List (Handle × Bool)}
    (settled : outcomes? pings = some outcomes) :
    pings = outcomes.map fun outcome => (outcome.1, some outcome.2) := by
  induction pings generalizing outcomes with
  | nil =>
    cases settled
    rfl
  | cons ping pings ih =>
    obtain ⟨h, o⟩ := ping
    simp only [outcomes?, List.mapM_cons, Option.pure_def, Option.bind_eq_bind,
      Option.bind_eq_some_iff, Option.map_eq_some_iff] at settled
    obtain ⟨_, ⟨alive, rfl, rfl⟩, rest, settled, same⟩ := settled
    cases same
    rw [ih settled]
    rfl

/-- The instance whose report begins. -/
def Act.report? : Act → Option Handle
  | .report h => some h
  | .ping _ | .rest | .stop => none

end Heartbeat

/-! ### The log -/

/-- What is done about the instances that are watched. -/
inductive Deed where
  /-- An instance is watched from now on. -/
  | watched (h : Handle)
  /-- Somebody has let an instance go. -/
  | unwatched (h : Handle)
  | shutDown
  | dropped
  /-- A ping has failed. -/
  | failed (h : Handle)
  /-- An instance is watched no longer, and its report begins. -/
  | reported (h : Handle)
  /-- An instance is watched no longer, and it is not reported, since the heartbeat was closed. -/
  | passedOver (h : Handle)
deriving DecidableEq, Repr

namespace Deed

variable {i : Nat} {log later : List Deed} {h : Handle} {e : Deed}

def report? : Deed → Option Handle
  | .reported h => some h
  | _ => none

/-- Whether the instance with a serial number is watched after a deed. -/
def leaves (i : Nat) (watched : Bool) : Deed → Bool
  | .watched h => if h.serial = i then true else watched
  | .unwatched h | .reported h | .passedOver h => if h.serial = i then false else watched
  | .shutDown => false
  | .dropped | .failed _ => watched

/-- Whether the instance with a serial number is watched, by a log. -/
def watches (i : Nat) (log : List Deed) : Bool := log.foldl (leaves i) false

theorem watches_concat (i : Nat) (log : List Deed) (e : Deed) :
    watches i (log ++ [e]) = e.leaves i (watches i log) := by
  simp [watches]

@[simp] theorem leaves_watched_self (h : Handle) (b : Bool) : (watched h).leaves h.serial b = true :=
  if_pos rfl

@[simp] theorem leaves_reported_self (h : Handle) (b : Bool) : (reported h).leaves h.serial b = false :=
  if_pos rfl

/-- An instance that is watched is so since the last time that it was written down. -/
theorem exists_watched (watching : watches i log = true) :
    ∃ earlier later h, log = earlier ++ .watched h :: later ∧ h.serial = i ∧
      ∀ k, .unwatched k ∈ later → k.serial ≠ i := by
  induction log using List.reverseRecOn with
  | nil => cases watching
  | append_singleton log e ih =>
    rw [watches_concat] at watching
    by_cases here : ∃ h, e = .watched h ∧ h.serial = i
    · obtain ⟨h, rfl, serial⟩ := here
      exact ⟨log, [], h, rfl, serial, by simp⟩
    -- no other deed has an instance watched that was not
    have before : watches i log = true ∧ ∀ k, e = .unwatched k → k.serial ≠ i := by
      cases e <;> simp_all [leaves]
    obtain ⟨earlier, later, h, split, serial, kept⟩ := ih before.1
    refine ⟨earlier, later ++ [e], h, by rw [split]; simp, serial, fun k mem => ?_⟩
    rcases List.mem_append.mp mem with mem | mem
    · exact kept k mem
    · exact before.2 k (List.mem_singleton.mp mem).symm

/-- A deed that does not end the watch over the instance with a serial number. -/
def Spares (i : Nat) : Deed → Prop
  | .unwatched h | .reported h | .passedOver h => h.serial ≠ i
  | .shutDown => False
  | .watched _ | .dropped | .failed _ => True

/-- Whoever is watched has been written down since, or was watched before and has been spared since. -/
theorem watches_append_iff : watches i (log ++ later) = true ↔
    watches i later = true ∨ watches i log = true ∧ ∀ e ∈ later, e.Spares i := by
  induction later using List.reverseRecOn with
  | nil => simp [watches]
  | append_singleton later e ih =>
    rw [← List.append_assoc, watches_concat, watches_concat]
    cases e with
    | watched k =>
      by_cases here : k.serial = i <;> simp_all [leaves, Spares, or_imp]
    | unwatched k | reported k | passedOver k =>
      by_cases here : k.serial = i <;> simp_all [leaves, Spares, or_imp, forall_and]
    | shutDown | dropped | failed => simp_all [leaves, Spares, or_imp, forall_and]

/-- Whoever is watched was watched before, or has been written down since. -/
theorem watches_append (watching : watches i (log ++ later) = true) :
    watches i log = true ∨ ∃ h, .watched h ∈ later ∧ h.serial = i := by
  rcases watches_append_iff.mp watching with again | ⟨before, -⟩
  · obtain ⟨earlier, last, h, rfl, serial, -⟩ := exists_watched again
    exact .inr ⟨h, by simp, serial⟩
  · exact .inl before

/-- Whoever is watched is so until something ends it. -/
theorem watches_append_of_spares (watching : watches i log = true) (spared : ∀ e ∈ later, e.Spares i) :
    watches i (log ++ later) = true :=
  watches_append_iff.mpr (.inr ⟨watching, spared⟩)

/-- By a log, it was right to do this. -/
def Warranted (log : List Deed) : Deed → Prop
  | .reported h =>
    watches h.serial log = true ∧ .shutDown ∉ log ∧ .dropped ∉ log ∧ .failed h ∈ log
  | .passedOver h => .failed h ∈ log
  | .watched _ | .unwatched _ | .shutDown | .dropped | .failed _ => True

/-- By the log as it stood each time, everything was right. -/
def AllWarranted (log : List Deed) : Prop :=
  ∀ (before after : List Deed) (e : Deed), log = before ++ e :: after → e.Warranted before

theorem AllWarranted.concat (all : AllWarranted log) (warranted : e.Warranted log) :
    AllWarranted (log ++ [e]) := by
  intro before after e' split
  rcases List.eq_nil_or_concat after with rfl | ⟨after, last, rfl⟩
  · obtain ⟨rfl, same⟩ := List.append_inj' split rfl
    cases same
    exact warranted
  · rw [List.concat_eq_append, ← List.cons_append, ← List.append_assoc] at split
    exact all before after e' (List.append_inj' split rfl).1

end Deed

/-! ### The steps -/

/-- A heartbeat, with the calls that are under way, and the log. -/
structure Pulse where
  heartbeat : Heartbeat := {}
  /-- Whether a report is being taken. If not, a round that is reporting has outcomes to look at. -/
  taking : Bool := false
  /-- The instances of the calls that were let in and have not written them down. -/
  entering : List Handle := []
  log : List Deed := []

namespace Pulse

/-- What happens. -/
inductive Event where
  /-- A call to watch an instance looks whether the heartbeat was closed. -/
  | watch (h : Handle)
  /-- A call that was let in writes its instance down. -/
  | enter (h : Handle)
  | unwatch (h : Handle)
  | shutDown
  | drop
  /-- A round begins, with pings to all that are watched, in some order. It may do so although the
  heartbeat was closed. -/
  | tick (targets : List Handle)
  /-- A ping was answered in time, or has failed. -/
  | outcome (h : Handle) (alive : Bool)
  /-- The next outcome is looked at, or the round is over. -/
  | look
  /-- The report has been taken. -/
  | reported
  /-- The heartbeat notices that it was closed. -/
  | stop

def withRound (s : Pulse) (round : Heartbeat.Round) : Pulse :=
  { s with heartbeat := { s.heartbeat with round } }

/-- Changes the heartbeat, and writes down what was done. -/
def record (s : Pulse) (change : Heartbeat → Heartbeat) (e : Deed) : Pulse :=
  { s with heartbeat := change s.heartbeat, log := s.log ++ [e] }

/-- Writes down that a ping has failed, if it had no outcome so far. -/
def note (s : Pulse) (pings : List (Handle × Option Bool)) (h : Handle) (alive : Bool) : Pulse :=
  if alive = false ∧ (h, none) ∈ pings then s.record id (.failed h) else s

/-- Goes on with the round, once its pings have these outcomes. -/
def putDown (s : Pulse) (pings : List (Handle × Option Bool)) : Pulse :=
  match Heartbeat.outcomes? pings with
  | none => s.withRound (.pinging pings)
  | some outcomes => { s.withRound (.reporting outcomes) with taking := false }

/-- Looks at the outcome of a ping. -/
def lookAt (s : Pulse) (h : Handle) (alive : Bool) : Pulse :=
  if alive = false ∧ s.heartbeat.watched.contains h.serial = true then
    if s.heartbeat.closed then s.record (.unwatch h) (.passedOver h)
    else { s.record (.unwatch h) (.reported h) with taking := true }
  else s

/-- What an event does. An event that does not fit is passed over. -/
def step (s : Pulse) : Event → Pulse
  | .watch h => if s.heartbeat.closed then s else { s with entering := s.entering ++ [h] }
  | .enter h =>
    if h ∈ s.entering then { s.record (.enter h) (.watched h) with entering := s.entering.erase h } else s
  | .unwatch h => s.record (.unwatch h) (.unwatched h)
  | .shutDown => s.record .shutDown .shutDown
  | .drop => s.record .drop .dropped
  | .tick targets =>
    match s.heartbeat.round with
    | .waiting =>
      if targets ≠ [] ∧ targets.Perm s.heartbeat.watched.values then
        s.withRound (.pinging (targets.map fun h => (h, none)))
      else s
    | _ => s
  | .outcome h alive =>
    match s.heartbeat.round with
    | .pinging pings => (s.note pings h alive).putDown (Heartbeat.answer h alive pings)
    | _ => s
  | .look =>
    match s.heartbeat.round, s.taking with
    | .reporting [], false => s.withRound .waiting
    | .reporting ((h, alive) :: rest), false => (s.withRound (.reporting rest)).lookAt h alive
    | _, _ => s
  | .reported => { s with taking := false }
  | .stop =>
    match s.heartbeat.round with
    | .waiting => if s.heartbeat.closed then s.withRound .over else s
    | _ => s

/-- What happens, one event after another. -/
def run (s : Pulse) (events : List Event) : Pulse := events.foldl step s

theorem run_append (s : Pulse) (events events' : List Event) :
    s.run (events ++ events') = (s.run events).run events' :=
  List.foldl_append ..

/-! ### The heartbeat goes on by such steps -/

/-- A heartbeat between two signals, with nobody about to write an instance down. -/
def between (b : Heartbeat) (log : List Deed) : Pulse :=
  { heartbeat := b, taking := b.round.takes, log }

/-- Steps lead from here to a heartbeat between two signals. The reports that begin are those among some
acts. -/
def Arrives (s : Pulse) (b : Heartbeat) (acts : List Heartbeat.Act) : Prop :=
  ∃ events deeds, s.run events = between b (s.log ++ deeds) ∧
    deeds.filterMap Deed.report? = acts.filterMap Heartbeat.Act.report?

namespace Arrives

variable {s : Pulse} {b : Heartbeat} {acts : List Heartbeat.Act}

/-- Nothing has to be done any more. -/
theorem here (same : s = between b s.log) (silent : acts.filterMap Heartbeat.Act.report? = []) :
    s.Arrives b acts :=
  ⟨[], [], by simpa [run] using same, by simp [silent]⟩

/-- One step is taken that begins no report. -/
theorem step (event : Event) {s' : Pulse} (steps : s.step event = s') (arrives : s'.Arrives b acts)
    (deeds : List Deed) (log : s'.log = s.log ++ deeds) (silent : deeds.filterMap Deed.report? = []) :
    s.Arrives b acts := by
  obtain ⟨events, deeds', ran, reports⟩ := arrives
  subst steps
  refine ⟨event :: events, deeds ++ deeds', ?_, ?_⟩
  · rw [← List.append_assoc, ← log]
    exact ran
  · rw [List.filterMap_append, silent]
    exact reports

/-- One step is taken that writes nothing down. -/
theorem quiet (event : Event) {s' : Pulse} (steps : s.step event = s') (arrives : s'.Arrives b acts)
    (log : s'.log = s.log) : s.Arrives b acts :=
  arrives.step event steps [] (by rw [log, List.append_nil]) rfl

end Arrives

/-- A round that is over. -/
theorem arrives_endRound (watched : Table Nat Handle) (closed : Bool) (log : List Deed) :
    let b : Heartbeat := ⟨watched, closed, .waiting⟩
    (between b log).Arrives b.endRound.1 [b.endRound.2] := by
  cases closed with
  | false => exact .here rfl rfl
  | true => exact .quiet .stop rfl (.here rfl rfl) rfl

/-- The outcomes of a round are looked at, one after another. -/
theorem arrives_settle (b : Heartbeat) (outcomes : List (Handle × Bool)) (log : List Deed) :
    Arrives { heartbeat := { b with round := .reporting outcomes }, log } (b.settle outcomes).1
      [(b.settle outcomes).2] := by
  obtain ⟨watched, closed, round⟩ := b
  induction outcomes generalizing log watched closed round with
  | nil => exact .quiet .look rfl (arrives_endRound watched closed log) rfl
  | cons outcome outcomes ih =>
    obtain ⟨h, alive⟩ := outcome
    cases alive with
    | true => exact .quiet .look rfl (ih log watched closed round) rfl
    | false =>
      simp only [Heartbeat.settle]
      split
      case isFalse absent =>
        have looked : step { heartbeat := ⟨watched, closed, .reporting ((h, false) :: outcomes)⟩, log } .look
            = { heartbeat := ⟨watched, closed, .reporting outcomes⟩, log } :=
          if_neg fun fails => absent fails.2
        exact .quiet .look looked (ih log watched closed round) rfl
      case isTrue watching =>
        cases closed with
        | true =>
          have looked : step { heartbeat := ⟨watched, true, .reporting ((h, false) :: outcomes)⟩, log } .look
              = { heartbeat := ⟨watched.erase h.serial, true, .reporting outcomes⟩
                  log := log ++ [.passedOver h] } :=
            if_pos ⟨rfl, watching⟩
          exact .step .look looked (ih _ _ true round) [.passedOver h] rfl rfl
        | false =>
          have looked : step { heartbeat := ⟨watched, false, .reporting ((h, false) :: outcomes)⟩, log } .look
              = between ⟨watched.erase h.serial, false, .reporting outcomes⟩ (log ++ [.reported h]) :=
            if_pos ⟨rfl, watching⟩
          exact ⟨[.look], [.reported h], looked, rfl⟩

/-- **The heartbeat goes on by such steps.** Whatever it is told, these lead to the same heartbeat, and the
same reports begin. -/
theorem arrives_step (b : Heartbeat) (signal : Heartbeat.Signal) (log : List Deed) :
    (between b log).Arrives (b.step signal).1 (b.step signal).2 := by
  obtain ⟨watched, closed, round⟩ := b
  cases round <;> cases signal <;> try exact .here rfl rfl
  case waiting.tick =>
    show (between ⟨watched, closed, .waiting⟩ log).Arrives
      (Heartbeat.begin ⟨watched, closed, .waiting⟩).1 [(Heartbeat.begin ⟨watched, closed, .waiting⟩).2]
    unfold Heartbeat.begin
    split
    case isTrue idle => exact arrives_endRound watched closed log
    case isFalse busy =>
      have some : watched.values ≠ [] := by
        intro none
        exact busy (by simp_all [Table.isEmpty, Table.values])
      have ticked : (between ⟨watched, closed, .waiting⟩ log).step (.tick watched.values)
          = between ⟨watched, closed, .pinging (watched.values.map fun h => (h, none))⟩ log :=
        if_pos ⟨some, .refl _⟩
      exact .quiet (.tick watched.values) ticked (.here rfl rfl) rfl
  case pinging.outcome pings h alive =>
    let deeds := if alive = false ∧ (h, none) ∈ pings then [Deed.failed h] else []
    have silent : deeds.filterMap Deed.report? = [] := by
      simp only [deeds]
      split <;> rfl
    have noted : (between ⟨watched, closed, .pinging pings⟩ log).note pings h alive
        = between ⟨watched, closed, .pinging pings⟩ (log ++ deeds) := by
      simp only [note, deeds]
      split
      · rfl
      · rw [List.append_nil]
    have stepped : (between ⟨watched, closed, .pinging pings⟩ log).step (.outcome h alive)
        = (between ⟨watched, closed, .pinging pings⟩ (log ++ deeds)).putDown
            (Heartbeat.answer h alive pings) :=
      congrArg (putDown · (Heartbeat.answer h alive pings)) noted
    rw [Heartbeat.step_outcome]
    cases settled : Heartbeat.outcomes? (Heartbeat.answer h alive pings) with
    | none =>
      rw [putDown, settled] at stepped
      exact .step (.outcome h alive) stepped (.here rfl rfl) deeds rfl silent
    | some outcomes =>
      rw [putDown, settled] at stepped
      exact .step (.outcome h alive) stepped (arrives_settle ⟨watched, closed, _⟩ outcomes _) deeds rfl silent
  case reporting.reported rest =>
    exact .quiet .reported rfl (arrives_settle ⟨watched, closed, _⟩ rest log) rfl

/-- A call to watch is let in and writes its instance down, if the heartbeat was not closed. -/
theorem run_watch (b : Heartbeat) (h : Handle) (log : List Deed) :
    ((between b log).run [.watch h, .enter h]).heartbeat = (b.watch h).2 := by
  obtain ⟨watched, closed, round⟩ := b
  cases closed with
  | true => rfl
  | false =>
    have entered : step { between ⟨watched, false, round⟩ log with entering := [h] } (.enter h)
        = { (between ⟨watched, false, round⟩ log).record (.enter h) (.watched h) with
            entering := [h].erase h } :=
      if_pos (List.mem_singleton_self h)
    exact congrArg heartbeat entered

/-! ### The heartbeat is as its log has it -/

/-- The heartbeat is as its log has it, and everything was right by the log. -/
structure Faithful (b : Heartbeat) (log : List Deed) : Prop where
  watched : ∀ i, b.watched.contains i = Deed.watches i log
  closed : b.closed = false → .shutDown ∉ log ∧ .dropped ∉ log
  failing : ∀ h, b.round.Failing h → .failed h ∈ log
  warranted : Deed.AllWarranted log

namespace Faithful

variable {b : Heartbeat} {log : List Deed} {h : Handle}

theorem start : Faithful {} [] where
  watched _ := rfl
  closed _ := ⟨List.not_mem_nil, List.not_mem_nil⟩
  failing _ := False.elim
  warranted before after e split := by simp at split

/-- A round may go on without any deed, if it has found out nothing that is not in the log. -/
theorem withRound (faithful : Faithful b log) {round : Heartbeat.Round}
    (failing : ∀ h, round.Failing h → .failed h ∈ log) : Faithful { b with round } log :=
  { faithful with failing }

/-- What is done is written down. -/
theorem record (faithful : Faithful b log) {b' : Heartbeat} {e : Deed} (warranted : e.Warranted log)
    (watched : ∀ i, b'.watched.contains i = e.leaves i (b.watched.contains i))
    (closed : b'.closed = false → b.closed = false ∧ e ≠ .shutDown ∧ e ≠ .dropped)
    (round : b'.round = b.round) : Faithful b' (log ++ [e]) where
  watched i := by rw [watched, faithful.watched, Deed.watches_concat]
  closed running := by
    obtain ⟨running, up, held⟩ := closed running
    have before := faithful.closed running
    simp [before.1, before.2, up.symm, held.symm]
  failing h fails := List.mem_append_left _ (faithful.failing h (round ▸ fails))
  warranted := faithful.warranted.concat warranted

theorem enter (faithful : Faithful b log) (h : Handle) : Faithful (b.enter h) (log ++ [.watched h]) := by
  refine faithful.record trivial (fun i => ?_) (fun running => ⟨running, nofun, nofun⟩) rfl
  simp only [Heartbeat.enter, Table.contains, Table.get?_insert, Deed.leaves]
  by_cases here : h.serial = i
  · simp [here]
  · simp [here, Ne.symm here]

/-- An instance is watched no longer, whichever is the reason. -/
theorem unwatch (faithful : Faithful b log) (h : Handle) {e : Deed} (warranted : e.Warranted log)
    (ends : e = .unwatched h ∨ e = .reported h ∨ e = .passedOver h) :
    Faithful (b.unwatch h) (log ++ [e]) := by
  refine faithful.record warranted (fun i => ?_) (fun running => ⟨running, ?_⟩) rfl
  · have leaves : e.leaves i (b.watched.contains i)
        = if h.serial = i then false else b.watched.contains i := by
      rcases ends with rfl | rfl | rfl <;> rfl
    rw [leaves, Heartbeat.unwatch, Table.contains, Table.get?_erase, Table.contains]
    by_cases here : h.serial = i
    · simp [here]
    · simp [here, Ne.symm here]
  · rcases ends with rfl | rfl | rfl <;> simp

theorem shutDown (faithful : Faithful b log) : Faithful b.shutDown (log ++ [.shutDown]) :=
  faithful.record trivial (fun _ => rfl) nofun rfl

theorem drop (faithful : Faithful b log) : Faithful b.drop (log ++ [.dropped]) :=
  faithful.record trivial (fun _ => rfl) nofun rfl

theorem fail (faithful : Faithful b log) (h : Handle) : Faithful b (log ++ [.failed h]) :=
  faithful.record trivial (fun _ => rfl) (fun running => ⟨running, nofun, nofun⟩) rfl

/-- An outcome may be looked at if it is in the log when the ping has failed. -/
theorem lookAt {s : Pulse} (faithful : Faithful s.heartbeat s.log) {alive : Bool}
    (failed : alive = false → .failed h ∈ s.log) :
    Faithful (s.lookAt h alive).heartbeat (s.lookAt h alive).log := by
  unfold Pulse.lookAt
  split
  case isFalse => exact faithful
  case isTrue due =>
    obtain ⟨dead, watching⟩ := due
    split
    case isTrue => exact faithful.unwatch h (failed dead) (.inr (.inr rfl))
    case isFalse running =>
      obtain ⟨up, held⟩ := faithful.closed (Bool.eq_false_iff.mpr running)
      have warranted : (Deed.reported h).Warranted s.log :=
        ⟨faithful.watched _ ▸ watching, up, held, failed dead⟩
      exact faithful.unwatch h warranted (.inr (.inl rfl))

theorem note {s : Pulse} (faithful : Faithful s.heartbeat s.log) (pings : List (Handle × Option Bool))
    (h : Handle) (alive : Bool) : Faithful (s.note pings h alive).heartbeat (s.note pings h alive).log := by
  unfold Pulse.note
  split
  · exact faithful.fail h
  · exact faithful

/-- Once the outcome of a ping has been noted, all that have failed are in the log. -/
theorem failing_note {s : Pulse} {pings : List (Handle × Option Bool)} {alive : Bool}
    (failing : ∀ k, (k, some false) ∈ pings → .failed k ∈ s.log) (k : Handle)
    (fails : (k, some false) ∈ Heartbeat.answer h alive pings) :
    .failed k ∈ (s.note pings h alive).log := by
  rcases Heartbeat.failing_answer fails with already | ⟨rfl, rfl, out⟩
  · unfold Pulse.note
    split
    · exact List.mem_append_left _ (failing k already)
    · exact failing k already
  · rw [Pulse.note, if_pos ⟨rfl, out⟩]
    exact List.mem_append_right _ (List.mem_singleton_self _)

theorem putDown {s : Pulse} (faithful : Faithful s.heartbeat s.log)
    {pings : List (Handle × Option Bool)} (failing : ∀ k, (k, some false) ∈ pings → .failed k ∈ s.log) :
    Faithful (s.putDown pings).heartbeat (s.putDown pings).log := by
  unfold Pulse.putDown
  split
  case h_1 => exact faithful.withRound failing
  case h_2 outcomes settled =>
    refine faithful.withRound fun k fails => failing k ?_
    rw [Heartbeat.outcomes?_eq_some_map settled]
    exact List.mem_map_of_mem fails

/-- Every step keeps this up. -/
theorem step {s : Pulse} (faithful : Faithful s.heartbeat s.log) (event : Event) :
    Faithful (s.step event).heartbeat (s.step event).log := by
  cases event with
  | watch h =>
    simp only [Pulse.step]
    split <;> exact faithful
  | enter h =>
    simp only [Pulse.step]
    split
    · exact faithful.enter h
    · exact faithful
  | unwatch h => exact faithful.unwatch h trivial (.inl rfl)
  | shutDown => exact faithful.shutDown
  | drop => exact faithful.drop
  | tick targets =>
    simp only [Pulse.step]
    split
    · split
      · refine faithful.withRound fun h fails => ?_
        obtain ⟨_, _, same⟩ := List.mem_map.mp fails
        cases same
      · exact faithful
    · exact faithful
  | outcome h alive =>
    simp only [Pulse.step]
    split
    case h_1 pings round =>
      have failing (k : Handle) (fails : (k, some false) ∈ pings) : .failed k ∈ s.log :=
        faithful.failing k (round ▸ fails)
      exact (faithful.note pings h alive).putDown (failing_note failing)
    case h_2 => exact faithful
  | look =>
    simp only [Pulse.step]
    split
    case h_1 => exact faithful.withRound fun _ => False.elim
    case h_2 h alive rest round _ =>
      have failing (k : Handle) (fails : (k, false) ∈ (h, alive) :: rest) : .failed k ∈ s.log :=
        faithful.failing k (round ▸ fails)
      have goesOn : Faithful (s.withRound (.reporting rest)).heartbeat (s.withRound (.reporting rest)).log :=
        faithful.withRound fun k fails => failing k (List.mem_cons_of_mem _ fails)
      refine goesOn.lookAt ?_
      rintro rfl
      exact failing h List.mem_cons_self
    case h_3 => exact faithful
  | reported => exact faithful
  | stop =>
    simp only [Pulse.step]
    split
    · split
      · exact faithful.withRound fun _ => False.elim
      · exact faithful
    · exact faithful

theorem run (events : List Event) {s : Pulse} (faithful : Faithful s.heartbeat s.log) :
    Faithful (s.run events).heartbeat (s.run events).log := by
  induction events generalizing s with
  | nil => exact faithful
  | cons event events ih => exact ih (faithful.step event)

end Faithful

/-! ### Reports -/

/-- **An instance is reported once each time that it is watched, and not after it was let go.** In whatever
order things happen, an instance is written down as watched between any two of its reports, and a report
begins only if the last that was called for about the instance is to watch it, and the heartbeat was neither
shut down nor dropped. Since its last report, an instance is watched only if it was written down again. And an
instance of which no ping has failed is never reported: once it is watched it is so until it is let go or the
heartbeat is shut down. -/
theorem report_once (events : List Event) :
    let s := run {} events
    (∀ (before between after : List Deed) (h k : Handle),
      s.log = before ++ .reported h :: between ++ .reported k :: after → k.serial = h.serial →
        ∃ l, .watched l ∈ between ∧ l.serial = h.serial) ∧
    (∀ (before after : List Deed) (h : Handle), s.log = before ++ .reported h :: after →
      .shutDown ∉ before ∧ .dropped ∉ before ∧
        ∃ (earlier later : List Deed) (l : Handle), before = earlier ++ .watched l :: later ∧
          l.serial = h.serial ∧ ∀ k, .unwatched k ∈ later → k.serial ≠ h.serial) ∧
    (∀ (before after : List Deed) (h : Handle), s.log = before ++ .reported h :: after →
      (∀ k, .watched k ∈ after → k.serial ≠ h.serial) →
        s.heartbeat.watched.contains h.serial = false) ∧
    (∀ (before after : List Deed) (h : Handle), s.log = before ++ .watched h :: after →
      (∀ k, .unwatched k ∈ after → k.serial ≠ h.serial) →
      (∀ k, .failed k ∈ s.log → k.serial ≠ h.serial) →
        (∀ k, .reported k ∈ s.log → k.serial ≠ h.serial) ∧
          (.shutDown ∉ after → s.heartbeat.watched.contains h.serial = true)) := by
  intro s
  have faithful : Faithful s.heartbeat s.log := Faithful.start.run events
  refine ⟨?again, ?due, ?gone, ?alive⟩
  case again =>
    intro before between after h k split same
    obtain ⟨watching, -⟩ := faithful.warranted _ after _ split
    have apart : before ++ .reported h :: between = (before ++ [.reported h]) ++ between := by simp
    rw [same, apart] at watching
    rcases Deed.watches_append watching with watching | watched
    · simp [Deed.watches_concat] at watching
    · exact watched
  case due =>
    intro before after h split
    obtain ⟨watching, up, held, -⟩ := faithful.warranted before after _ split
    exact ⟨up, held, Deed.exists_watched watching⟩
  case gone =>
    intro before after h split silent
    rw [faithful.watched, Bool.eq_false_iff]
    intro watching
    have apart : s.log = (before ++ [.reported h]) ++ after := by simp [split]
    rw [apart] at watching
    rcases Deed.watches_append watching with watching | ⟨k, watched, same⟩
    · simp [Deed.watches_concat] at watching
    · exact silent k watched same
  case alive =>
    intro before after h split kept answered
    -- neither is a report begun nor an instance passed over without a ping that has failed
    have unreported (k : Handle) (reported : .reported k ∈ s.log) : k.serial ≠ h.serial := by
      obtain ⟨earlier, later, split⟩ := List.mem_iff_append.mp reported
      obtain ⟨-, -, -, failed⟩ := faithful.warranted earlier later _ split
      exact answered k (split ▸ List.mem_append_left _ failed)
    have unpassed (k : Handle) (passed : .passedOver k ∈ s.log) : k.serial ≠ h.serial := by
      obtain ⟨earlier, later, split⟩ := List.mem_iff_append.mp passed
      have failed : .failed k ∈ earlier := faithful.warranted earlier later _ split
      exact answered k (split ▸ List.mem_append_left _ failed)
    refine ⟨unreported, fun up => ?_⟩
    have spared (e : Deed) (mem : e ∈ after) : e.Spares h.serial := by
      have logged : e ∈ s.log := split ▸ List.mem_append_right _ (List.mem_cons_of_mem _ mem)
      cases e with
      | unwatched k => exact kept k mem
      | reported k => exact unreported k logged
      | passedOver k => exact unpassed k logged
      | shutDown => exact up mem
      | watched | dropped | failed => exact trivial
    have apart : s.log = (before ++ [.watched h]) ++ after := by simp [split]
    rw [faithful.watched, apart]
    exact Deed.watches_append_of_spares (by simp [Deed.watches_concat]) spared

/-- The instances of a run in which one fails twice. -/
def ann : Handle := ⟨1, "ann"⟩

def bob : Handle := ⟨2, "bob"⟩

/-- A run in which an instance is watched again while its report is being taken, and fails again. The other
instance answers. -/
def relapse : List Event :=
  [.watch ann, .enter ann, .watch bob, .enter bob, .tick [bob, ann], .outcome ann false, .outcome bob true,
    .look, .look, .watch ann, .enter ann, .reported, .look, .tick [bob, ann], .outcome bob true,
    .outcome ann false, .look, .look]

theorem report_once_relapse :
    (run {} relapse).log = [.watched ann, .watched bob, .failed ann, .reported ann, .watched ann,
        .failed ann, .reported ann] ∧
      (∃ l, .watched l ∈ [Deed.watched ann, .failed ann] ∧ l.serial = ann.serial) ∧
      (run {} relapse).heartbeat.watched.contains ann.serial = false ∧
      (run {} relapse).heartbeat.watched.contains bob.serial = true := by
  have log : (run {} relapse).log = [.watched ann, .watched bob, .failed ann, .reported ann, .watched ann,
      .failed ann, .reported ann] := by decide
  have once := report_once relapse
  dsimp only at once
  rw [log] at once
  obtain ⟨again, -, gone, alive⟩ := once
  refine ⟨log, ?_, ?_, ?_⟩
  · exact again [.watched ann, .watched bob, .failed ann] [.watched ann, .failed ann] [] ann ann rfl rfl
  · exact gone [.watched ann, .watched bob, .failed ann, .reported ann, .watched ann, .failed ann] [] ann rfl
      (by simp)
  · have answers (k : Handle) (failed : .failed k ∈ [Deed.watched ann, .watched bob, .failed ann,
        .reported ann, .watched ann, .failed ann, .reported ann]) : k.serial ≠ bob.serial := by
      obtain rfl : k = ann := by simpa using failed
      decide
    exact (alive [.watched ann] [.failed ann, .reported ann, .watched ann, .failed ann, .reported ann] bob rfl
      (by simp) answers).2 (by simp)

end Pulse

end WorkFarm
