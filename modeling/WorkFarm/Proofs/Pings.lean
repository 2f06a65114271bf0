import Mathlib.Data.List.Infix
import WorkFarm.Proofs.Pulse
import WorkFarm.Proofs.Rounds
/-!
# Pings that are out

A ping is out from the beginning of its round until its outcome is looked at. This may take long: all pings of
the round are waited for, and the reports of the round are taken one after another. Meanwhile the instance may
be let go and watched again, as often as anybody likes.

When a failed ping is looked at, all that counts is whether the instance is watched. So an instance that was
let go is not reported, unless it has been watched again: then the ping counts, though it was sent before. The
table of those who are watched does not say since when they are, and a round does not say when it began.

Everything here is told by the log. What was done while a ping was out is what the log has got since its round
began; in that time the instance is neither reported nor passed over, since a round pings nobody twice.

## Main definitions

* `Pulse.Faces` — the next outcome to be looked at is a failed ping
* `Pulse.Writes` — what one step writes down, and what it does to the pings that are out
* `Pulse.Apart` — a round pings nobody twice
* `Pulse.Out` — a ping that was sent when the present round began, and has not been looked at
* `Pulse.FailedPing` — the failed ping that is looked at next, with what was done while it was out

## Main statements

* `Pulse.ping_counts_iff` — which failed pings lead to a report, and that every report comes from one
* `Pulse.ping_counts_returned` — a ping may count that was sent before the instance was let go
-/

namespace WorkFarm

variable {h : Handle}

namespace Pulse

variable {s : Pulse} {event : Event}

/-- The next outcome to be looked at is that the ping of an instance has failed. -/
def Faces (s : Pulse) (h : Handle) : Prop :=
  s.taking = false ∧ ∃ rest, s.heartbeat.round = .reporting ((h, false) :: rest)

/-! ### One step -/

/-- What a step writes down, and what it does to the pings that are out. -/
structure Writes (s : Pulse) (event : Event) (deed : Option Deed) : Prop where
  log : (s.step event).log = s.log ++ deed.toList
  /-- No ping is sent unless a round begins. -/
  pinged : (s.step event).heartbeat.round.pinged.Sublist s.heartbeat.round.pinged ∨
    s.heartbeat.round = .waiting ∧ ∃ targets, event = .tick targets ∧
      (s.step event).heartbeat.round.pinged.Perm s.heartbeat.watched.values
  failing : ∀ h, (s.step event).heartbeat.round.Failing h →
    s.heartbeat.round.Failing h ∨ deed = some (.failed h)
  /-- An instance is reported or passed over when its failed ping is looked at, which is then not out any
  more. -/
  ends : ∀ h, deed = some (.reported h) ∨ deed = some (.passedOver h) →
    event = .look ∧ s.Faces h ∧ s.heartbeat.round.pinged = h :: (s.step event).heartbeat.round.pinged

/-- Once all pings of a round have an outcome, the round is about the same instances. -/
theorem putDown_spec (s : Pulse) (pings : List (Handle × Option Bool)) :
    (s.putDown pings).log = s.log ∧ (s.putDown pings).heartbeat.round.pinged = pings.map Prod.fst ∧
      ∀ h, (s.putDown pings).heartbeat.round.Failing h → (h, some false) ∈ pings := by
  unfold putDown
  split
  case h_1 => exact ⟨rfl, rfl, fun _ fails => fails⟩
  case h_2 outcomes settled =>
    refine ⟨rfl, Heartbeat.outcomes?_eq_some settled, fun h fails => ?_⟩
    rw [Heartbeat.outcomes?_eq_some_map settled]
    exact List.mem_map_of_mem fails

/-- Looking at an outcome leaves the round alone, and nobody but the instance is let go. -/
theorem lookAt_spec (s : Pulse) (h : Handle) (alive : Bool) : ∃ deed : Option Deed,
    (s.lookAt h alive).log = s.log ++ deed.toList ∧ (s.lookAt h alive).heartbeat.round = s.heartbeat.round ∧
      (∀ k, deed = some (.reported k) ∨ deed = some (.passedOver k) → k = h ∧ alive = false) ∧
      ((s.lookAt h alive).heartbeat.watched = s.heartbeat.watched ∨
        (s.lookAt h alive).heartbeat.watched = s.heartbeat.watched.erase h.serial) := by
  unfold lookAt
  split
  case isFalse => exact ⟨none, by simp, rfl, by simp, .inl rfl⟩
  case isTrue due =>
    split
    · exact ⟨some (.passedOver h), rfl, rfl, by simp [due.1, eq_comm], .inr rfl⟩
    · exact ⟨some (.reported h), rfl, rfl, by simp [due.1, eq_comm], .inr rfl⟩

namespace Writes

/-- A step that leaves the round where it stands, and neither reports nor passes over anybody. -/
theorem beside {deed : Option Deed} (log : (s.step event).log = s.log ++ deed.toList)
    (round : (s.step event).heartbeat.round = s.heartbeat.round)
    (spared : ∀ h, deed ≠ some (.reported h) ∧ deed ≠ some (.passedOver h)) : s.Writes event deed where
  log := log
  pinged := .inl (round ▸ .refl _)
  failing _ fails := .inl (round ▸ fails)
  ends h ended := (ended.elim (spared h).1 (spared h).2).elim

/-- A step that does nothing. -/
theorem idle (same : s.step event = s) : s.Writes event none :=
  beside (by simp [same]) (by rw [same]) (by simp)

/-- A round ends, or there are no more rounds. -/
theorem pause {round : Heartbeat.Round} (paused : s.step event = s.withRound round)
    (quiet : round = .waiting ∨ round = .over) : s.Writes event none where
  log := by simp [paused, withRound]
  pinged := by
    rw [paused]
    rcases quiet with rfl | rfl <;> exact .inl (List.nil_sublist _)
  failing h fails := by
    rw [paused] at fails
    rcases quiet with rfl | rfl <;> exact fails.elim
  ends _ ended := by simp at ended

/-- A round begins. -/
theorem tick {targets : List Handle} (waiting : s.heartbeat.round = .waiting)
    (all : targets.Perm s.heartbeat.watched.values)
    (begun : s.step (.tick targets) = s.withRound (.pinging (targets.map fun h => (h, none)))) :
    s.Writes (.tick targets) none where
  log := by simp [begun, withRound]
  pinged := by
    refine .inr ⟨waiting, targets, rfl, ?_⟩
    have pinged : (targets.map fun h => (h, (none : Option Bool))).map Prod.fst = targets := by
      simp [Function.comp_def]
    rw [begun]
    exact (List.Perm.of_eq pinged).trans all
  failing h fails := by
    rw [begun] at fails
    obtain ⟨_, _, same⟩ := List.mem_map.mp fails
    cases same
  ends _ ended := by simp at ended

/-- The outcome of a ping is noted, and the round goes on. -/
theorem outcome {pings : List (Handle × Option Bool)} (pinging : s.heartbeat.round = .pinging pings)
    (h : Handle) (alive : Bool) : ∃ deed, s.Writes (.outcome h alive) deed := by
  have stepped : s.step (.outcome h alive)
      = (s.note pings h alive).putDown (Heartbeat.answer h alive pings) := by
    simp only [step, pinging]
  obtain ⟨log, pinged, failing⟩ := (s.note pings h alive).putDown_spec (Heartbeat.answer h alive pings)
  let deed := if alive = false ∧ (h, none) ∈ pings then some (Deed.failed h) else none
  have noted : (s.note pings h alive).log = s.log ++ deed.toList := by
    unfold note
    split <;> simp_all [record, deed]
  refine ⟨deed, ?_, .inl ?_, fun k fails => ?_, fun k ended => ?_⟩
  · rw [stepped, log, noted]
  · rw [stepped, pinged, Heartbeat.map_fst_answer, pinging]
    exact .refl _
  · rw [stepped] at fails
    rcases Heartbeat.failing_answer (failing k fails) with already | ⟨rfl, dead, out⟩
    · rw [pinging]
      exact .inl already
    · exact .inr (if_pos ⟨dead, out⟩)
  · by_cases fails : alive = false ∧ (h, none) ∈ pings <;> simp [deed, fails] at ended

/-- An outcome is looked at. -/
theorem look {alive : Bool} {rest : List (Handle × Bool)}
    (next : s.heartbeat.round = .reporting ((h, alive) :: rest)) (idle : s.taking = false) :
    ∃ deed, s.Writes .look deed := by
  have stepped : s.step .look = (s.withRound (.reporting rest)).lookAt h alive := by
    simp only [step, next, idle]
  obtain ⟨deed, log, round, dead, -⟩ := (s.withRound (.reporting rest)).lookAt_spec h alive
  have pinged : s.heartbeat.round.pinged = h :: (s.step .look).heartbeat.round.pinged := by
    rw [stepped, round, next]
    rfl
  refine ⟨deed, ?_, .inl ?_, fun k fails => ?_, fun k ended => ?_⟩
  · rw [stepped, log]
    rfl
  · rw [pinged]
    exact List.sublist_cons_self _ _
  · rw [stepped, round] at fails
    rw [next]
    exact .inl (List.mem_cons_of_mem _ fails)
  · obtain ⟨rfl, rfl⟩ := dead k ended
    exact ⟨rfl, ⟨idle, rest, next⟩, pinged⟩

end Writes

/-- Every step writes down one thing or nothing. -/
theorem exists_writes (s : Pulse) (event : Event) : ∃ deed, s.Writes event deed := by
  cases event with
  | watch h =>
    refine ⟨none, .beside ?_ ?_ (by simp)⟩
    all_goals
      simp only [step]
      split <;> simp
  | enter h =>
    by_cases inside : h ∈ s.entering
    · have entered : s.step (.enter h) = { s.record (.enter h) (.watched h) with
          entering := s.entering.erase h } := if_pos inside
      exact ⟨some (.watched h), .beside (by rw [entered]; rfl) (by rw [entered]; rfl) (by simp)⟩
    · exact ⟨none, .idle (if_neg inside)⟩
  | unwatch h => exact ⟨some (.unwatched h), .beside rfl rfl (by simp)⟩
  | shutDown => exact ⟨some .shutDown, .beside rfl rfl (by simp)⟩
  | drop => exact ⟨some .dropped, .beside rfl rfl (by simp)⟩
  | reported => exact ⟨none, .beside (by simp [step]) rfl (by simp)⟩
  | tick targets =>
    cases round : s.heartbeat.round with
    | waiting =>
      by_cases all : targets ≠ [] ∧ targets.Perm s.heartbeat.watched.values
      · exact ⟨none, .tick round all.2 (by simp only [step, round]; exact if_pos all)⟩
      · exact ⟨none, .idle (by simp only [step, round]; exact if_neg all)⟩
    | _ => exact ⟨none, .idle (by simp only [step, round])⟩
  | outcome h alive =>
    cases round : s.heartbeat.round with
    | pinging pings => exact Writes.outcome round h alive
    | _ => exact ⟨none, .idle (by simp only [step, round])⟩
  | look =>
    cases taking : s.taking with
    | true => exact ⟨none, .idle (by simp only [step, taking]; split <;> simp_all)⟩
    | false =>
      cases round : s.heartbeat.round with
      | reporting outcomes =>
        cases outcomes with
        | nil =>
          have paused : s.step .look = s.withRound .waiting := by simp only [step, round, taking]
          exact ⟨none, .pause paused (.inl rfl)⟩
        | cons outcome rest => exact Writes.look round taking
      | _ => exact ⟨none, .idle (by simp only [step, round])⟩
  | stop =>
    by_cases due : s.heartbeat.round = .waiting ∧ s.heartbeat.closed = true
    · have paused : s.step .stop = s.withRound .over := by simp only [step, due.1, due.2, if_true]
      exact ⟨none, .pause paused (.inr rfl)⟩
    · refine ⟨none, .idle ?_⟩
      simp only [step]
      split <;> simp_all

/-! ### A round pings nobody twice -/

/-- A round pings nobody twice, since nobody is watched twice. -/
structure Apart (s : Pulse) : Prop where
  keyed : ∀ i h, s.heartbeat.watched.get? i = some h → h.serial = i
  pinged : (s.heartbeat.round.pinged.map Handle.serial).Nodup

namespace Apart

theorem start : Apart {} := ⟨nofun, List.nodup_nil⟩

theorem nodup_values (apart : s.Apart) : (s.heartbeat.watched.values.map Handle.serial).Nodup := by
  have serials : s.heartbeat.watched.values.map Handle.serial = s.heartbeat.watched.keys := by
    rw [Table.values, Table.keys, List.map_map]
    exact List.map_congr_left fun e mem => apart.keyed e.1 e.2 ((Table.get?_eq_some_iff _).mpr mem)
  rw [serials]
  exact s.heartbeat.watched.nodup

/-- Whoever is watched after a step was watched before, or the step has written it down. -/
theorem get?_watched_step {i : Nat} (found : (s.step event).heartbeat.watched.get? i = some h) :
    s.heartbeat.watched.get? i = some h ∨ h.serial = i := by
  have erased {j : Nat} (found : (s.heartbeat.watched.erase j).get? i = some h) :
      s.heartbeat.watched.get? i = some h := by
    rw [Table.get?_erase] at found
    split at found
    · cases found
    · exact found
  cases event with
  | enter k =>
    simp only [step] at found
    split at found
    · have found : (s.heartbeat.watched.insert k.serial k).get? i = some h := found
      rw [Table.get?_insert] at found
      split at found
      · cases found
        exact .inr (Eq.symm ‹_›)
      · exact .inl found
    · exact .inl found
  | unwatch k => exact .inl (erased found)
  | shutDown => cases found
  | drop | reported => exact .inl found
  | watch | tick | stop =>
    simp only [step] at found
    repeat' split at found
    all_goals exact .inl found
  | outcome k alive =>
    simp only [step, note, putDown] at found
    repeat' split at found
    all_goals exact .inl found
  | look =>
    simp only [step] at found
    split at found
    · exact .inl found
    · rename_i k alive rest _ _
      obtain ⟨-, -, -, -, same | fewer⟩ := (s.withRound (.reporting rest)).lookAt_spec k alive
      · exact .inl (same ▸ found)
      · exact .inl (erased (fewer ▸ found))
    · exact .inl found

theorem step (apart : s.Apart) (event : Event) : (s.step event).Apart where
  keyed i h found := (get?_watched_step found).elim (apart.keyed i h) id
  pinged := by
    obtain ⟨deed, writes⟩ := s.exists_writes event
    rcases writes.pinged with fewer | ⟨-, _, -, all⟩
    · exact apart.pinged.sublist (fewer.map _)
    · exact (all.map _).nodup_iff.mpr apart.nodup_values

theorem run (events : List Event) : (run {} events).Apart := by
  induction events using List.reverseRecOn with
  | nil => exact start
  | append_singleton events event ih =>
    rw [run_append]
    exact ih.step event

end Apart

/-! ### Pings that are out -/

/-- The ping of an instance that was sent when a round began, after some events, is out after some more. -/
inductive Out (h : Handle) (earlier : List Event) : List Event → Prop where
  | sent {targets : List Handle} (waiting : (run {} earlier).heartbeat.round = .waiting)
      (pinged : h ∈ (run {} (earlier ++ [.tick targets])).heartbeat.round.pinged) :
      Out h earlier (earlier ++ [.tick targets])
  | still {course : List Event} {event : Event} (out : Out h earlier course)
      (pinged : h ∈ (run {} (course ++ [event])).heartbeat.round.pinged) :
      Out h earlier (course ++ [event])

theorem run_concat (course : List Event) (event : Event) :
    run {} (course ++ [event]) = (run {} course).step event :=
  run_append ..

/-- Every ping of the present round is out. -/
theorem exists_out {course : List Event} (pinged : h ∈ (run {} course).heartbeat.round.pinged) :
    ∃ earlier, Out h earlier course := by
  induction course using List.reverseRecOn with
  | nil => cases pinged
  | append_singleton course event ih =>
    obtain ⟨deed, writes⟩ := (run {} course).exists_writes event
    rcases writes.pinged with fewer | ⟨waiting, targets, rfl, -⟩
    · have before : h ∈ (run {} course).heartbeat.round.pinged := by
        rw [run_concat] at pinged
        exact fewer.mem pinged
      obtain ⟨earlier, out⟩ := ih before
      exact ⟨earlier, out.still pinged⟩
    · exact ⟨course, .sent waiting pinged⟩

namespace Out

variable {earlier course : List Event}

theorem pinged (out : Out h earlier course) : h ∈ (run {} course).heartbeat.round.pinged := by
  cases out with
  | sent _ pinged | still _ pinged => exact pinged

theorem not_waiting (out : Out h earlier course) : (run {} course).heartbeat.round ≠ .waiting := by
  intro waiting
  have pinged := out.pinged
  rw [waiting] at pinged
  cases pinged

/-- A ping stays out for as long as the round is about the instance. -/
theorem stays (out : Out h earlier course) (events : List Event)
    (pinged : ∀ now ∈ events.inits, h ∈ (run {} (course ++ now)).heartbeat.round.pinged) :
    Out h earlier (course ++ events) := by
  induction events generalizing course with
  | nil => simpa using out
  | cons event events ih =>
    have next : Out h earlier (course ++ [event]) :=
      out.still (pinged [event] ((List.mem_inits ..).mpr ⟨events, rfl⟩))
    rw [List.append_cons]
    refine ih next fun now mem => ?_
    have longer : event :: now ∈ (event :: events).inits :=
      (List.mem_inits ..).mpr (List.cons_prefix_cons.mpr ⟨rfl, (List.mem_inits ..).mp mem⟩)
    rw [List.append_assoc]
    exact pinged (event :: now) longer

/-- An instance has at most one ping out. -/
theorem unique (out : Out h earlier course) {other : List Event} (out' : Out h other course) :
    other = earlier := by
  induction out with
  | @sent targets waiting pinged =>
    generalize same : earlier ++ [.tick targets] = course at out'
    cases out' with
    | sent => exact (List.append_inj' same rfl).1.symm
    | still out' =>
      obtain ⟨rfl, -⟩ := List.append_inj' same rfl
      exact absurd waiting out'.not_waiting
  | @still course event out pinged ih =>
    generalize same : course ++ [event] = course' at out'
    cases out' with
    | sent waiting =>
      obtain ⟨rfl, -⟩ := List.append_inj' same rfl
      exact absurd waiting out.not_waiting
    | still out' =>
      obtain ⟨rfl, -⟩ := List.append_inj' same rfl
      exact ih out'

/-- A ping is sent to an instance that is watched. -/
theorem watches (out : Out h earlier course) : Deed.watches h.serial (run {} earlier).log = true := by
  induction out with
  | still _ _ ih => exact ih
  | @sent targets waiting pinged =>
    obtain ⟨deed, writes⟩ := (run {} earlier).exists_writes (.tick targets)
    rw [run_concat] at pinged
    rcases writes.pinged with fewer | ⟨-, _, -, all⟩
    · have out := fewer.mem pinged
      rw [waiting] at out
      cases out
    · obtain ⟨i, found⟩ := (Table.mem_values_iff _).mp (all.mem_iff.mp pinged)
      have faithful : Faithful (run {} earlier).heartbeat (run {} earlier).log := Faithful.start.run earlier
      rw [← faithful.watched, (Apart.run earlier).keyed i h found]
      exact Option.isSome_of_mem found

/-- While its ping is out, an instance is neither reported nor passed over; and once the ping has failed, this
has been written down. -/
theorem exists_since (out : Out h earlier course) : ∃ since,
    (run {} course).log = (run {} earlier).log ++ since ∧
    ((run {} course).heartbeat.round.Failing h → .failed h ∈ since) ∧
    ∀ k, .reported k ∈ since ∨ .passedOver k ∈ since → k.serial ≠ h.serial := by
  induction out with
  | @sent targets waiting _ =>
    obtain ⟨deed, writes⟩ := (run {} earlier).exists_writes (.tick targets)
    have silent : ((run {} earlier).step (.tick targets)).log = (run {} earlier).log := by
      simp only [step]
      repeat' split
      all_goals rfl
    obtain rfl : deed = none := by simpa [silent] using writes.log
    refine ⟨[], by rw [run_concat, silent, List.append_nil], fun fails => ?_, by simp⟩
    rw [run_concat] at fails
    rcases writes.failing h fails with already | ⟨⟨⟩⟩
    rw [waiting] at already
    exact already.elim
  | @still course event out pinged ih =>
    obtain ⟨since, log, failing, spared⟩ := ih
    obtain ⟨deed, writes⟩ := (run {} course).exists_writes event
    rw [run_concat] at pinged ⊢
    refine ⟨since ++ deed.toList, by rw [writes.log, log, List.append_assoc], fun fails => ?_,
      fun k ended => ?_⟩
    · rcases writes.failing h fails with already | rfl
      · exact List.mem_append_left _ (failing already)
      · simp
    · by_cases before : .reported k ∈ since ∨ .passedOver k ∈ since
      · exact spared k before
      · -- the instance that this step has to do with was pinged, and no other has its serial number
        have now : deed = some (.reported k) ∨ deed = some (.passedOver k) := by
          simp only [List.mem_append, Option.mem_toList] at ended
          tauto
        obtain ⟨-, -, next⟩ := writes.ends k now
        have apart := (Apart.run course).pinged
        rw [next, List.map_cons, List.nodup_cons] at apart
        intro same
        exact apart.1 (same ▸ List.mem_map_of_mem pinged)

end Out

/-! ### Which pings count -/

namespace Faces

theorem failing (faces : s.Faces h) : s.heartbeat.round.Failing h := by
  obtain ⟨-, rest, next⟩ := faces
  rw [next]
  exact List.mem_cons_self

theorem pinged (faces : s.Faces h) : h ∈ s.heartbeat.round.pinged := by
  obtain ⟨-, rest, next⟩ := faces
  rw [next]
  exact List.mem_cons_self

theorem step_look (faces : s.Faces h) :
    ∃ rest, s.step .look = (s.withRound (.reporting rest)).lookAt h false := by
  obtain ⟨idle, rest, next⟩ := faces
  exact ⟨rest, by simp only [step, next, idle]⟩

/-- A failed ping leads to a report if the instance is watched, unless the heartbeat was closed. -/
theorem reports_iff (faces : s.Faces h) : (s.step .look).log = s.log ++ [.reported h] ↔
    s.heartbeat.closed = false ∧ s.heartbeat.watched.contains h.serial = true := by
  obtain ⟨rest, looked⟩ := faces.step_look
  rw [looked]
  by_cases watching : s.heartbeat.watched.contains h.serial = true <;>
    cases closed : s.heartbeat.closed <;> simp [lookAt, withRound, record, watching, closed]

/-- A failed ping comes to nothing if the instance is not watched. -/
theorem disregards (faces : s.Faces h) (absent : s.heartbeat.watched.contains h.serial = false) :
    (s.step .look).log = s.log ∧ (s.step .look).heartbeat.watched = s.heartbeat.watched := by
  obtain ⟨rest, looked⟩ := faces.step_look
  rw [looked]
  simp [lookAt, withRound, absent]

end Faces

/-- A report begins when a failed ping is looked at. -/
theorem exists_look {course : List Event} {before after : List Deed}
    (split : (run {} course).log = before ++ .reported h :: after) :
    ∃ start rest, course = start ++ .look :: rest ∧ (run {} start).log = before ∧ (run {} start).Faces h ∧
      ((run {} start).step .look).log = (run {} start).log ++ [.reported h] := by
  induction course using List.reverseRecOn generalizing after with
  | nil => simp [run] at split
  | append_singleton course event ih =>
    obtain ⟨deed, writes⟩ := (run {} course).exists_writes event
    rw [run_concat, writes.log] at split
    have earlier {after : List Deed} (split : (run {} course).log = before ++ .reported h :: after) :
        ∃ start rest, course ++ [event] = start ++ .look :: rest ∧ (run {} start).log = before ∧
          (run {} start).Faces h ∧
          ((run {} start).step .look).log = (run {} start).log ++ [.reported h] := by
      obtain ⟨start, rest, rfl, looked⟩ := ih split
      exact ⟨start, rest ++ [event], by simp, looked⟩
    cases deed with
    | none => exact earlier (by simpa using split)
    | some e =>
      rcases List.eq_nil_or_concat after with rfl | ⟨after, last, rfl⟩
      · obtain ⟨log, same⟩ := List.append_inj' split rfl
        cases same
        obtain ⟨rfl, faces, -⟩ := writes.ends h (.inl rfl)
        exact ⟨course, [], rfl, log, faces, writes.log⟩
      · rw [List.concat_eq_append, ← List.cons_append, ← List.append_assoc] at split
        exact earlier (List.append_inj' split rfl).1

/-- A failed ping is looked at next. It was sent after some events, and this has been done since. -/
structure FailedPing (h : Handle) (earlier course : List Event) (since : List Deed) : Prop where
  faces : (run {} course).Faces h
  /-- No other ping of the instance is out. -/
  out : ∀ e, Out h e course ↔ e = earlier
  log : (run {} course).log = (run {} earlier).log ++ since
  failed : .failed h ∈ since
  /-- When the ping was sent, the instance had been watched and not let go. -/
  watched : ∃ sooner later l, (run {} earlier).log = sooner ++ .watched l :: later ∧ l.serial = h.serial ∧
    ∀ k, .unwatched k ∈ later → k.serial ≠ h.serial

theorem Faces.exists_failedPing {course : List Event} (faces : (run {} course).Faces h) :
    ∃ earlier since, FailedPing h earlier course since := by
  obtain ⟨earlier, out⟩ := exists_out faces.pinged
  obtain ⟨since, log, failing, -⟩ := out.exists_since
  exact ⟨earlier, since, faces, fun e => ⟨fun out' => out.unique out', fun same => same ▸ out⟩, log,
    failing faces.failing, Deed.exists_watched out.watches⟩

namespace FailedPing

variable {earlier course : List Event} {since : List Deed}

/-- The instance is watched if it was not let go while its ping was out, or has been watched again. -/
theorem watching_iff (ping : FailedPing h earlier course since)
    (running : (run {} course).heartbeat.closed = false) :
    (run {} course).heartbeat.watched.contains h.serial = true ↔
      Deed.watches h.serial since = true ∨ ∀ k, .unwatched k ∈ since → k.serial ≠ h.serial := by
  have faithful : Faithful (run {} course).heartbeat (run {} course).log := Faithful.start.run course
  have out : Out h earlier course := (ping.out earlier).mpr rfl
  have spared (k : Handle) (ended : .reported k ∈ since ∨ .passedOver k ∈ since) :
      k.serial ≠ h.serial := by
    obtain ⟨since', log, -, spared⟩ := out.exists_since
    obtain rfl : since' = since := List.append_cancel_left (log.symm.trans ping.log)
    exact spared k ended
  have up : .shutDown ∉ since := fun mem =>
    (faithful.closed running).1 (ping.log ▸ List.mem_append_right _ mem)
  have kept : (∀ e ∈ since, e.Spares h.serial) ↔ ∀ k, .unwatched k ∈ since → k.serial ≠ h.serial := by
    constructor
    · exact fun all k mem => all _ mem
    · intro kept e mem
      cases e with
      | unwatched k => exact kept k mem
      | reported k => exact spared k (.inl mem)
      | passedOver k => exact spared k (.inr mem)
      | shutDown => exact up mem
      | watched | dropped | failed => exact trivial
  rw [faithful.watched, ping.log, Deed.watches_append_iff, and_iff_right out.watches, kept]

/-- An instance that was let go while its ping was out, and is not watched again, is not watched. -/
theorem absent (ping : FailedPing h earlier course since) (gone : Deed.watches h.serial since = false)
    (letGo : ∃ k, .unwatched k ∈ since ∧ k.serial = h.serial) :
    (run {} course).heartbeat.watched.contains h.serial = false := by
  have faithful : Faithful (run {} course).heartbeat (run {} course).log := Faithful.start.run course
  obtain ⟨k, mem, same⟩ := letGo
  rw [faithful.watched, ping.log, Bool.eq_false_iff]
  intro watching
  rcases Deed.watches_append_iff.mp watching with again | ⟨-, all⟩
  · rw [gone] at again
    cases again
  · exact all _ mem same

theorem reports_iff (ping : FailedPing h earlier course since) :
    ((run {} course).step .look).log = (run {} course).log ++ [.reported h] ↔
      (run {} course).heartbeat.closed = false ∧
        (Deed.watches h.serial since = true ∨ ∀ k, .unwatched k ∈ since → k.serial ≠ h.serial) := by
  rw [ping.faces.reports_iff]
  exact and_congr_right fun running => ping.watching_iff running

end FailedPing

/-- **Which pings count.** In whatever order things happen, every report begins when a failed ping of the
instance is looked at. That ping was sent when the present round began, and at that time the instance had been
watched and not let go. If the instance has not been watched again while the ping was out, it was not let go in
that time either: the ping was sent after the last call to watch it, and nobody has let it go since.

Whenever a failed ping is looked at, there is a report if and only if the heartbeat was not closed, and the
instance either was not let go while the ping was out, or has been watched again since. If it was let go and
is not watched again, the ping comes to nothing. -/
theorem ping_counts_iff (course : List Event) :
    (∀ (before after : List Deed) (h : Handle), (run {} course).log = before ++ .reported h :: after →
      ∃ start rest earlier since, course = start ++ .look :: rest ∧ (run {} start).log = before ∧
        FailedPing h earlier start since ∧
        ((∃ k, .watched k ∈ since ∧ k.serial = h.serial) ∨
          ∀ k, .unwatched k ∈ since → k.serial ≠ h.serial)) ∧
    ∀ h, (run {} course).Faces h → ∃ earlier since, FailedPing h earlier course since ∧
      (((run {} course).step .look).log = (run {} course).log ++ [.reported h] ↔
        (run {} course).heartbeat.closed = false ∧
          (Deed.watches h.serial since = true ∨ ∀ k, .unwatched k ∈ since → k.serial ≠ h.serial)) ∧
      (Deed.watches h.serial since = false → (∃ k, .unwatched k ∈ since ∧ k.serial = h.serial) →
        ((run {} course).step .look).log = (run {} course).log ∧
          ((run {} course).step .look).heartbeat.watched = (run {} course).heartbeat.watched) := by
  refine ⟨fun before after h split => ?cause, fun h faces => ?effect⟩
  case cause =>
    obtain ⟨start, rest, rfl, log, faces, reports⟩ := exists_look split
    obtain ⟨earlier, since, ping⟩ := faces.exists_failedPing
    refine ⟨start, rest, earlier, since, rfl, log, ping, ?_⟩
    rcases (ping.reports_iff.mp reports).2 with again | kept
    · obtain ⟨sooner, later, k, rfl, same, -⟩ := Deed.exists_watched again
      exact .inl ⟨k, by simp, same⟩
    · exact .inr kept
  case effect =>
    obtain ⟨earlier, since, ping⟩ := faces.exists_failedPing
    exact ⟨earlier, since, ping, ping.reports_iff,
      fun gone letGo => faces.disregards (ping.absent gone letGo)⟩

/-- Two instances are pinged, and both pings fail. One of the instances is let go in time. -/
def parting : List Event :=
  [.watch ann, .enter ann, .watch bob, .enter bob, .tick [ann, bob], .unwatch ann, .outcome ann false,
    .outcome bob false]

/-- The failed ping of the instance that was let go comes to nothing, and the other one leads to a report. -/
theorem ping_counts_parting :
    (run {} parting).Faces ann ∧ ((run {} parting).step .look).log = (run {} parting).log ∧
      (run {} (parting ++ [Event.look])).Faces bob ∧
      ((run {} (parting ++ [Event.look])).step .look).log = (run {} parting).log ++ [.reported bob] ∧
      ∃ start rest, parting ++ [Event.look, .look] = start ++ .look :: rest ∧ (run {} start).Faces bob := by
  have first : (run {} parting).Faces ann := ⟨rfl, [(bob, false)], rfl⟩
  have second : (run {} (parting ++ [Event.look])).Faces bob := ⟨rfl, [], rfl⟩
  have out : Out ann (parting.take 4) parting :=
    (Out.sent rfl (by decide)).stays (parting.drop 5) (by decide)
  have out' : Out bob (parting.take 4) (parting ++ [Event.look]) :=
    (Out.sent rfl (by decide)).stays (parting.drop 5 ++ [.look]) (by decide)
  have meanwhile {since : List Deed}
      (log : (run {} parting).log = (run {} (parting.take 4)).log ++ since) :
      since = [.unwatched ann, .failed ann, .failed bob] := by
    have log : [Deed.watched ann, .watched bob] ++ [.unwatched ann, .failed ann, .failed bob]
        = [.watched ann, .watched bob] ++ since := log
    exact (List.append_cancel_left log).symm
  have kept (k : Handle) (gone : .unwatched k ∈ [Deed.unwatched ann, .failed ann, .failed bob]) :
      k.serial ≠ bob.serial := by
    obtain rfl : k = ann := by simpa using gone
    decide
  obtain ⟨earlier, since, ping, -, nothing⟩ := (ping_counts_iff parting).2 ann first
  obtain rfl := (ping.out _).mp out
  obtain rfl := meanwhile ping.log
  obtain ⟨earlier, since, ping', reports, -⟩ := (ping_counts_iff (parting ++ [Event.look])).2 bob second
  obtain rfl := (ping'.out _).mp out'
  obtain rfl := meanwhile ping'.log
  have reported := reports.mpr ⟨rfl, .inr kept⟩
  obtain ⟨start, rest, _, _, split, -, cause, -⟩ :=
    (ping_counts_iff (parting ++ [Event.look, .look])).1 _ [] bob reported
  have silent := (nothing (by decide) ⟨ann, by decide, rfl⟩).1
  exact ⟨first, silent, second, reported, start, rest, split, cause.faces⟩

/-- An instance is let go and watched again while its ping is out. Then the ping fails. -/
def returned : List Event :=
  [.watch ann, .enter ann, .tick [ann], .unwatch ann, .watch ann, .enter ann, .outcome ann false]

/-- **A ping may count that was sent before the instance was let go**, if it has been watched again. No ping that
was sent since then is out. -/
theorem ping_counts_returned :
    FailedPing ann [.watch ann, .enter ann] returned [.unwatched ann, .watched ann, .failed ann] ∧
      ((run {} returned).step .look).log = (run {} returned).log ++ [.reported ann] := by
  have out : Out ann [.watch ann, .enter ann] returned :=
    (Out.sent rfl (by decide)).stays (returned.drop 3) (by decide)
  refine ⟨⟨⟨rfl, [], rfl⟩, fun e => ⟨fun out' => out.unique out', fun same => same ▸ out⟩, rfl, by decide,
    Deed.exists_watched out.watches⟩, by decide⟩

end Pulse

end WorkFarm
