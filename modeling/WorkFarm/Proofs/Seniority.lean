import Mathlib.Data.List.Induction
import WorkFarm.Proofs.Agreement
import WorkFarm.Proofs.Custody
import WorkFarm.Proofs.Workers
/-!
# The oldest submission is handed out first

The backlog puts ids in at both of its ends, and an id that was handed out long ago may stand among those
that never were. It does not remember which is which. The journal does: its roll lists the accepted
submissions in order, each with whether a worker was handed its task. An id may be submitted again once its
result was delivered, so a task that is handed out is one of the last submission of its id.

What carries the order is that the submissions which were never handed out stand in the list of pending ids
in their order, with others in between (`Custody.Senior`). Ids that come or are put back stand behind them,
and the one that is taken from the front is either the first of them or none. A payload that cannot be had
puts its id back where it was, so it disturbs nobody.

## Main definitions

* `Journal.roll` — the accepted submissions, each with whether it was handed out
* `Roll.InTurn` — those that were handed out come first

## Main statements

* `Custody.Senior.change` — every change keeps the order
* `Dispatcher.handed_in_turn` — submissions are handed out in the order in which they were accepted
-/

namespace WorkFarm

universe u

/-- Submissions in order, each with whether it was handed out. -/
abbrev Roll := List (TaskId × Bool)

namespace Roll

/-- Notes that the last submission of an id was handed out. -/
def tick (id : TaskId) : Roll → Roll
  | [] => []
  | s :: rest =>
    if s.1 = id ∧ id ∉ rest.map Prod.fst then (id, true) :: rest else s :: tick id rest

/-- Writes a mark into a roll. -/
def write (roll : Roll) : Mark → Roll
  | .admitted id => roll ++ [(id, false)]
  | .handed id => tick id roll

/-- The submissions that were handed out come before all others. -/
def InTurn (roll : Roll) (served waiting : List TaskId) : Prop :=
  roll = served.map (·, true) ++ waiting.map (·, false)

variable {roll : Roll} {id : TaskId} {served waiting : List TaskId}

@[simp] theorem map_fst_tick (id : TaskId) (roll : Roll) :
    (tick id roll).map Prod.fst = roll.map Prod.fst := by
  induction roll with
  | nil => rfl
  | cons s rest ih =>
    rw [tick]
    split
    · rename_i last
      rw [List.map_cons, List.map_cons, last.1]
    · rw [List.map_cons, List.map_cons, ih]

/-- A submission that was handed out before may be handed out again. -/
theorem tick_eq_self (again : ∀ s ∈ roll, s.1 = id → s.2 = true) : tick id roll = roll := by
  induction roll with
  | nil => rfl
  | cons s rest ih =>
    rw [tick]
    split
    · rename_i last
      have ticked := again s List.mem_cons_self last.1
      rw [← last.1, ← ticked]
    · rw [ih fun s' mem => again s' (List.mem_cons_of_mem s mem)]

/-- The last submission of an id is ticked, wherever it stands. -/
theorem tick_append_cons (before : Roll) {later : Roll} {b : Bool}
    (last : id ∉ later.map Prod.fst) :
    tick id (before ++ (id, b) :: later) = before ++ (id, true) :: later := by
  induction before with
  | nil => exact if_pos ⟨rfl, last⟩
  | cons s before ih =>
    have follows : id ∈ (before ++ (id, b) :: later).map Prod.fst := by simp
    rw [List.cons_append, tick, if_neg fun both => both.2 follows, ih, List.cons_append]

namespace InTurn

theorem submit (inTurn : InTurn roll served waiting) (id : TaskId) :
    InTurn (roll ++ [(id, false)]) served (waiting ++ [id]) := by
  rw [InTurn, inTurn, List.map_append, List.append_assoc]
  rfl

/-- A submission that does not wait was handed out before. -/
theorem hand_of_not_mem (inTurn : InTurn roll served waiting) (before : id ∉ waiting) :
    tick id roll = roll := by
  refine tick_eq_self ?_
  rintro s mem rfl
  rw [inTurn, List.mem_append, List.mem_map, List.mem_map] at mem
  rcases mem with ⟨j, -, rfl⟩ | ⟨j, waits, rfl⟩
  · rfl
  · exact absurd waits before

/-- The first submission that waits is the next one that is handed out. -/
theorem hand_first (inTurn : InTurn roll served (id :: waiting)) (once : id ∉ waiting) :
    InTurn (tick id roll) (served ++ [id]) waiting := by
  rw [InTurn, inTurn, List.map_cons, tick_append_cons _ (by simpa using once), List.map_append,
    List.append_assoc]
  rfl

/-- Those that were handed out are the first so many. -/
theorem eq_take_append_drop (inTurn : InTurn roll served waiting) :
    roll = ((roll.map Prod.fst).take served.length).map (·, true) ++
      ((roll.map Prod.fst).drop served.length).map (·, false) := by
  have ids : roll.map Prod.fst = served ++ waiting := by
    rw [inTurn, List.map_append, List.map_map, List.map_map]
    exact congrArg₂ _ (List.map_id served) (List.map_id waiting)
  rw [ids, List.take_left, List.drop_left]
  exact inTurn

end InTurn

end Roll

/-- The roll that is written by marks. -/
def Mark.roll (marks : List Mark) : Roll := marks.foldl Roll.write []

theorem Mark.roll_concat (marks : List Mark) (m : Mark) :
    roll (marks ++ [m]) = (roll marks).write m := by
  rw [roll, List.foldl_append]
  rfl

/-- The roll has the submissions that were accepted, and no others. -/
theorem Mark.map_fst_roll (marks : List Mark) :
    (roll marks).map Prod.fst = marks.filterMap Mark.admission? := by
  induction marks using List.reverseRecOn with
  | nil => rfl
  | append_singleton marks m ih =>
    rw [roll_concat, List.filterMap_append, ← ih]
    cases m with
    | admitted id => exact List.map_append
    | handed id => exact (Roll.map_fst_tick id _).trans (List.append_nil _).symm

/-- The accepted submissions in order, each with whether a worker was handed its task before the id was
submitted again. -/
def Journal.roll (j : Journal) : Roll := Mark.roll j.marks

namespace Custody

variable {σ : Type u} {c : Collaborators σ} {enters : TaskId → Prop} {v v' : Custody σ}

/-- At every moment those submissions come first that were handed out, and the others are pending in their
order. -/
structure Senior (v : Custody σ) : Prop where
  sound : v.backlog.Sound
  /-- So it was at every moment. -/
  moments : ∀ marks, marks <+: v.marks → ∃ served waiting, (Mark.roll marks).InTurn served waiting
  /-- Those that were never handed out are pending, in their order. -/
  queue : ∃ served waiting, (Mark.roll v.marks).InTurn served waiting ∧
    waiting.Sublist v.backlog.pending

namespace Senior

/-- The pending ids may change behind those that wait. -/
theorem of_pending (senior : v.Senior) {backlog : Backlog} (sound : backlog.Sound)
    (pending : v.backlog.pending <+: backlog.pending) (world : σ) :
    Senior { v with backlog, world } where
  sound := sound
  moments := senior.moments
  queue := by
    obtain ⟨served, waiting, inTurn, sub⟩ := senior.queue
    exact ⟨served, waiting, inTurn, sub.trans pending.sublist⟩

/-- One more mark is written. -/
theorem mark (senior : v.Senior) {backlog : Backlog} (sound : backlog.Sound) (m : Mark)
    {served waiting : List TaskId} (inTurn : ((Mark.roll v.marks).write m).InTurn served waiting)
    (sub : waiting.Sublist backlog.pending) (world : σ) :
    Senior { v with backlog, world, marks := v.marks ++ [m] } where
  sound := sound
  moments := by
    intro marks before
    rcases List.prefix_concat_iff.mp before with rfl | earlier
    · exact ⟨served, waiting, Mark.roll_concat v.marks m ▸ inTurn⟩
    · exact senior.moments marks earlier
  queue := ⟨served, waiting, Mark.roll_concat v.marks m ▸ inTurn, sub⟩

/-- The oldest pending id is the first that waits, or none of them. -/
theorem hand (senior : v.Senior) {id : TaskId} {backlog : Backlog}
    (launched : v.backlog.launchNext? = some (id, backlog)) (world : σ) :
    Senior { v with backlog, world, marks := v.marks ++ [.handed id] } := by
  have sound := senior.sound.launchNext? launched
  have front := Backlog.launchNext?_eq_some launched
  have nodup := senior.sound.nodup
  rw [front, List.nodup_cons] at nodup
  obtain ⟨served, waiting, inTurn, sub⟩ := senior.queue
  rw [front] at sub
  rcases List.sublist_cons_iff.mp sub with later | ⟨rest, rfl, later⟩
  · have before : id ∉ waiting := fun waits => nodup.1 (later.subset waits)
    have same : (Roll.tick id (Mark.roll v.marks)).InTurn served waiting :=
      (inTurn.hand_of_not_mem before).symm ▸ inTurn
    exact senior.mark sound (.handed id) same later world
  · have once : id ∉ rest := fun waits => nodup.1 (later.subset waits)
    exact senior.mark sound (.handed id) (inTurn.hand_first once) later world

/-- **Every change keeps the order**, unless it stops the dispatcher. -/
theorem change (faithful : c.Faithful) (change : Change c enters v v') (running : v'.closed = false)
    (senior : v.Senior) : v'.Senior := by
  have sound := sound_change change senior.sound
  cases change with
  | errand => exact senior.of_pending sound List.prefix_rfl _
  | submit enqueued =>
    rename_i id backlog _
    obtain ⟨served, waiting, inTurn, sub⟩ := senior.queue
    obtain ⟨-, pending⟩ := Backlog.enqueue?_eq_some enqueued
    refine senior.mark sound (.admitted id) (inTurn.submit id) ?_ v.world
    exact pending ▸ sub.append (List.Sublist.refl [id])
  | hand launched fetched =>
    rw [faithful _ _ _ fetched]
    exact senior.hand launched _
  | miss launched _ back =>
    have pending := (Backlog.restoreFront?_eq_some back).2
    rw [← Backlog.launchNext?_eq_some launched] at pending
    exact senior.of_pending sound (pending ▸ List.prefix_rfl) _
  | requeue requeued =>
    have pending := (Backlog.requeue?_eq_some requeued).2
    exact senior.of_pending sound (pending ▸ List.prefix_append ..) v.world
  | complete completed =>
    have pending := (Backlog.complete?_eq_some completed).2
    exact senior.of_pending sound (pending ▸ List.prefix_rfl) _
  | forget rs =>
    have pending := Backlog.pending_forgetAll v.backlog rs
    exact senior.of_pending sound (pending ▸ List.prefix_rfl) v.world
  | close => cases running

end Senior

end Custody

namespace Dispatcher

variable {σ : Type u} (c : Collaborators σ)

theorem senior_start (order : DeliveryOrder) (world : σ) : (start order world).custody.Senior where
  sound := .empty
  moments marks before := by
    rw [List.prefix_nil.mp before]
    exact ⟨[], [], rfl⟩
  queue := ⟨[], [], rfl, List.Sublist.refl []⟩

theorem senior_move (faithful : c.Faithful) {d : Dispatcher σ} (senior : d.custody.Senior)
    (m : Move σ) (running : (d.move c m).closed = false) : (d.move c m).custody.Senior := by
  cases m with
  | call present call =>
    have changes : Custody.Changes c (fun _ => True) d.custody _ :=
      custody_serveOrRefuse c present d call fun _ _ _ _ => trivial
    exact changes.preserve (Custody.Senior.change faithful) running senior
  | look present =>
    have changes : Custody.Changes c (fun _ => True) d.custody _ :=
      (does_serveParked c d present).custody fun _ => Act.Waits.beside
    exact changes.preserve (Custody.Senior.change faithful) running senior
  | outside change => exact senior.of_pending senior.sound List.prefix_rfl _

theorem senior_moves (faithful : c.Faithful) {d : Dispatcher σ} (senior : d.custody.Senior)
    (ms : List (Move σ)) (running : (d.moves c ms).closed = false) :
    (d.moves c ms).custody.Senior := by
  induction ms generalizing d with
  | nil => exact senior
  | cons m ms ih =>
    have before : (d.move c m).closed = false := (changes_any c (d.move c m) ms).running running
    exact ih (senior_move c faithful senior m before) running

/-- A payload that cannot be had leaves the pending ids and all stages as they were. -/
theorem dispatch_of_fetch_eq_error {d : Dispatcher σ} {h : Handle} {id : TaskId} {launched : Backlog}
    {e : StoreError} (sound : (d.register c h).backlog.Sound)
    (launch : (d.register c h).backlog.launchNext? = some (id, launched))
    (failed : (c.fetch id (d.register c h).world).1 = .error e) :
    (d.dispatch c h).1 = .noTask ∧
      (d.dispatch c h).2.backlog.pending = (d.register c h).backlog.pending ∧
      ∀ j, (d.dispatch c h).2.backlog.stage? j = (d.register c h).backlog.stage? j := by
  have hand := hand_dispatch c d h
  generalize d.register c h = d, (d.dispatch c h).1 = a, (d.dispatch c h).2 = d'
    at hand sound launch failed ⊢
  cases hand with
  | idle none => cases none.symm.trans launch
  | task other fetched =>
    cases other.symm.trans launch
    cases fetched.symm.trans failed
  | miss other _ back =>
    cases other.symm.trans launch
    obtain ⟨backlog, same, pending, stages⟩ := Backlog.undo_launchNext? launch
    cases back.symm.trans same
    exact ⟨rfl, pending, stages sound⟩

theorem sound_register {d : Dispatcher σ} (sound : d.backlog.Sound) (h : Handle) :
    (d.register c h).backlog.Sound := by
  have changes : Custody.Changes c (fun _ => True) d.custody _ :=
    (does_register c d h).custody fun _ => Act.Staffs.beside
  exact Custody.sound_changes changes sound

/-- **The oldest submission is handed out first.** At every moment of a run of a dispatcher that has not
stopped, the accepted submissions that were handed out at least once are the first so many of all accepted
submissions. A worker whose task cannot be fetched, whether it asks or has handed in a result before, is
given nothing, and the pending ids and all stages are as they were when it had been registered. -/
theorem handed_in_turn (faithful : c.Faithful) (order : DeliveryOrder) (world : σ)
    (ms : List (Move σ)) (running : ((start order world).moves c ms).closed = false) :
    let d := (start order world).moves c ms
    (∀ j, j <+: d.journal →
      ∃ n, Journal.roll j = ((Journal.admitted j).take n).map (·, true) ++
        ((Journal.admitted j).drop n).map (·, false)) ∧
      ∀ d₁, (d₁ = d ∨ ∃ r h, d₁ = d.acceptResult c r h) → ∀ h id launched e,
        (d₁.register c h).backlog.launchNext? = some (id, launched) →
        (c.fetch id (d₁.register c h).world).1 = .error e →
        (d₁.dispatch c h).1 = .noTask ∧
          (d₁.dispatch c h).2.backlog.pending = (d₁.register c h).backlog.pending ∧
          ∀ j, (d₁.dispatch c h).2.backlog.stage? j = (d₁.register c h).backlog.stage? j := by
  intro d
  have senior : d.custody.Senior := senior_moves c faithful (senior_start order world) ms running
  constructor
  · intro j before
    obtain ⟨served, waiting, inTurn⟩ := senior.moments (Journal.marks j) (before.filterMap Entry.mark?)
    have split := inTurn.eq_take_append_drop
    rw [Mark.map_fst_roll, ← Journal.admitted_eq_marks] at split
    exact ⟨served.length, split⟩
  · intro d₁ reached h id launched e launch failed
    have sound : d₁.backlog.Sound := by
      rcases reached with rfl | ⟨r, h', rfl⟩
      · exact senior.sound
      · have changes : Custody.Changes c (fun _ => True) d.custody _ := custody_acceptResult c d r h'
        exact Custody.sound_changes changes senior.sound
    exact dispatch_of_fetch_eq_error c (sound_register c sound h) launch failed

/-- The payload of the second submission is missing for a while, in which the first task comes back from a
worker that died. The worker that gets the second task is replaced by another instance, so this task comes
back as well, and the third one is handed out, delivered, and submitted again. -/
def shuffled : List (Move Vault) :=
  [.outside fun v => (v.storeAll [.null, .null]).2,
    .call {} ⟨0, .submit [⟨1⟩, ⟨9⟩, ⟨2⟩, ⟨1⟩]⟩,
    .call {} ⟨1, .requestTask ⟨0, "ann"⟩⟩,
    .call {} ⟨2, .requestTask ⟨1, "bob"⟩⟩,
    .call {} ⟨3, .reportDead "ann"⟩,
    .outside fun v => v.insert ⟨9⟩ .null,
    .call {} ⟨4, .requestTask ⟨1, "bob"⟩⟩,
    .call {} ⟨5, .requestTask ⟨2, "bob"⟩⟩,
    .call {} ⟨6, .handIn ⟨⟨2⟩, .ok .null, "bob"⟩ ⟨2, "bob"⟩⟩,
    .call {} ⟨7, .wait .one⟩,
    .call {} ⟨8, .submit [⟨2⟩]⟩]

/-- The first three submissions were handed out, and the last one was not. After the second call, the
missing payload leaves the second id in front. -/
theorem handed_in_turn_shuffled :
    let d := (start .completion {}).moves .ofVault shuffled
    let early := (start .completion {}).moves .ofVault (shuffled.take 3)
    d.closed = false ∧ Journal.handed d.journal = [⟨1⟩, ⟨9⟩, ⟨2⟩, ⟨1⟩] ∧
      Journal.roll d.journal = [(⟨1⟩, true), (⟨9⟩, true), (⟨2⟩, true), (⟨2⟩, false)] ∧
      (∀ j, j <+: d.journal →
        ∃ n, Journal.roll j = ((Journal.admitted j).take n).map (·, true) ++
          ((Journal.admitted j).drop n).map (·, false)) ∧
      (early.dispatch .ofVault ⟨1, "bob"⟩).2.backlog.pending
        = (early.register .ofVault ⟨1, "bob"⟩).backlog.pending ∧
      (early.register .ofVault ⟨1, "bob"⟩).backlog.pending = [⟨9⟩, ⟨2⟩] := by
  have running : ((start .completion {}).moves .ofVault shuffled).closed = false := by decide
  have early : ((start .completion {}).moves .ofVault (shuffled.take 3)).closed = false := by decide
  have whole := handed_in_turn .ofVault Collaborators.faithful_ofVault .completion {} shuffled running
  have start := handed_in_turn .ofVault Collaborators.faithful_ofVault .completion {}
    (shuffled.take 3) early
  have missed := start.2 _ (.inl rfl) ⟨1, "bob"⟩ ⟨9⟩ _ (.notFound ⟨9⟩) rfl rfl
  exact ⟨running, by decide, by decide, whole.1, missed.2.1, by decide⟩

end Dispatcher

end WorkFarm
