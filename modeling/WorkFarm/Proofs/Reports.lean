import WorkFarm.Proofs.Carried
import WorkFarm.Proofs.Rounds
import WorkFarm.Proofs.Vigil
import WorkFarm.Proofs.Watches
/-!
# Whom a death report hits

The heartbeat tells instances from each other, and it reports one only if it still watches it. But the report
goes by name, and it stands in the inbox behind the calls that were there before. If one of these is the
first call of a new instance with that name, the old one is replaced before the report is served, and the
report hits the new one, which has not failed. It is taken out and given back as if it had.

This is the only way in which it can go wrong (`report_hits`). Whoever is watched is on the roster, so an
instance has its name for itself when it is reported. From then on the name can only go to an instance that
calls; and a call that arrives later is served later, for a report is as urgent as the call of a worker.

## Main definitions

* `Journal.Watching`, `Heartbeat.Minds` — whoever the heartbeat watches is to be watched, says the journal
* `Vigil.Watchful` — whoever is watched is on the roster
* `Vigil.Attributed` — whoever has the name that a report goes by has failed, or was waiting

## Main statements

* `report_hits` — what a report does to each instance on the roster
* `report_hits_successor` — it may hit an instance that has not failed
-/

namespace WorkFarm

universe u

/-! ### Who is to be watched -/

/-- The last that was done about whether an instance is watched is to watch it. -/
def Journal.Watching (h : Handle) (j : Journal) : Prop :=
  ((Journal.about h j).filter (· ≠ .released)).getLast? = some .watched

namespace Journal.Watching

variable {h k : Handle} {j : Journal}

theorem concat_iff (h : Handle) (j : Journal) (e : Entry) :
    Watching h (j ++ [e]) ↔
      (((e.about h).filter (· ≠ .released)).getLast?.or
        ((Journal.about h j).filter (· ≠ .released)).getLast?) = some .watched := by
  rw [Watching, Journal.about_append, List.filter_append, List.getLast?_append]
  simp [Journal.about]

/-- An entry that says nothing of an instance, or only that it is given back, changes nothing. -/
theorem concat (watching : Watching h j) {e : Entry}
    (aside : (e.about h).filter (· ≠ .released) = []) : Watching h (j ++ [e]) := by
  rw [concat_iff, aside]
  exact watching

/-- Whoever is to be watched is so whether or not this goes well. -/
theorem watch (watching : k ≠ h → Watching h j) (ok : Bool) :
    Watching h (j ++ [.errand (.watch k) ok]) := by
  by_cases here : k = h
  · rw [concat_iff]
    simp [Entry.about, Errand.about, here]
  · exact (watching here).concat (by simp [Entry.about, Errand.about, here])

end Journal.Watching

namespace Heartbeat

/-- Whoever the heartbeat watches is to be watched. -/
def Minds (b : Heartbeat) (j : Journal) : Prop :=
  ∀ i h, b.watched.get? i = some h → h.serial = i ∧ Journal.Watching h j

namespace Minds

variable {b : Heartbeat} {j : Journal}

theorem concat (minds : b.Minds j) {e : Entry}
    (aside : ∀ h, (e.about h).filter (· ≠ .released) = []) : b.Minds (j ++ [e]) :=
  fun i h found => ⟨(minds i h found).1, (minds i h found).2.concat (aside h)⟩

theorem watch (minds : b.Minds j) (k : Handle) (ok : Bool) :
    (b.watch k).2.Minds (j ++ [.errand (.watch k) ok]) := by
  intro i h found
  unfold Heartbeat.watch at found
  split at found
  · exact ⟨(minds i h found).1, .watch (fun _ => (minds i h found).2) ok⟩
  · rw [Table.get?_insert] at found
    split at found
    · rename_i here
      cases found
      exact ⟨here.symm, .watch (fun other => absurd rfl other) ok⟩
    · exact ⟨(minds i h found).1, .watch (fun _ => (minds i h found).2) ok⟩

theorem unwatch (minds : b.Minds j) (k : Handle) (ok : Bool) :
    (b.unwatch k).Minds (j ++ [.errand (.unwatch k) ok]) := by
  intro i h found
  rw [Heartbeat.unwatch, Table.get?_erase] at found
  split at found
  · cases found
  · rename_i other
    obtain ⟨serial, watching⟩ := minds i h found
    have apart : k ≠ h := by
      rintro rfl
      exact other serial.symm
    exact ⟨serial, watching.concat (by simp [Entry.about, Errand.about, apart])⟩

variable {τ : Type u} (rest : Collaborators τ)

/-- Every entry keeps this up, and no entry touches the round. -/
theorem carriedOut {w : Heartbeat × τ} (minds : w.1.Minds j) (e : Entry) :
    (e.carriedOut (.besideHeartbeat rest) w).1.Minds (j ++ [e]) ∧
      (e.carriedOut (.besideHeartbeat rest) w).1.round = w.1.round := by
  cases e with
  | answered | dropped | admitted | accepted => exact ⟨minds.concat fun _ => rfl, rfl⟩
  | errand e ok =>
    cases e with
    | watch k =>
      refine ⟨minds.watch k ok, ?_⟩
      show (w.1.watch k).2.round = w.1.round
      unfold Heartbeat.watch
      split <;> rfl
    | unwatch k => exact ⟨minds.unwatch k ok, rfl⟩
    | stopWatching => exact ⟨nofun, rfl⟩
    | release ks => exact ⟨minds.concat fun h => by simp [Entry.about, Errand.about], rfl⟩
    | fetch | stage | evict | addResources | stopProvisioning | wake =>
      exact ⟨minds.concat fun _ => rfl, rfl⟩

/-- So does every call. -/
theorem carries {d d' : Dispatcher (Heartbeat × τ)} (minds : d.world.1.Minds d.journal)
    (carries : d.Carries (.besideHeartbeat rest) d') :
    d'.world.1.Minds d'.journal ∧ d'.world.1.round = d.world.1.round := by
  obtain ⟨es, journal, world⟩ := carries
  rw [journal, world]
  clear journal world
  generalize d.world = w, d.journal = j at minds
  induction es generalizing w j with
  | nil => simpa using minds
  | cons e es ih =>
    obtain ⟨minds, round⟩ := minds.carriedOut rest e
    obtain ⟨minds, round'⟩ := ih _ _ minds
    rw [List.append_assoc] at minds
    exact ⟨minds, round'.trans round⟩

end Minds

end Heartbeat

/-! ### Whoever is watched is on the roster -/

namespace Dispatcher

variable {σ : Type u} (c : Collaborators σ)

/-- A run of moves has led to a dispatcher. -/
def Reached (d : Dispatcher σ) : Prop := ∃ order world ms, d = (start order world).moves c ms

namespace Reached

variable {c} {d : Dispatcher σ}

theorem start (order : DeliveryOrder) (world : σ) : (Dispatcher.start order world).Reached c :=
  ⟨order, world, [], rfl⟩

theorem move (reached : d.Reached c) (m : Move σ) : (d.move c m).Reached c := by
  obtain ⟨order, world, ms, rfl⟩ := reached
  exact ⟨order, world, ms ++ [m], (moves_append c _ ms [m]).symm⟩

theorem named (reached : d.Reached c) : d.Named := by
  obtain ⟨order, world, ms, rfl⟩ := reached
  exact (about_moves c (bedded_start order world) (h := default) List.not_mem_nil ms).1.named

theorem watching_iff (reached : d.Reached c) (h : Handle) :
    Journal.Watching h d.journal ↔ d.Enrolled h := by
  obtain ⟨order, world, ms, rfl⟩ := reached
  have about := (about_moves c (bedded_start order world) (h := h) List.not_mem_nil ms).2
  rw [Journal.Watching, about]
  exact (watching_turns _ _).2.2

theorem running_of_enrolled (reached : d.Reached c) {h : Handle} (on : d.Enrolled h) :
    d.closed = false := by
  obtain ⟨order, world, ms, rfl⟩ := reached
  by_contra stopped
  rw [Enrolled, byName_of_closed c order world ms (eq_true_of_ne_false stopped)] at on
  cases on

/-- Whoever comes onto the roster has called. -/
theorem enrolled_move (reached : d.Reached c) (m : Move σ) {h : Handle} (on : (d.move c m).Enrolled h) :
    d.Enrolled h ∨ m.worker? = some h := by
  cases reached.named.shift_move c m h with
  | stays same => exact .inl (same.mp on)
  | comes called => exact .inr called
  | leaves _ already => exact .inl already

end Reached

end Dispatcher

namespace Vigil

variable {τ : Type u} (rest : Collaborators τ) (name : Nat → String)

/-- Whoever is watched is on the roster, and everybody there and in the round has the name that it was made
with. -/
structure Watchful (s : Vigil τ) : Prop where
  reached : s.dispatcher.Reached (.besideHeartbeat rest)
  minds : s.heartbeat.Minds s.dispatcher.journal
  enrolled : ∀ h, s.dispatcher.Enrolled h → h.name = name h.serial
  pinged : ∀ h ∈ s.heartbeat.round.pinged, h.name = name h.serial

namespace Watchful

variable {rest name} {s s' : Vigil τ}

/-- What is waiting makes no difference. -/
theorem of_dispatcher (watchful : Watchful rest name s) (same : s'.dispatcher = s.dispatcher) :
    Watchful rest name s' := by
  obtain ⟨reached, minds, enrolled, pinged⟩ := watchful
  rw [heartbeat] at minds pinged
  rw [← same] at reached minds enrolled pinged
  exact ⟨reached, minds, enrolled, pinged⟩

theorem enrolled_of_watched (watchful : Watchful rest name s) {i : Nat} {h : Handle}
    (watched : s.heartbeat.watched.get? i = some h) : h.serial = i ∧ s.dispatcher.Enrolled h := by
  obtain ⟨serial, watching⟩ := watchful.minds i h watched
  exact ⟨serial, (watchful.reached.watching_iff h).mp watching⟩

/-- Whoever a round is or may be about has the name that it was made with. -/
theorem name_of_mem (watchful : Watchful rest name s) {h : Handle}
    (mem : h ∈ s.heartbeat.round.pinged ++ s.heartbeat.watched.values) : h.name = name h.serial := by
  rcases List.mem_append.mp mem with pinged | watched
  · exact watchful.pinged h pinged
  · obtain ⟨i, found⟩ := (Table.mem_values_iff _).mp watched
    exact watchful.enrolled h (watchful.enrolled_of_watched found).2

/-- Whoever the heartbeat reports is on the roster. -/
theorem enrolled_of_reported (watchful : Watchful rest name s) {signal : Heartbeat.Signal} {h : Handle}
    (reports : .report h ∈ (s.heartbeat.step signal).2) : s.dispatcher.Enrolled h := by
  -- the heartbeat has looked up a serial number, and an instance with that number is watched
  obtain ⟨mem, watched⟩ := (s.heartbeat.proceeds_step signal).reported h reports
  obtain ⟨k, found⟩ := Option.isSome_iff_exists.mp watched
  obtain ⟨serial, on⟩ := watchful.enrolled_of_watched found
  have name : h.name = k.name := by
    rw [watchful.name_of_mem mem, watchful.enrolled k on, serial]
  have same : h = k := by
    cases h
    cases k
    cases serial
    cases name
    rfl
  rwa [same]

/-- A signal to the heartbeat keeps this up. -/
theorem beat (watchful : Watchful rest name s) (signal : Heartbeat.Signal) :
    Watchful rest name { s with dispatcher := { s.dispatcher with
      world := ((s.heartbeat.step signal).1, s.dispatcher.world.2) } } := by
  have proceeds := s.heartbeat.proceeds_step signal
  refine ⟨watchful.reached.move (.outside fun w => ((s.heartbeat.step signal).1, w.2)), ?_,
    watchful.enrolled, fun h pinged => watchful.name_of_mem (proceeds.pinged pinged)⟩
  intro i h found
  exact watchful.minds i h (proceeds.watched i h found)

/-- A call, or a look, keeps this up. -/
theorem carries (watchful : Watchful rest name s) (m : Dispatcher.Move (Heartbeat × τ))
    (own : ∀ h, m.worker? = some h → h.name = name h.serial)
    (carries : s.dispatcher.Carries (.besideHeartbeat rest) (s.dispatcher.move (.besideHeartbeat rest) m))
    (moved : s'.dispatcher = s.dispatcher.move (.besideHeartbeat rest) m) : Watchful rest name s' := by
  obtain ⟨minds, round⟩ := watchful.minds.carries rest carries
  refine ⟨moved ▸ watchful.reached.move m, ?_, fun h on => ?_, ?_⟩
  · rw [heartbeat, moved]
    exact minds
  · rw [moved] at on
    rcases watchful.reached.enrolled_move m on with already | called
    · exact watchful.enrolled h already
    · exact own h called
  · rw [heartbeat, moved, round]
    exact watchful.pinged

end Watchful

/-! ### Whoever has the name -/

/-- Whoever calls ahead of a report was waiting when the report was sent. -/
def Post.Precedes (q p : Post) : Prop := ∀ r ∈ p.report, ∀ h ∈ q.call.worker?, h ∈ r.waiting

/-- Whoever has the name that a report goes by has failed, or was waiting when the report was sent. -/
structure Attributed (s : Vigil τ) : Prop where
  own : ∀ p ∈ s.queue, p.call.Own name
  goesBy : ∀ p ∈ s.queue, ∀ r ∈ p.report, p.call.request = .reportDead r.failed.name
  ahead : s.queue.Pairwise Post.Precedes
  timely : ∀ p ∈ s.queue, ∀ r ∈ p.report, ∀ h, s.dispatcher.Enrolled h → h.name = r.failed.name →
    h = r.failed ∨ h ∈ r.waiting

namespace Attributed

variable {name} {s s' : Vigil τ}

/-- Reports are as urgent as the calls of workers, so nobody gets ahead of one. -/
theorem ahead_inTurn {posts : List Post} (ahead : posts.Pairwise Post.Precedes)
    (goesBy : ∀ p ∈ posts, ∀ r ∈ p.report, p.call.request = .reportDead r.failed.name) :
    (inTurn posts).Pairwise Post.Precedes := by
  have later (priority : Priority) (less : priority ≠ .worker) (q p : Post)
      (mem : p ∈ posts.filter (·.call.priority = priority)) : q.Precedes p := by
    intro r report
    obtain ⟨mem, same⟩ := List.mem_filter.mp mem
    have urgent : p.call.priority = .worker := by
      rw [Call.priority, goesBy p mem r report]
      rfl
    exact absurd ((of_decide_eq_true same).symm.trans urgent) less
  rw [inTurn, List.pairwise_append, List.pairwise_append]
  exact ⟨⟨ahead.filter _, ahead.filter _, fun q _ p mem => later .client (by decide) q p mem⟩,
    ahead.filter _, fun q _ p mem => later .wait (by decide) q p mem⟩

/-- A call arrives. If it is a report, the instance that has failed is on the roster when it is sent, so
nobody else has its name. -/
theorem post (attributed : Attributed name s) (named : s.dispatcher.Named) {request : Request}
    (own : Call.Own name ⟨s.nextCaller, request⟩) (report : Option Report)
    (sent : ∀ r ∈ report, request = .reportDead r.failed.name ∧ s.dispatcher.Enrolled r.failed ∧
      r.waiting = s.waiting) : Attributed name (s.post request report) := by
  have mem_queue {p : Post} (mem : p ∈ (s.post request report).queue) :
      p ∈ s.queue ∨ p = ⟨⟨s.nextCaller, request⟩, report⟩ := by
    rw [queue_post] at mem
    simpa using mem
  refine ⟨fun p mem => ?_, fun p mem r about => ?_, ?_, fun p mem r about h on same => ?_⟩
  · rcases mem_queue mem with already | rfl
    · exact attributed.own p already
    · exact own
  · rcases mem_queue mem with already | rfl
    · exact attributed.goesBy p already r about
    · exact (sent r about).1
  · rw [queue_post, List.pairwise_append]
    refine ⟨attributed.ahead, List.pairwise_singleton _ _, fun q mem p last r about h calls => ?_⟩
    obtain rfl := List.mem_singleton.mp last
    rw [(sent r about).2.2]
    exact List.mem_filterMap.mpr ⟨q, mem, calls⟩
  · rcases mem_queue mem with already | rfl
    · exact attributed.timely p already r about h on same
    · have failed := (named.enrolled_iff r.failed).mp (sent r about).2.1
      have found := (named.enrolled_iff h).mp on
      rw [same, failed] at found
      exact .inl (Option.some.inj found).symm

/-- The next batch is taken. -/
theorem draw (attributed : Attributed name s) (idle : s.batch = []) (n : Nat) :
    Attributed name { s with batch := inTurn (s.inbox.take n), inbox := s.inbox.drop n } := by
  have queue : s.queue = s.inbox.take n ++ s.inbox.drop n := by
    rw [Vigil.queue, idle, List.nil_append, List.take_append_drop]
  obtain ⟨own, goesBy, ahead, timely⟩ := attributed
  rw [queue] at own goesBy ahead timely
  obtain ⟨drawn, left, across⟩ := List.pairwise_append.mp ahead
  have same {p : Post} : p ∈ inTurn (s.inbox.take n) ++ s.inbox.drop n
      ↔ p ∈ s.inbox.take n ++ s.inbox.drop n := by
    rw [List.mem_append, List.mem_append, mem_inTurn]
  refine ⟨fun p mem => own p (same.mp mem), fun p mem => goesBy p (same.mp mem), ?_,
    fun p mem => timely p (same.mp mem)⟩
  refine List.pairwise_append.mpr ⟨ahead_inTurn drawn fun p mem => ?_, left, fun q first p last => ?_⟩
  · exact goesBy p (List.mem_append_left _ mem)
  · exact across q (mem_inTurn.mp first) p last

/-- The next call of the batch is served. If somebody comes by it, the call stood ahead of the reports that
are left. -/
theorem serve (attributed : Attributed name s) {p : Post} {batch : List Post} (next : s.batch = p :: batch)
    {dispatcher : Dispatcher (Heartbeat × τ)}
    (on : ∀ h, dispatcher.Enrolled h → s.dispatcher.Enrolled h ∨ p.call.worker? = some h) :
    Attributed name { s with batch, dispatcher } := by
  have queue : s.queue = p :: (batch ++ s.inbox) := by
    rw [Vigil.queue, next, List.cons_append]
  obtain ⟨own, goesBy, ahead, timely⟩ := attributed
  rw [queue] at own goesBy ahead timely
  obtain ⟨first, left⟩ := List.pairwise_cons.mp ahead
  refine ⟨fun q mem => own q (List.mem_cons_of_mem p mem), fun q mem => goesBy q (List.mem_cons_of_mem p mem),
    left, fun q mem r about h enrolled same => ?_⟩
  rcases on h enrolled with already | calls
  · exact timely q (List.mem_cons_of_mem p mem) r about h already same
  · exact .inr (first q mem r about h calls)

/-- Nobody comes, and no call arrives or is served. -/
theorem still (attributed : Attributed name s) {dispatcher : Dispatcher (Heartbeat × τ)}
    (on : ∀ h, dispatcher.Enrolled h → s.dispatcher.Enrolled h) :
    Attributed name { s with dispatcher } :=
  ⟨attributed.own, attributed.goesBy, attributed.ahead, fun p mem r about h enrolled =>
    attributed.timely p mem r about h (on h enrolled)⟩

end Attributed

/-! ### A run -/

/-- Whoever is watched is on the roster, and reports are about whoever has the name. -/
structure Sound (s : Vigil τ) : Prop where
  watchful : Watchful rest name s
  attributed : Attributed name s

namespace Sound

variable {rest name} {s : Vigil τ}

theorem start (order : DeliveryOrder) (x : τ) : Sound rest name (start order x) where
  watchful := ⟨.start order _, nofun, fun _ on => absurd on List.not_mem_nil,
    fun _ mem => absurd mem List.not_mem_nil⟩
  attributed := ⟨nofun, nofun, .nil, nofun⟩

/-- What the heartbeat does is reported. -/
theorem act (sound : Sound rest name s) (a : Heartbeat.Act)
    (on : ∀ h, a = .report h → s.dispatcher.Enrolled h) : Sound rest name (s.act a) := by
  cases a with
  | ping | rest | stop => exact sound
  | report h =>
    have own : Call.Own name ⟨s.nextCaller, .reportDead h.name⟩ := fun _ calls => by cases calls
    refine ⟨sound.watchful.of_dispatcher rfl,
      sound.attributed.post sound.watchful.reached.named own _ fun r about => ?_⟩
    cases about
    exact ⟨rfl, on h rfl, rfl⟩

theorem acts (sound : Sound rest name s) (acts : List Heartbeat.Act)
    (on : ∀ h, .report h ∈ acts → s.dispatcher.Enrolled h) : Sound rest name (acts.foldl Vigil.act s) := by
  induction acts generalizing s with
  | nil => exact sound
  | cons a acts ih =>
    have same : (s.act a).dispatcher = s.dispatcher := by cases a <;> rfl
    refine ih (sound.act a fun h here => on h (here ▸ List.mem_cons_self)) fun h mem => ?_
    rw [same]
    exact on h (List.mem_cons_of_mem a mem)

/-- **Every event keeps this up.** -/
theorem step (sound : Sound rest name s) (event : Event τ) : Sound rest name (s.step rest name event) := by
  obtain ⟨watchful, attributed⟩ := sound
  cases event with
  | call request =>
    unfold Vigil.step
    dsimp only
    split
    · rename_i own
      exact ⟨watchful.of_dispatcher rfl,
        attributed.post watchful.reached.named own none fun r none => by cases none⟩
    · exact ⟨watchful, attributed⟩
  | beat signal =>
    -- the heartbeat has let an instance go when it reports it, but the roster is as it was
    have told : Sound rest name { s with dispatcher := { s.dispatcher with
        world := ((s.heartbeat.step signal).1, s.dispatcher.world.2) } } :=
      ⟨watchful.beat signal, attributed.still fun _ on => on⟩
    exact told.acts _ fun h reports => watchful.enrolled_of_reported reports
  | draw n =>
    unfold Vigil.step
    dsimp only
    split
    · rename_i idle
      exact ⟨watchful.of_dispatcher rfl, attributed.draw idle n⟩
    · exact ⟨watchful, attributed⟩
  | serve present =>
    unfold Vigil.step
    dsimp only
    split
    · exact ⟨watchful, attributed⟩
    · rename_i p batch next
      have own : p.call.Own name := attributed.own p (by simp [queue, next])
      have carries := (Dispatcher.does_serveOrRefuse (.besideHeartbeat rest) s.dispatcher present p.call).carries
      exact ⟨watchful.carries (.call present p.call) own carries rfl,
        attributed.serve next fun h on => watchful.reached.enrolled_move (.call present p.call) on⟩
  | look present =>
    have carries := (Dispatcher.does_serveParked (.besideHeartbeat rest) s.dispatcher present).carries
    refine ⟨watchful.carries (.look present) nofun carries rfl, attributed.still fun h on => ?_⟩
    rcases watchful.reached.enrolled_move (.look present) on with already | calls
    · exact already
    · cases calls
  | outside change =>
    have reached := watchful.reached.move (.outside fun w => (w.1, change w.2))
    exact ⟨⟨reached, watchful.minds, watchful.enrolled, watchful.pinged⟩,
      attributed.still fun _ on => on⟩

theorem run (sound : Sound rest name s) (events : List (Event τ)) :
    Sound rest name (s.run rest name events) := by
  induction events generalizing s with
  | nil => exact sound
  | cons event events ih => exact ih (sound.step event)

end Sound

/-! ### Where a report comes from -/

theorem waiting_act (s : Vigil τ) (a : Heartbeat.Act) : (s.act a).waiting = s.waiting := by
  cases a with
  | ping | rest | stop => rfl
  | report h =>
    show (s.post _ _).queue.filterMap _ = _
    rw [queue_post, List.filterMap_append]
    simp [waiting, Call.worker?]

theorem mem_queue_acts {s : Vigil τ} {acts : List Heartbeat.Act} {p : Post}
    (mem : p ∈ (acts.foldl act s).queue) :
    p ∈ s.queue ∨ ∃ h, .report h ∈ acts ∧ p.report = some ⟨h, s.waiting⟩ := by
  induction acts generalizing s with
  | nil => exact .inl mem
  | cons a acts ih =>
    rcases ih mem with early | ⟨h, reports, about⟩
    · cases a with
      | ping | rest | stop => exact .inl early
      | report h =>
        have early : p ∈ (s.post _ _).queue := early
        rw [queue_post, List.mem_append, List.mem_singleton] at early
        rcases early with already | rfl
        · exact .inl already
        · exact .inr ⟨h, List.mem_cons_self, rfl⟩
    · rw [waiting_act] at about
      exact .inr ⟨h, List.mem_cons_of_mem a reports, about⟩

/-- A call that is waiting was waiting before, or it came by this event; and if it is a report, the heartbeat
has made it. -/
theorem mem_queue_step (s : Vigil τ) (event : Event τ) {p : Post} {r : Report}
    (mem : p ∈ (s.step rest name event).queue) (about : p.report = some r) :
    p ∈ s.queue ∨ ∃ signal, event = .beat signal ∧
      .report r.failed ∈ (s.heartbeat.step signal).2 ∧ r.waiting = s.waiting := by
  cases event with
  | call request =>
    unfold step at mem
    dsimp only at mem
    split at mem
    · rw [queue_post, List.mem_append, List.mem_singleton] at mem
      rcases mem with already | rfl
      · exact .inl already
      · cases about
    · exact .inl mem
  | beat signal =>
    rcases mem_queue_acts mem with already | ⟨h, reports, sent⟩
    · exact .inl already
    · obtain rfl := Option.some.inj (about.symm.trans sent)
      exact .inr ⟨signal, rfl, reports, rfl⟩
  | draw n =>
    unfold step at mem
    dsimp only at mem
    split at mem
    · have mem : p ∈ inTurn (s.inbox.take n) ++ s.inbox.drop n := mem
      rw [List.mem_append, mem_inTurn, ← List.mem_append, List.take_append_drop] at mem
      exact .inl (List.mem_append_right _ mem)
    · exact .inl mem
  | serve present =>
    unfold step at mem
    dsimp only at mem
    split at mem
    · exact .inl mem
    · rename_i q batch next
      refine .inl ?_
      rw [queue, next]
      exact List.mem_cons_of_mem q mem
  | look | outside => exact .inl mem

/-- A report that is waiting was sent by the heartbeat, about an instance that was on the roster then. -/
theorem report_sent {order : DeliveryOrder} {x : τ} {events : List (Event τ)} {p : Post} {r : Report}
    (mem : p ∈ ((start order x).run rest name events).queue) (about : p.report = some r) :
    ∃ before signal after, events = before ++ .beat signal :: after ∧
      let s₀ := (start order x).run rest name before
      .report r.failed ∈ (s₀.heartbeat.step signal).2 ∧ s₀.dispatcher.Enrolled r.failed ∧
        r.waiting = s₀.waiting := by
  induction events using List.reverseRecOn with
  | nil => cases mem
  | append_singleton events event ih =>
    rw [run_append] at mem
    rcases mem_queue_step rest name _ event mem about with already | ⟨signal, rfl, reports, waiting⟩
    · obtain ⟨before, signal, after, rfl, sent⟩ := ih already
      exact ⟨before, signal, after ++ [event], by simp, sent⟩
    · have watchful := ((Sound.start order x).run events : Sound rest name _).watchful
      exact ⟨events, signal, [], rfl, reports, watchful.enrolled_of_reported reports, waiting⟩

/-- **Whom a death report hits.** Take any run of a dispatcher and its heartbeat, and let a report be next in
the batch. It was sent because an instance had failed that was on the roster then. Whoever is on the roster
now and goes by another name stays there, and nothing is done about it. Whoever has the name that was reported
is taken out, watched no more and given back: this is the instance that has failed, or one whose call was
waiting already when the report was sent. -/
theorem report_hits (order : DeliveryOrder) (x : τ) (events : List (Event τ)) (present : Attendance)
    {p : Post} {later : List Post} {r : Report}
    (next : ((start order x).run rest name events).batch = p :: later) (about : p.report = some r) :
    let s := (start order x).run rest name events
    let s' := s.step rest name (.serve present)
    (∃ before signal after, events = before ++ .beat signal :: after ∧
        let s₀ := (start order x).run rest name before
        .report r.failed ∈ (s₀.heartbeat.step signal).2 ∧ s₀.dispatcher.Enrolled r.failed ∧
          r.waiting = s₀.waiting) ∧
      ∀ h, s.dispatcher.Enrolled h →
        (h.name ≠ r.failed.name → s'.dispatcher.Enrolled h ∧
          Journal.about h s'.dispatcher.journal = Journal.about h s.dispatcher.journal) ∧
        (h.name = r.failed.name → (h = r.failed ∨ h ∈ r.waiting) ∧ ¬ s'.dispatcher.Enrolled h ∧
          Journal.about h s'.dispatcher.journal
            = Journal.about h s.dispatcher.journal ++ [.unwatched, .released]) := by
  intro s s'
  obtain ⟨watchful, attributed⟩ : Sound rest name s := (Sound.start order x).run events
  have mem : p ∈ s.queue := by
    rw [queue, next]
    exact List.mem_cons_self
  refine ⟨report_sent rest name mem about, fun h on => ?_⟩
  -- somebody is on the roster, so the report is not refused
  have running := watchful.reached.running_of_enrolled on
  have named := watchful.reached.named
  have served : s'.dispatcher
      = (s.dispatcher.reportDead (.besideHeartbeat rest) r.failed.name).answer p.call.caller .done := by
    have moved : s'.dispatcher = s.dispatcher.serveOrRefuse (.besideHeartbeat rest) present p.call :=
      congrArg Vigil.dispatcher (step_serve rest name present next)
    rw [moved, Dispatcher.serveOrRefuse_of_running _ present running, Dispatcher.serve,
      attributed.goesBy p mem r about]
  have told : Dispatcher.Overlooks (.besideHeartbeat rest)
      (s.dispatcher.reportDead (.besideHeartbeat rest) r.failed.name) s'.dispatcher := by
    rw [served]
    exact .answer _ _ _
  have shift := (named.shift_reportDead (.besideHeartbeat rest) h r.failed.name).overlooked told
  constructor
  · intro other
    cases shift with
    | stays same shown => exact ⟨same.mpr on, shown⟩
    | comes called => exact called.elim
    | leaves because => exact absurd because.2.symm other
  · intro same
    refine ⟨attributed.timely p mem r about h on same, ?_⟩
    have off : ¬ (s.dispatcher.reportDead (.besideHeartbeat rest) r.failed.name).Enrolled h := by
      rw [(named.reportDead _ _).enrolled_iff, Dispatcher.handle?_reportDead, if_pos same]
      simp
    cases shift with
    | stays still => exact absurd ((told.enrolled_iff h).mp (still.mpr on)) off
    | comes called => exact called.elim
    | leaves because _ gone shown =>
      obtain ⟨rfl, -⟩ := because
      exact ⟨gone, shown⟩

/-- An instance fails, and is reported before its successor calls. -/
def succeeded : List (Event Vault) :=
  [.call (.requestTask ⟨1, "ann"⟩), .draw 1, .serve {}, .look {},
    .beat .tick, .beat (.outcome ⟨1, "ann"⟩ false),
    .call (.requestTask ⟨2, "ann"⟩), .draw 2]

/-- The instance that has failed is taken out and given back. -/
theorem report_hits_failed :
    let s := (start .completion {}).run .ofVault (fun _ => "ann") succeeded
    let s' := s.step .ofVault (fun _ => "ann") (.serve {})
    s.dispatcher.Enrolled ⟨1, "ann"⟩ ∧ ¬ s'.dispatcher.Enrolled ⟨1, "ann"⟩ ∧
      Journal.about ⟨1, "ann"⟩ s'.dispatcher.journal = [.watched, .unwatched, .released] := by
  intro s s'
  have on : s.dispatcher.Enrolled ⟨1, "ann"⟩ := by decide
  have about : Journal.about ⟨1, "ann"⟩ s.dispatcher.journal = [.watched] := by decide
  have next : s.batch = ⟨⟨1, .reportDead "ann"⟩, some ⟨⟨1, "ann"⟩, []⟩⟩ ::
      [⟨⟨2, .requestTask ⟨2, "ann"⟩⟩, none⟩] := by rfl
  obtain ⟨-, hits⟩ := report_hits .ofVault (fun _ => "ann") .completion {} succeeded {} next rfl
  obtain ⟨-, gone, shown⟩ := (hits ⟨1, "ann"⟩ on).2 rfl
  refine ⟨on, gone, ?_⟩
  rw [shown, about]
  rfl

/-- An instance fails, and its successor calls before it is reported. -/
def forestalled : List (Event Vault) :=
  [.call (.requestTask ⟨1, "ann"⟩), .draw 1, .serve {}, .look {},
    .beat .tick, .call (.requestTask ⟨2, "ann"⟩), .beat (.outcome ⟨1, "ann"⟩ false),
    .draw 2, .serve {}]

/-- **A report may hit an instance that has not failed.** The successor is on the roster and watched when the
report of the other instance is served. It is taken out and given back. -/
theorem report_hits_successor :
    let s := (start .completion {}).run .ofVault (fun _ => "ann") forestalled
    let s' := s.step .ofVault (fun _ => "ann") (.serve {})
    s.batch.map Post.report = [some ⟨⟨1, "ann"⟩, [⟨2, "ann"⟩]⟩] ∧
      s.dispatcher.Enrolled ⟨2, "ann"⟩ ∧ s.heartbeat.watched.get? 2 = some ⟨2, "ann"⟩ ∧
      ¬ s'.dispatcher.Enrolled ⟨2, "ann"⟩ ∧ s'.heartbeat.watched.get? 2 = none ∧
      Journal.about ⟨2, "ann"⟩ s'.dispatcher.journal = [.watched, .unwatched, .released] := by
  decide

end Vigil

end WorkFarm
