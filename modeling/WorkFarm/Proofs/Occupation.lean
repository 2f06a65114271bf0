import WorkFarm.Proofs.Sleepers
/-!
# Every worker sleeps or works

A roster keeps four tables. Names and instances are inverse to each other (`Roster.Sound`), and beside
them stand the names of those who sleep and the tasks of those who work. The last two are written one at
a time, and nothing compares them: a worker that is put to sleep is struck from the tasks, a worker that
is handed a task is struck from the sleeping ones, and it is up to the dispatcher to do both.

It does, but not at once. An instance that has just come neither sleeps nor works, and neither does one
whose result was just taken in. Both are about to be handed something. So the invariant leaves out one
name, the one that is being served (`Roster.Occupied`), and a call that serves a worker goes from an
invariant that leaves out nobody, through some that leave out the caller, back to the first.

## Main definitions

* `Roster.Occupied` — every member but perhaps one either sleeps or works, and nobody else does

## Main statements

* `asleep_or_assigned` — every registered worker either sleeps or works, after every run
-/

namespace WorkFarm

universe u

namespace Roster

/-- Names and instances correspond to each other, nobody sleeps or works but members, and every member
either sleeps or works, except perhaps the one with the name that is left out. -/
structure Occupied (name : Nat → String) (leftOut : Option String) (r : Roster) : Prop
    extends Sound name r where
  sorted : r.sleeping.Pairwise (· < ·)
  asleep : ∀ n ∈ r.sleeping, ∃ h, r.handle? n = some h
  either : ∀ n h, leftOut ≠ some n → r.handle? n = some h →
    (n ∈ r.sleeping ↔ r.assignment? n = none)

variable {name : Nat → String} {leftOut : Option String} {r r' : Roster} {n : String} {h : Handle}

/-! ### Sleeping names stay sorted -/

theorem sorted_insertName {names : List String} (n : String) (sorted : names.Pairwise (· < ·)) :
    (insertName n names).Pairwise (· < ·) := by
  induction names with
  | nil => exact List.pairwise_singleton _ n
  | cons k names ih =>
    obtain ⟨least, rest⟩ := List.pairwise_cons.mp sorted
    unfold insertName
    split
    · exact sorted
    · rename_i other
      split
      · rename_i before
        refine List.pairwise_cons.mpr ⟨?_, sorted⟩
        intro m mem
        rcases List.mem_cons.mp mem with rfl | mem
        · exact before
        · exact String.lt_trans before (least m mem)
      · rename_i notBefore
        have after : k < n := by
          by_contra notAfter
          exact other (String.le_antisymm (String.not_lt.mp notAfter) (String.not_lt.mp notBefore))
        refine List.pairwise_cons.mpr ⟨?_, ih rest⟩
        intro m mem
        rcases mem_insertName.mp mem with rfl | mem
        · exact after
        · exact least m mem

theorem mem_sleeping_clearSleeping (r : Roster) (n m : String) :
    m ∈ (r.clearSleeping n).sleeping ↔ m ∈ r.sleeping ∧ m ≠ n := by
  simp [clearSleeping]

theorem mem_sleeping_markSleeping_of_member (member : r.handle? n = some h) (m : String) :
    m ∈ (r.markSleeping n).sleeping ↔ m = n ∨ m ∈ r.sleeping := by
  have known : r.byName.contains n = true := Option.isSome_iff_exists.mpr ⟨h, member⟩
  rw [markSleeping, if_pos known]
  exact mem_insertName

theorem sorted_markSleeping (sorted : r.sleeping.Pairwise (· < ·)) (n : String) :
    (r.markSleeping n).sleeping.Pairwise (· < ·) := by
  unfold markSleeping
  split
  · exact sorted_insertName n sorted
  · exact sorted

/-! ### One worker at a time -/

namespace Occupied

theorem empty : Occupied name none {} where
  toSound := .empty
  sorted := .nil
  asleep n mem := absurd mem List.not_mem_nil
  either n h _ found := by cases found

/-- One more name may be left out. -/
theorem leaveOut (occupied : r.Occupied name none) (n : String) : r.Occupied name (some n) :=
  { occupied with either := fun m h _ found => occupied.either m h (by simp) found }

/-- What is noted of one member may change, if nothing is noted of the others that was not before. -/
theorem of_others (occupied : r.Occupied name (some n)) (member : r.handle? n = some h)
    (byName : r'.byName = r.byName) (byHandle : r'.byHandle = r.byHandle)
    (sorted : r'.sleeping.Pairwise (· < ·))
    (sleeping : ∀ m, m ≠ n → (m ∈ r'.sleeping ↔ m ∈ r.sleeping))
    (assignment : ∀ m, m ≠ n → r'.assignment? m = r.assignment? m)
    (either : n ∈ r'.sleeping ↔ r'.assignment? n = none) : r'.Occupied name none := by
  have handle : ∀ m, r'.handle? m = r.handle? m := fun m => by rw [handle?, byName, handle?]
  refine ⟨occupied.toSound.of_members byName byHandle ?_, sorted, ?_, ?_⟩
  · intro m id task
    by_cases here : m = n
    · exact ⟨h, here ▸ member⟩
    · rw [assignment m here] at task
      exact occupied.assigned m id task
  · intro m mem
    rw [handle]
    by_cases here : m = n
    · exact ⟨h, here ▸ member⟩
    · exact occupied.asleep m ((sleeping m here).mp mem)
  · intro m k _ found
    by_cases here : m = n
    · rw [here]
      exact either
    · rw [handle] at found
      rw [sleeping m here, assignment m here]
      exact occupied.either m k (fun same => here (Option.some.inj same).symm) found

/-- The worker that is left out goes to sleep. -/
theorem sleep (occupied : r.Occupied name (some n)) (member : r.handle? n = some h) :
    ((r.clearAssignment n).markSleeping n).Occupied name none := by
  have member' : (r.clearAssignment n).handle? n = some h := member
  have sorted : (r.clearAssignment n).sleeping.Pairwise (· < ·) := occupied.sorted
  have asleep := mem_sleeping_markSleeping_of_member member'
  have assignment : ∀ m, ((r.clearAssignment n).markSleeping n).assignment? m
      = if m = n then none else r.assignment? m := by
    intro m
    rw [assignment?, assignments_markSleeping]
    exact assignment?_clearAssignment r n m
  refine occupied.of_others member (byName_markSleeping _ n) (byHandle_markSleeping _ n)
    (sorted_markSleeping sorted n) ?_ ?_ ?_
  · intro m other
    rw [asleep, or_iff_right other]
    rfl
  · intro m other
    rw [assignment, if_neg other]
  · rw [asleep, assignment, if_pos rfl]
    simp

/-- The worker that is left out is handed a task. -/
theorem work (occupied : r.Occupied name (some n)) (member : r.handle? n = some h) (id : TaskId) :
    ((r.clearSleeping n).assign n id).Occupied name none := by
  have assignment := assignment?_assign (r.clearSleeping n) n
  have asleep : ∀ m, m ∈ ((r.clearSleeping n).assign n id).sleeping ↔ m ∈ r.sleeping ∧ m ≠ n :=
    mem_sleeping_clearSleeping r n
  refine occupied.of_others member rfl rfl (occupied.sorted.filter _) ?_ ?_ ?_
  · intro m other
    rw [asleep, and_iff_left other]
  · intro m other
    rw [assignment, if_neg other]
    rfl
  · rw [asleep, assignment, if_pos rfl]
    simp

/-- What a worker works on may be struck, if the worker is left out. -/
theorem clearAssignment (occupied : r.Occupied name none) (n : String) :
    (r.clearAssignment n).Occupied name (some n) := by
  have assignment := assignment?_clearAssignment r n
  refine ⟨occupied.toSound.of_members rfl rfl ?_, occupied.sorted, occupied.asleep, ?_⟩
  · intro m id task
    rw [assignment] at task
    split at task
    · cases task
    · exact occupied.assigned m id task
  · intro m h other found
    have apart : m ≠ n := fun same => other (congrArg some same.symm)
    rw [assignment, if_neg apart]
    exact occupied.either m h (by simp) found

/-- A name without a member need not be left out. -/
theorem of_free (occupied : r.Occupied name (some n)) (free : r.handle? n = none) :
    r.Occupied name none := by
  refine { occupied with either := ?_ }
  intro m h _ found
  have other : n ≠ m := by
    rintro rfl
    rw [free] at found
    cases found
  exact occupied.either m h (by simpa using other) found

/-- Whoever is taken out sleeps and works no more. -/
theorem remove? (occupied : r.Occupied name (some n)) {assigned : Option TaskId}
    (removed : r.remove? n = some (h, assigned, r')) : r'.Occupied name none := by
  obtain ⟨-, -, handles, -, assignments⟩ := remove?_eq_some removed
  have sleeping := sleeping_remove? removed
  refine ⟨occupied.toSound.remove? removed, ?_, ?_, ?_⟩
  · rw [sleeping]
    exact occupied.sorted.filter _
  · intro m mem
    rw [sleeping, List.mem_filter] at mem
    obtain ⟨before, other⟩ := mem
    rw [handles, if_neg (by simpa using other)]
    exact occupied.asleep m before
  · intro m k _ found
    rw [handles] at found
    split at found
    · cases found
    · rename_i other
      rw [sleeping, assignments, if_neg other, List.mem_filter]
      simpa [other] using occupied.either m k (by simpa using Ne.symm other) found

/-- Whoever is new is left out. -/
theorem register? (occupied : r.Occupied name none) (own : h.name = name h.serial)
    (registered : r.register? h = some r') : r'.Occupied name (some h.name) := by
  obtain ⟨-, -, handles, -, assignments⟩ := register?_eq_some registered
  have sleeping := sleeping_register? registered
  refine ⟨occupied.toSound.register? own registered, sleeping ▸ occupied.sorted, ?_, ?_⟩
  · intro m mem
    rw [sleeping] at mem
    rw [handles]
    split
    · exact ⟨h, rfl⟩
    · exact occupied.asleep m mem
  · intro m k other found
    have apart : m ≠ h.name := fun same => other (congrArg some same.symm)
    rw [handles, if_neg apart] at found
    rw [sleeping, assignments]
    exact occupied.either m k (by simp) found

end Occupied

end Roster

namespace Dispatcher

variable {σ : Type u} (c : Collaborators σ) {name : Nat → String} {d : Dispatcher σ} {h : Handle}

/-- Whoever is taken out need not be left out any more. -/
theorem occupied_retire {n : String} (occupied : d.roster.Occupied name (some n)) :
    (d.retire c n).2.roster.Occupied name none := by
  rcases retire_cases c d n with ⟨free, same⟩ | ⟨k, assigned, roster, removed, spares⟩
  · rw [same]
    exact occupied.of_free free
  · rw [spares.roster]
    exact occupied.remove? removed

theorem occupied_reportDead (occupied : d.roster.Occupied name none) (n : String) :
    (d.reportDead c n).roster.Occupied name none := by
  rw [(spares_reportDead c d n).roster]
  exact occupied_retire c (occupied.leaveOut n)

/-! ### Serving a worker -/

/-- An instance whose name is free comes onto the roster, and neither sleeps nor works. -/
theorem occupied_enroll (occupied : d.roster.Occupied name none) (own : h.name = name h.serial)
    (free : d.roster.handle? h.name = none) :
    (register.enroll c h d).roster.handle? h.name = some h ∧
      (register.enroll c h d).roster.Occupied name (some h.name) := by
  obtain ⟨roster, registered⟩ :=
    Option.ne_none_iff_exists'.mp (occupied.toSound.register?_ne_none own free)
  have spares := enroll_spec c registered
  obtain ⟨-, -, handles, -, -⟩ := Roster.register?_eq_some registered
  rw [spares.roster]
  constructor
  · rw [handles, if_pos rfl]
  · exact occupied.register? own registered

/-- An instance that calls is on the roster, whoever had its name before. -/
theorem occupied_register (occupied : d.roster.Occupied name (some h.name))
    (own : h.name = name h.serial) :
    (d.register c h).roster.handle? h.name = some h ∧
      (d.register c h).roster.Occupied name (some h.name) := by
  rcases register_cases c d h with ⟨known, found, serial, same⟩ | ⟨known, -, -, same⟩ | ⟨free, same⟩
  · have instance_ : known = h := by
      obtain ⟨named, -⟩ := occupied.named _ known found
      cases known
      cases h
      simp_all
    rw [same]
    exact ⟨instance_ ▸ found, occupied⟩
  · rw [same]
    apply occupied_enroll c (occupied_retire c occupied) own
    rw [handle?_retire, if_pos rfl]
  · rw [same]
    exact occupied_enroll c (occupied.of_free free) own free

/-- **Whoever asks for work** works or sleeps afterwards, whatever it did before. -/
theorem occupied_dispatch (occupied : d.roster.Occupied name (some h.name))
    (own : h.name = name h.serial) : (d.dispatch c h).2.roster.Occupied name none := by
  obtain ⟨member, others⟩ := occupied_register c occupied own
  unfold dispatch
  generalize d.register c h = d₁ at member others
  dsimp only
  split
  · exact others.sleep member
  · rename_i id backlog _
    have working := others.work member id
    split
    · rename_i task d₂ sent
      obtain rfl : ((d₁.launch h.name id backlog).send (.fetch id) (c.fetch id)).2 = d₂ :=
        congrArg Prod.snd sent
      exact working
    · rename_i e d₂ sent
      obtain rfl : ((d₁.launch h.name id backlog).send (.fetch id) (c.fetch id)).2 = d₂ :=
        congrArg Prod.snd sent
      exact (working.leaveOut h.name).sleep member

/-- A result that is taken in may leave its worker without a task. -/
theorem occupied_acceptResult (occupied : d.roster.Occupied name none) (r : TaskResult)
    (h : Handle) : (d.acceptResult c r h).roster.Occupied name (some h.name) := by
  rcases acceptResult_cases c d r h with ⟨-, same⟩ | ⟨backlog, -, spares⟩
  · rw [same]
    exact occupied.leaveOut h.name
  · rw [spares.roster]
    dsimp only
    split
    · exact occupied.clearAssignment h.name
    · exact occupied.leaveOut h.name

/-! ### A run -/

theorem roster_submit (d : Dispatcher σ) (ids : List TaskId) : (d.submit c ids).roster = d.roster := by
  unfold submit
  dsimp only
  split
  · exact (wakeSleepers_spec c _).1.trans (roster_enter d ids)
  · exact roster_enter d ids

/-- What a call does to the workers: it serves one of them, or takes some out, or none of them is
concerned. -/
theorem occupied_serve (present : Attendance) (occupied : d.roster.Occupied name none) (call : Call)
    (own : ∀ h ∈ call.worker?, h.name = name h.serial) :
    (d.serve c present call).roster.Occupied name none := by
  obtain ⟨caller, request⟩ := call
  cases request with
  | requestTask h => exact occupied_dispatch c (occupied.leaveOut h.name) (own h rfl)
  | handIn r h => exact occupied_dispatch c (occupied_acceptResult c occupied r h) (own h rfl)
  | reportDead n => exact occupied_reportDead c occupied n
  | submit ids =>
    show (d.submit c ids).roster.Occupied name none
    rw [roster_submit]
    exact occupied
  | terminate free =>
    show (d.terminate c free).roster.Occupied name none
    rw [roster_terminate]
    exact .empty
  | wait | setOrder | countAvailable | isEmpty | poolSize | addResources =>
    rw [(spares_serve c present d (by nofun) (by nofun) (by nofun)).roster]
    exact occupied

/-- **Every move keeps every worker asleep or at work.** -/
theorem occupied_move (occupied : d.roster.Occupied name none) (m : Move σ)
    (own : ∀ h ∈ m.worker?, h.name = name h.serial) : (d.move c m).roster.Occupied name none := by
  cases m with
  | call present call =>
    show (d.serveOrRefuse c present call).roster.Occupied name none
    unfold serveOrRefuse
    split
    · exact occupied
    · exact occupied_serve c present occupied call own
  | look present =>
    show (d.serveParked present).roster.Occupied name none
    rw [((does_serveParked c d present).spares fun _ => Act.Waits.spares).roster]
    exact occupied
  | outside change => exact occupied

theorem occupied_moves (occupied : d.roster.Occupied name none) (ms : List (Move σ))
    (own : ∀ m ∈ ms, ∀ h ∈ m.worker?, h.name = name h.serial) :
    (d.moves c ms).roster.Occupied name none := by
  induction ms generalizing d with
  | nil => exact occupied
  | cons m ms ih =>
    apply ih (occupied_move c occupied m (own m List.mem_cons_self))
    intro m' mem
    exact own m' (List.mem_cons_of_mem m mem)

/-- **Every registered worker either sleeps or works.** Take any run in which no instance of a worker
changes its name, whatever errands fail in it. Then names and instances are inverse to each other, and
each instance is registered under its own name. Those who sleep, each listed once, and those who have a
task are together the members of the roster, and nobody does both. So nobody who is not registered
sleeps or has a task. -/
theorem asleep_or_assigned (name : Nat → String) (order : DeliveryOrder) (world : σ)
    (ms : List (Move σ)) (own : ∀ m ∈ ms, ∀ h ∈ m.worker?, h.name = name h.serial) :
    let r := ((start order world).moves c ms).roster
    (∀ n s, r.byHandle.get? s = some n ↔ ∃ h, r.handle? n = some h ∧ h.serial = s) ∧
      (∀ n h, r.handle? n = some h → h.name = n) ∧
      r.sleeping.Nodup ∧
      (∀ n, (∃ h, r.handle? n = some h) ↔ n ∈ r.sleeping ∨ ∃ id, r.assignment? n = some id) ∧
      (∀ n ∈ r.sleeping, r.assignment? n = none) ∧
      ∀ n, r.handle? n = none → n ∉ r.sleeping ∧ r.assignment? n = none := by
  intro r
  have occupied : r.Occupied name none :=
    occupied_moves c (d := start order world) .empty ms own
  have awake : ∀ n h, r.handle? n = some h → (n ∈ r.sleeping ↔ r.assignment? n = none) :=
    fun n h => occupied.either n h (by simp)
  refine ⟨?_, ?_, ?_, ?_, ?_, ?_⟩
  · intro n s
    constructor
    · exact occupied.registered s n
    · rintro ⟨h, member, rfl⟩
      exact occupied.listed n h member
  · intro n h member
    exact (occupied.named n h member).1
  · refine occupied.sorted.imp ?_
    rintro n m before rfl
    exact String.lt_irrefl n before
  · intro n
    constructor
    · rintro ⟨h, member⟩
      rw [awake n h member, ← Option.ne_none_iff_exists']
      exact Decidable.em _
    · rintro (asleep | ⟨id, task⟩)
      · exact occupied.asleep n asleep
      · exact occupied.assigned n id task
  · intro n asleep
    obtain ⟨h, member⟩ := occupied.asleep n asleep
    exact (awake n h member).mp asleep
  · intro n free
    constructor
    · intro asleep
      obtain ⟨h, member⟩ := occupied.asleep n asleep
      rw [free] at member
      cases member
    · exact occupied.toSound.assignment?_eq_none free

/-- Three workers have come. One is restarted while it works, and its new instance is handed the other
task; one goes on to sleep, for the payload of the task that came back cannot be read; and the third one
is reported dead. -/
def shifts : List (Move Vault) :=
  [.call {} ⟨0, .requestTask ⟨0, "ann"⟩⟩,
    .call {} ⟨1, .requestTask ⟨1, "bob"⟩⟩,
    .call {} ⟨2, .requestTask ⟨2, "eve"⟩⟩,
    .outside fun v => (v.storeAll [.bool true, .bool false]).2,
    .call {} ⟨3, .submit [⟨1⟩, ⟨2⟩]⟩,
    .call {} ⟨4, .requestTask ⟨0, "ann"⟩⟩,
    .call {} ⟨5, .requestTask ⟨3, "ann"⟩⟩,
    .outside fun v => ((v.evict ⟨1⟩).toOption).getD v,
    .call {} ⟨6, .requestTask ⟨1, "bob"⟩⟩,
    .call {} ⟨7, .reportDead "eve"⟩]

/-- The restarted worker works, the other one sleeps, and the dead one does neither. -/
theorem asleep_or_assigned_shifts :
    let r := ((start .completion {}).moves .ofVault shifts).roster
    r.byName.keys = ["bob", "ann"] ∧ r.sleeping = ["bob"] ∧
      r.assignments.entries = [("ann", ⟨2⟩)] ∧
      (∀ n, (∃ h, r.handle? n = some h) ↔ n ∈ r.sleeping ∨ ∃ id, r.assignment? n = some id) ∧
      "eve" ∉ r.sleeping ∧ r.assignment? "eve" = none := by
  have either := asleep_or_assigned .ofVault
    (fun serial => if serial = 1 then "bob" else if serial = 2 then "eve" else "ann") .completion {}
    shifts (by decide)
  exact ⟨by decide, by decide, by decide, either.2.2.2.1, either.2.2.2.2.2 "eve" (by decide)⟩

end Dispatcher

end WorkFarm
