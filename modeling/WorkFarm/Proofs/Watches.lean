import Mathlib.Data.List.Chain
import WorkFarm.Proofs.Carried
import WorkFarm.Proofs.Sleepers
/-!
# Who is watched

The dispatcher has its workers watched, and it gives them back when it does not need them any more. An
instance of a worker comes onto the roster by a call of its own and leaves it in one of three ways: another
instance with its name calls, its name is reported dead, or the dispatcher stops. It may come back after
that. So its stay on the roster falls into spells, and each spell should show in the journal in one way:
the instance is watched, it is watched no more, and unless another one has replaced it, it is given back.

The theory is about one instance at a time. `Journal.about` is what the journal says of it, and
`Dispatcher.Shift` is what a move can do: nothing changes, or the instance comes, or it leaves, and what the
journal says is in step with that (`shift_move`). The way in which it leaves is read off the move, and not
off the journal, so that a run of the journal can be compared with it.

## Main definitions

* `Departure`, `Move.Removes` — the ways in which an instance leaves the roster
* `Dispatcher.departures` — how it has left in a run
* `Dispatcher.Shift` — what a move does to an instance

## Main statements

* `watched_as_enrolled` — what was done about an instance follows its spells on the roster
-/

namespace WorkFarm

universe u

/-- How an instance leaves the roster. -/
inductive Departure where
  /-- Another instance with its name calls. -/
  | replaced
  /-- Its name is reported dead. -/
  | reported
  /-- The dispatcher stops. -/
  | stopped
deriving DecidableEq, Repr

namespace Departure

/-- What is done about an instance when it leaves. -/
def parting : Departure → List Concern
  | .replaced => [.unwatched]
  | .reported | .stopped => [.unwatched, .released]

/-- What is done about an instance from when it comes to when it has left. -/
def spell (how : Departure) : List Concern := .watched :: how.parting

end Departure

namespace Dispatcher

variable {σ : Type u} (c : Collaborators σ)

/-- How an instance leaves the roster, if it does so by this move. -/
def Move.departure : Move σ → Departure
  | .call _ asked =>
    match asked.request with
    | .reportDead _ => .reported
    | .terminate _ => .stopped
    | _ => .replaced
  | _ => .replaced

/-- How an instance has left the roster, each time that it did. -/
def departures (h : Handle) : Dispatcher σ → List (Move σ) → List Departure
  | _, [] => []
  | d, m :: ms =>
    (if d.Enrolled h ∧ ¬ (d.move c m).Enrolled h then [m.departure] else [])
      ++ departures h (d.move c m) ms

/-- A move removes an instance: another one with its name makes it, or it reports the name, or it stops the
dispatcher. -/
def Move.Removes (h : Handle) (m : Move σ) : Departure → Prop
  | .replaced => ∃ k, m.worker? = some k ∧ k.name = h.name ∧ k.serial ≠ h.serial
  | .reported => ∃ present asked, m = .call present asked ∧ asked.request = .reportDead h.name
  | .stopped => ∃ present asked, m = .call present asked ∧ asked.stops = true

/-! ### Coming and leaving -/

/-- Whoever leaves a name is watched no more. -/
theorem about_retire (d : Dispatcher σ) (name : String) (h : Handle) :
    Journal.about h (d.retire c name).2.journal = Journal.about h d.journal
      ++ if d.roster.handle? name = some h then [.unwatched] else [] := by
  unfold retire
  split
  · rename_i free
    rw [Roster.remove?_eq_none.mp free]
    simp
  · rename_i k assigned roster removed
    obtain ⟨found, -⟩ := Roster.remove?_eq_some removed
    have unwatch := about_send { d with roster } (.unwatch k) (c.unwatch k) h
    rw [found]
    simp only [Errand.about, Option.some.injEq] at unwatch ⊢
    cases assigned with
    | none => exact unwatch
    | some id =>
      have requeue (d : Dispatcher σ) : Overlooks c d (d.requeue c id) :=
        (does_requeue c d id).overlooks fun a (here : a = .requeue) => here ▸ trivial
      exact ((requeue _).about h).trans unwatch

/-- Whoever comes is watched. -/
theorem enroll_cases (d : Dispatcher σ) (k : Handle) :
    register.enroll c k d = d ∨
      d.roster.handle? k.name = none ∧
        (∀ m, (register.enroll c k d).roster.handle? m
          = if m = k.name then some k else d.roster.handle? m) ∧
        ∀ h, Journal.about h (register.enroll c k d).journal
          = Journal.about h d.journal ++ if k = h then [.watched] else [] := by
  unfold register.enroll
  split
  · exact .inl rfl
  · rename_i roster registered
    obtain ⟨free, -, handles, -, -⟩ := Roster.register?_eq_some registered
    exact .inr ⟨free, handles, fun h => about_send { d with roster } (.watch k) (c.watch k) h⟩

/-- Everybody who is on the roster is there under its name. -/
def Named (d : Dispatcher σ) : Prop := ∀ n h, d.roster.handle? n = some h → h.name = n

theorem Named.enrolled_iff {d : Dispatcher σ} (named : d.Named) (h : Handle) :
    d.Enrolled h ↔ d.roster.handle? h.name = some h := by
  rw [Enrolled, Table.mem_values_iff]
  constructor
  · rintro ⟨n, found⟩
    rwa [named n h found]
  · intro found
    exact ⟨h.name, found⟩

/-- An instance stays on the roster or off it, or it comes if it has called, or it leaves in a way that
there is a `cause` for. What is done about it is in step with that. -/
inductive Shift (h : Handle) (called : Prop) (cause : Departure → Prop) (d d' : Dispatcher σ) : Prop
  | stays (same : d'.Enrolled h ↔ d.Enrolled h)
    (about : Journal.about h d'.journal = Journal.about h d.journal)
  | comes (because : called) (off : ¬ d.Enrolled h) (on : d'.Enrolled h)
    (about : Journal.about h d'.journal = Journal.about h d.journal ++ [.watched])
  | leaves {how : Departure} (because : cause how) (on : d.Enrolled h) (off : ¬ d'.Enrolled h)
    (about : Journal.about h d'.journal = Journal.about h d.journal ++ how.parting)

namespace Shift

variable {c} {h : Handle} {called : Prop} {cause : Departure → Prop} {d d₁ d₂ : Dispatcher σ}

theorem of_overlooks (overlooks : Overlooks c d d₁) : Shift h called cause d d₁ :=
  .stays (overlooks.enrolled_iff h) (overlooks.about h)

theorem mono {called' : Prop} {cause' : Departure → Prop} (shift : Shift h called cause d d₁)
    (calls : called → called') (weaker : ∀ how, cause how → cause' how) :
    Shift h called' cause' d d₁ := by
  cases shift with
  | stays same about => exact .stays same about
  | comes because off on about => exact .comes (calls because) off on about
  | leaves because on off about => exact .leaves (weaker _ because) on off about

theorem overlooked (shift : Shift h called cause d d₁) (overlooks : Overlooks c d₁ d₂) :
    Shift h called cause d d₂ := by
  have about := overlooks.about h
  have enrolled := overlooks.enrolled_iff h
  cases shift with
  | stays same shown => exact .stays (enrolled.trans same) (about.trans shown)
  | comes because off on shown => exact .comes because off (enrolled.mpr on) (about.trans shown)
  | leaves because on off shown =>
    exact .leaves because on (fun still => off (enrolled.mp still)) (about.trans shown)

theorem after (shift : Shift h called cause d₁ d₂) (overlooks : Overlooks c d d₁) :
    Shift h called cause d d₂ := by
  have about := overlooks.about h
  have enrolled := overlooks.enrolled_iff h
  cases shift with
  | stays same shown => exact .stays (same.trans enrolled) (by rw [shown, about])
  | comes because off on shown =>
    exact .comes because (fun already => off (enrolled.mpr already)) on (by rw [shown, about])
  | leaves because on off shown =>
    exact .leaves because (enrolled.mp on) off (by rw [shown, about])

end Shift

/-- An instance whose name is freed comes, and whoever had the name leaves. -/
theorem Named.shift_enroll {d d₁ : Dispatcher σ} (named : d.Named) {h k : Handle}
    (handles : ∀ m, d₁.roster.handle? m = if m = k.name then none else d.roster.handle? m)
    (about : Journal.about h d₁.journal = Journal.about h d.journal
      ++ if d.roster.handle? k.name = some h then [.unwatched] else [])
    (other : d.roster.handle? k.name = some h → k.serial ≠ h.serial) :
    Shift h (k = h) (fun how => how = .replaced ∧ k.name = h.name ∧ k.serial ≠ h.serial) d
      (register.enroll c k d₁) := by
  -- nobody is registered but `k` and those who were
  have outcome : ∃ on : Bool,
      (∀ m, (register.enroll c k d₁).roster.handle? m
        = if m = k.name then (if on then some k else none) else d.roster.handle? m) ∧
      Journal.about h (register.enroll c k d₁).journal
        = Journal.about h d₁.journal ++ if on ∧ k = h then [.watched] else [] := by
    rcases enroll_cases c d₁ k with same | ⟨-, handles', watched⟩
    · exact ⟨false, by simpa [same] using handles, by simp [same]⟩
    · refine ⟨true, fun m => ?_, by simpa using watched h⟩
      rw [handles', handles]
      split <;> simp
  obtain ⟨on, after, shown⟩ := outcome
  have named₂ : (register.enroll c k d₁).Named := by
    intro n h found
    rw [after] at found
    split at found
    · rename_i here
      split at found
      · cases found
        exact here.symm
      · cases found
    · exact named n h found
  have enrolled := named.enrolled_iff h
  have enrolled' := named₂.enrolled_iff h
  rw [after] at enrolled'
  rw [about, List.append_assoc] at shown
  by_cases here : d.roster.handle? k.name = some h
  -- the instance had the name
  · have name : h.name = k.name := named _ h here
    have apart : k ≠ h := fun same => other here (congrArg Handle.serial same)
    rw [if_pos here, if_neg (fun both => apart both.2)] at shown
    refine .leaves ⟨rfl, name.symm, other here⟩ (enrolled.mpr (name ▸ here)) (fun still => ?_) shown
    have still := enrolled'.mp still
    rw [if_pos name] at still
    split at still
    · exact apart (Option.some.inj still)
    · cases still
  · rw [if_neg here, List.nil_append] at shown
    by_cases comes : on = true ∧ k = h
    · obtain ⟨rfl, rfl⟩ := comes
      rw [if_pos ⟨rfl, rfl⟩] at shown
      exact .comes rfl (fun already => here (enrolled.mp already)) (enrolled'.mpr (by simp)) shown
    · rw [if_neg comes, List.append_nil] at shown
      refine .stays ?_ shown
      rw [enrolled', enrolled]
      by_cases name : h.name = k.name
      · have off : (if on then some k else none) ≠ some h := by
          intro found
          split at found
          · rename_i true
            exact comes ⟨true, Option.some.inj found⟩
          · cases found
        rw [if_pos name]
        exact iff_of_false off fun found => here (name ▸ found)
      · rw [if_neg name]

/-- An instance that calls comes onto the roster. Another instance with its name leaves. -/
theorem Named.shift_register {d : Dispatcher σ} (named : d.Named) (h k : Handle) :
    Shift h (k = h) (fun how => how = .replaced ∧ k.name = h.name ∧ k.serial ≠ h.serial) d
      (d.register c k) := by
  rcases register_cases c d k with ⟨-, -, -, same⟩ | ⟨known, found, serial, same⟩ | ⟨free, same⟩
  · rw [same]
    exact .stays Iff.rfl rfl
  · rw [same]
    refine named.shift_enroll c (handle?_retire c d k.name) (about_retire c d k.name h) fun here => ?_
    rw [found] at here
    cases here
    exact serial.symm
  · rw [same]
    refine named.shift_enroll c (fun m => ?_) ?_ (fun here => ?_)
    · split
      · rename_i here
        rw [here, free]
      · rfl
    · rw [free]
      simp
    · rw [free] at here
      cases here

/-- Whoever is reported dead is taken out and given back, if the name is known. -/
theorem reportDead_cases (d : Dispatcher σ) (name : String) :
    d.roster.handle? name = none ∧ d.reportDead c name = d ∨
      ∃ k, d.roster.handle? name = some k ∧
        d.reportDead c name = ((d.retire c name).2.send (.release [k]) (c.release [k])).2 := by
  unfold reportDead retire
  cases removed : d.roster.remove? name with
  | none => exact .inl ⟨Roster.remove?_eq_none.mp removed, rfl⟩
  | some out =>
    obtain ⟨k, assigned, roster⟩ := out
    have found := (Roster.remove?_eq_some removed).1
    cases assigned with
    | none => exact .inr ⟨k, found, rfl⟩
    | some id => exact .inr ⟨k, found, rfl⟩

theorem handle?_reportDead (d : Dispatcher σ) (name m : String) :
    (d.reportDead c name).roster.handle? m = if m = name then none else d.roster.handle? m := by
  rw [(spares_reportDead c d name).roster]
  exact handle?_retire c d name m

theorem Named.reportDead {d : Dispatcher σ} (named : d.Named) (name : String) :
    (d.reportDead c name).Named := by
  intro n h found
  rw [handle?_reportDead] at found
  split at found
  · cases found
  · exact named n h found

/-- An instance whose name is reported dead leaves, and is given back. -/
theorem Named.shift_reportDead {d : Dispatcher σ} (named : d.Named) (h : Handle) (name : String) :
    Shift h False (fun how => how = .reported ∧ name = h.name) d (d.reportDead c name) := by
  rcases reportDead_cases c d name with ⟨-, same⟩ | ⟨k, found, same⟩
  · rw [same]
    exact .stays Iff.rfl rfl
  have enrolled' := (named.reportDead c name).enrolled_iff h
  rw [handle?_reportDead] at enrolled'
  have shown : Journal.about h (d.reportDead c name).journal = Journal.about h d.journal
      ++ if k = h then [.unwatched, .released] else [] := by
    rw [same, about_send, about_retire, found, List.append_assoc]
    by_cases here : k = h <;> simp [here, Errand.about]
  have own := named name k found
  by_cases here : k = h
  · subst here
    rw [if_pos rfl] at shown
    refine .leaves ⟨rfl, own.symm⟩ ((named.enrolled_iff k).mpr (own ▸ found)) (fun still => ?_) shown
    have still := enrolled'.mp still
    rw [if_pos own] at still
    cases still
  · rw [if_neg here, List.append_nil] at shown
    refine .stays ?_ shown
    rw [enrolled', named.enrolled_iff h]
    split
    · rename_i there
      rw [there, found, Option.some.injEq]
      exact iff_of_false nofun here
    · rfl

/-- Everybody who is on the roster is so once. -/
theorem Named.count_values {d : Dispatcher σ} (named : d.Named) (h : Handle) :
    d.roster.byName.values.count h = if d.Enrolled h then 1 else 0 := by
  split
  · rename_i on
    have found : d.roster.byName.get? h.name = some h := (named.enrolled_iff h).mp on
    rw [(d.roster.byName.values_perm_cons_erase found).count_eq, List.count_cons_self]
    have gone : h ∉ (d.roster.byName.erase h.name).values := by
      intro mem
      obtain ⟨n, still⟩ := (Table.mem_values_iff _).mp mem
      rw [Table.get?_erase] at still
      split at still
      · cases still
      · rename_i other
        exact other (named n h still).symm
    rw [List.count_eq_zero.mpr gone]
  · rename_i off
    exact List.count_eq_zero.mpr off

theorem about_letGo (d : Dispatcher σ) (workers : List Handle) (free : Bool) (h : Handle) :
    Journal.about h (d.letGo c workers free).journal = Journal.about h d.journal
      ++ List.replicate (workers.count h) .unwatched ++ List.replicate (workers.count h) .released := by
  have unwatched (d : Dispatcher σ) :
      Journal.about h (workers.foldl (fun d k => (d.send (.unwatch k) (c.unwatch k)).2) d).journal
        = Journal.about h d.journal ++ List.replicate (workers.count h) .unwatched := by
    induction workers generalizing d with
    | nil => simp
    | cons k workers ih =>
      rw [List.foldl_cons, ih, about_send, List.append_assoc]
      by_cases here : k = h
      · simp [here, Errand.about, List.replicate_succ]
      · simp [here, Errand.about]
  have last (d : Dispatcher σ) : Overlooks c d ((d.send .stopWatching c.stopWatching).2.send
      (.stopProvisioning free) (c.stopProvisioning free)).2 :=
    (Overlooks.of_sent (fun _ => rfl) (.send d .stopWatching rfl)).trans
      (.of_sent (fun _ => rfl) (.send _ (.stopProvisioning free) rfl))
  unfold letGo
  dsimp only
  rw [(last _).about h]
  split
  · rename_i nobody
    rw [List.isEmpty_iff.mp nobody]
    simp
  · rw [about_send, unwatched, Errand.about]

theorem overlooks_refuseParked (d : Dispatcher σ) : Overlooks c d d.refuseParked :=
  (does_refuseParked c d).overlooks fun a (here : a = .refuse) => here ▸ trivial

/-- Everybody leaves when the dispatcher stops, and is given back. -/
theorem Named.shift_terminate {d : Dispatcher σ} (named : d.Named) (h : Handle) (free : Bool) :
    Shift h False (fun how => how = .stopped) d (d.terminate c free) := by
  have off : ¬ (d.terminate c free).Enrolled h := by
    rw [Enrolled, roster_terminate]
    exact List.not_mem_nil
  have shown : Journal.about h (d.terminate c free).journal = Journal.about h d.journal
      ++ if d.Enrolled h then [.unwatched, .released] else [] := by
    have count : d.roster.drain.1.count h = _ := named.count_values h
    unfold terminate
    dsimp only
    rw [(overlooks_refuseParked c _).about, about_letGo, count]
    split <;> simp
  by_cases on : d.Enrolled h
  · rw [if_pos on] at shown
    exact .leaves rfl on off shown
  · rw [if_neg on, List.append_nil] at shown
    exact .stays (iff_of_false off on) shown

/-! ### What a move does -/

theorem Named.overlooked {d d₁ : Dispatcher σ} (named : d.Named) (overlooks : Overlooks c d d₁) :
    d₁.Named := by
  intro n h found
  rw [Roster.handle?, overlooks.byName] at found
  exact named n h found

/-- What a call does to an instance. -/
theorem Named.shift_serve {d : Dispatcher σ} (named : d.Named) (present : Attendance) (call : Call)
    (h : Handle) :
    Shift h (call.worker? = some h) ((Move.call present call : Move σ).Removes h) d
      (d.serve c present call) := by
  obtain ⟨caller, request⟩ := call
  have told (d : Dispatcher σ) (a : Answer) : Overlooks c d (d.answer caller a) := .answer d caller a
  have hand (d : Dispatcher σ) (k : Handle) : Overlooks c (d.register c k) (d.dispatch c k).2 :=
    (does_hand c d k).overlooks fun _ => Act.Hands.overlooks
  cases request with
  | requestTask k =>
    have shift := (named.shift_register c h k).overlooked (hand d k)
    refine (shift.overlooked (told _ _)).mono (congrArg some) ?_
    rintro _ ⟨rfl, other⟩
    exact ⟨k, rfl, other⟩
  | handIn r k =>
    have accept : Overlooks c d (d.acceptResult c r k) := by
      refine (does_acceptResult c d r k).overlooks fun a kind => ?_
      rcases kind with rfl | rfl
      · trivial
      · exact fun _ => rfl
    have shift := ((named.overlooked c accept).shift_register c h k).overlooked (hand _ k)
    refine ((shift.after accept).overlooked (told _ _)).mono (congrArg some) ?_
    rintro _ ⟨rfl, other⟩
    exact ⟨k, rfl, other⟩
  | reportDead name =>
    refine ((named.shift_reportDead c h name).overlooked (told _ _)).mono nofun ?_
    rintro _ ⟨rfl, rfl⟩
    exact ⟨present, ⟨caller, .reportDead h.name⟩, rfl, rfl⟩
  | terminate free =>
    refine ((named.shift_terminate c h free).overlooked (told _ _)).mono nofun ?_
    rintro _ rfl
    exact ⟨present, ⟨caller, .terminate free⟩, rfl, rfl⟩
  | submit | setOrder | countAvailable | isEmpty | poolSize | addResources | wait =>
    exact .of_overlooks (overlooks_serve c present d (by nofun) rfl)

/-- **What a move does to an instance.** It comes by a move of its own, or it leaves because of the move, or
neither, and what is done about it is in step with that. -/
theorem Named.shift_move {d : Dispatcher σ} (named : d.Named) (m : Move σ) (h : Handle) :
    Shift h (m.worker? = some h) (m.Removes h) d (d.move c m) := by
  cases m with
  | call present call =>
    show Shift h _ _ d (d.serveOrRefuse c present call)
    unfold serveOrRefuse
    split
    · exact .of_overlooks (.answer d call.caller _ : Overlooks c d _)
    · exact named.shift_serve c present call h
  | look present =>
    exact .of_overlooks ((does_serveParked c d present).overlooks fun _ => Act.Waits.overlooks)
  | outside change => exact .stays Iff.rfl rfl

/-! ### A run -/

theorem Move.departure_of_removes {h : Handle} {m : Move σ} {how : Departure} (removes : m.Removes h how) :
    m.departure = how := by
  cases how with
  | replaced =>
    obtain ⟨k, calls, -⟩ := removes
    cases m with
    | call present asked =>
      obtain ⟨caller, request⟩ := asked
      cases request <;> first | rfl | cases calls
    | look | outside => rfl
  | reported =>
    obtain ⟨present, asked, rfl, request⟩ := removes
    simp only [departure, request]
  | stopped =>
    obtain ⟨present, asked, rfl, stops⟩ := removes
    obtain ⟨free, request⟩ := asked.stops_iff.mp stops
    simp only [departure, request]

theorem departures_append (h : Handle) (d : Dispatcher σ) (ms ms' : List (Move σ)) :
    departures c h d (ms ++ ms') = departures c h d ms ++ departures c h (d.moves c ms) ms' := by
  induction ms generalizing d with
  | nil => rfl
  | cons m ms ih =>
    rw [List.cons_append, departures, ih, departures, List.append_assoc]
    rfl

theorem bedded_start (order : DeliveryOrder) (world : σ) : (start order world).Bedded := ⟨nofun, nofun⟩

/-- What was done about an instance in a run: one spell after another, and the beginning of another one if it
is on the roster. -/
theorem about_moves {d : Dispatcher σ} (bedded : d.Bedded) {h : Handle} (off : ¬ d.Enrolled h)
    (ms : List (Move σ)) :
    (d.moves c ms).Bedded ∧
      Journal.about h (d.moves c ms).journal = Journal.about h d.journal
        ++ (departures c h d ms).flatMap Departure.spell
        ++ if (d.moves c ms).Enrolled h then [.watched] else [] := by
  induction ms using List.reverseRecOn with
  | nil => simp [departures, off, bedded]
  | append_singleton ms m ih =>
    obtain ⟨bedded, about⟩ := ih
    have last : d.moves c (ms ++ [m]) = (d.moves c ms).move c m := moves_append ..
    rw [last, departures_append, departures, departures]
    refine ⟨bedded.move c m, ?_⟩
    have shift := Named.shift_move c bedded.named m h
    generalize d.moves c ms = d₁ at about shift ⊢
    cases shift with
    | stays same shown =>
      have neither : ¬ (d₁.Enrolled h ∧ ¬ (d₁.move c m).Enrolled h) := fun both => both.2 (same.mpr both.1)
      rw [shown, about, if_neg neither]
      simp [same]
    | comes _ off on shown =>
      rw [if_neg off] at about
      have neither : ¬ (d₁.Enrolled h ∧ ¬ (d₁.move c m).Enrolled h) := fun both => off both.1
      rw [shown, about, if_neg neither, if_pos on]
      simp
    | leaves because on off shown =>
      rw [if_pos on] at about
      rw [shown, about, if_pos ⟨on, off⟩, if_neg off, Move.departure_of_removes because]
      simp [Departure.spell]

/-- A dispatcher that has stopped, or stops by a move, has nobody on the roster. -/
theorem byName_move_of_closed {d : Dispatcher σ} (empty : d.closed = true → d.roster.byName = ∅)
    (m : Move σ) (stopped : (d.move c m).closed = true) : (d.move c m).roster.byName = ∅ := by
  cases m with
  | call present call =>
    by_cases stops : call.stops = true
    · obtain ⟨free, asked⟩ := call.stops_iff.mp stops
      show (d.serveOrRefuse c present call).roster.byName = ∅
      unfold serveOrRefuse
      split
      · exact empty ‹_›
      · rw [serve_terminate c asked]
        exact congrArg Roster.byName (roster_terminate c d free)
    · have running : (d.serveOrRefuse c present call).closed = d.closed :=
        closed_serveOrRefuse c present d (Bool.eq_false_iff.mpr stops)
      have closed : d.closed = true := running.symm.trans stopped
      show (d.serveOrRefuse c present call).roster.byName = ∅
      rw [serveOrRefuse, if_pos closed]
      exact empty closed
  | look present =>
    have closed : d.closed = true := (closed_serveParked present d).symm.trans stopped
    have look := (does_serveParked c d present).overlooks fun _ => Act.Waits.overlooks
    exact look.byName.trans (empty closed)
  | outside change => exact empty stopped

theorem byName_of_closed (order : DeliveryOrder) (world : σ) (ms : List (Move σ)) :
    ((start order world).moves c ms).closed = true →
      ((start order world).moves c ms).roster.byName = ∅ := by
  induction ms using List.reverseRecOn with
  | nil => exact fun _ => rfl
  | append_singleton ms m ih =>
    have last : (start order world).moves c (ms ++ [m]) = ((start order world).moves c ms).move c m :=
      moves_append ..
    rw [last]
    exact byName_move_of_closed c ih m

/-- In spells, and in the beginning of another one, watching begins and ends by turns. -/
theorem watching_turns (spells : List Departure) (on : Prop) [Decidable on] :
    let turns := (spells.flatMap Departure.spell ++ if on then [Concern.watched] else []).filter
      (· ≠ .released)
    turns.IsChain (· ≠ ·) ∧ (∀ first ∈ turns.head?, first = .watched) ∧
      (turns.getLast? = some .watched ↔ on) := by
  induction spells with
  | nil => by_cases on <;> simp [*]
  | cons how spells ih =>
    have first : how.spell.filter (· ≠ .released) = [.watched, .unwatched] := by cases how <;> rfl
    rw [List.flatMap_cons, List.append_assoc, List.filter_append, first]
    generalize (spells.flatMap Departure.spell ++ _).filter _ = turns at ih ⊢
    obtain ⟨chain, head, last⟩ := ih
    refine ⟨?_, by simp, ?_⟩
    · have apart : ∀ next ∈ turns.head?, Concern.unwatched ≠ next := by
        intro next mem
        rw [head next mem]
        exact nofun
      exact .cons_cons nofun (chain.cons apart)
    · cases turns with
      | nil => simpa using last
      | cons turn turns => simpa using last

/-- **Whoever is on the roster is watched, and nobody else is.** Take any run, whatever errands fail in it,
and any instance of a worker. What was done about it are spells: it is watched, and watched no more when it
leaves the roster; and then it is given back if its name was reported dead or the dispatcher stopped, and not
if another instance with its name has come. If it is on the roster after the run, it is watched once more,
and otherwise there is nothing more. So watching begins and ends by turns, and it has begun last just in case
the instance is on the roster. Nobody is when the dispatcher has stopped. -/
theorem watched_as_enrolled (order : DeliveryOrder) (world : σ) (ms : List (Move σ)) (h : Handle) :
    let d := (start order world).moves c ms
    let watching := (Journal.about h d.journal).filter (· ≠ .released)
    Journal.about h d.journal = (departures c h (start order world) ms).flatMap Departure.spell
        ++ (if d.Enrolled h then [.watched] else []) ∧
      (∀ before m after, ms = before ++ m :: after →
        let d₁ := (start order world).moves c before
        d₁.Enrolled h → ¬ (d₁.move c m).Enrolled h → m.Removes h m.departure) ∧
      (watching.IsChain (· ≠ ·) ∧ ∀ first ∈ watching.head?, first = .watched) ∧
      (watching.getLast? = some .watched ↔ d.Enrolled h) ∧
      (d.closed = true → d.roster.byName.values = []) := by
  intro d watching
  have bedded := bedded_start order world
  have about := (about_moves c bedded (h := h) List.not_mem_nil ms).2
  obtain ⟨chain, head, last⟩ := watching_turns (departures c h (start order world) ms) (d.Enrolled h)
  have same : watching = _ := congrArg (List.filter (· ≠ .released)) about
  rw [same]
  refine ⟨about, ?_, ⟨chain, head⟩, last, fun stopped => ?_⟩
  · rintro before m after rfl d₁ on off
    have named : d₁.Named := (about_moves c bedded (h := h) List.not_mem_nil before).1.named
    have shift := named.shift_move c m h
    cases shift with
    | stays same => exact absurd (same.mpr on) off
    | comes _ off => exact absurd on off
    | leaves because => exact Move.departure_of_removes because ▸ because
  · rw [byName_of_closed c order world ms stopped]
    rfl

/-- A worker is restarted, and its new instance is reported dead, comes back, and is there when the dispatcher
stops. -/
def comings : List (Move Vault) :=
  [.call {} ⟨0, .requestTask ⟨0, "ann"⟩⟩,
    .call {} ⟨1, .requestTask ⟨1, "ann"⟩⟩,
    .call {} ⟨2, .reportDead "ann"⟩,
    .call {} ⟨3, .requestTask ⟨1, "ann"⟩⟩,
    .call {} ⟨4, .terminate true⟩]

/-- The old instance is not given back, and the new one is each time, although all errands fail. -/
theorem watched_as_enrolled_comings :
    let c := Collaborators.ofVault.failing (fun _ => true) "out of reach"
    let d := (start .completion {}).moves c comings
    departures c ⟨0, "ann"⟩ (start .completion {}) comings = [.replaced] ∧
      Journal.about ⟨0, "ann"⟩ d.journal = [.watched, .unwatched] ∧
      departures c ⟨1, "ann"⟩ (start .completion {}) comings = [.reported, .stopped] ∧
      Journal.about ⟨1, "ann"⟩ d.journal
        = [.watched, .unwatched, .released, .watched, .unwatched, .released] := by
  intro c d
  have old : departures c ⟨0, "ann"⟩ (start .completion {}) comings = [.replaced] := by decide
  have new : departures c ⟨1, "ann"⟩ (start .completion {}) comings = [.reported, .stopped] := by decide
  have off : d.roster.byName.values = [] := by decide
  have none (h : Handle) : ¬ d.Enrolled h := by simp [Enrolled, off]
  have about (h : Handle) : Journal.about h d.journal = _ :=
    (watched_as_enrolled c .completion {} comings h).1
  refine ⟨old, ?_, new, ?_⟩
  · rw [about, if_neg (none _), old]
    rfl
  · rw [about, if_neg (none _), new]
    rfl

end Dispatcher

end WorkFarm
