import WorkFarm.Proofs.Aside
/-!
# What a call does not see

A call that passes does not ask who is parked, and nothing that the dispatcher does reads its journal. So
a passing call does the same whatever wait is parked, and whatever was written into the journal before:
it commutes with `Dispatcher.reseat`, which puts another wait into the place for the parked one, and
other entries in front of the journal. To stop the dispatcher does so, too, up to the point at which the
parked wait is refused.

This is what a comparison of two runs needs in which the parked waits and the journals differ: all the
rest of what a call does is then the same in both.

## Main definitions

* `Dispatcher.reseat` — another parked wait, and other entries in front of the journal

## Main statements

* `serve_reseat` — a passing call does not see the parked wait and the journal
-/

namespace WorkFarm

universe u

namespace Dispatcher

variable {σ : Type u} (c : Collaborators σ)

/-- The same dispatcher with another wait parked, and with entries put in front of its journal. -/
def reseat (parked : Option (Nat × Wait)) (front : Journal) (d : Dispatcher σ) : Dispatcher σ :=
  { d with parked, journal := front ++ d.journal }

variable (parked : Option (Nat × Wait)) (front : Journal) (d : Dispatcher σ)

theorem record_reseat (e : Entry) :
    (d.reseat parked front).record e = (d.record e).reseat parked front := by
  simp only [record, reseat, List.append_assoc]

theorem send_reseat {ε α : Type} (e : Errand) (run : σ → Except ε α × σ) :
    (d.reseat parked front).send e run
      = ((d.send e run).1, (d.send e run).2.reseat parked front) :=
  congrArg (Prod.mk _) (record_reseat parked front { d with world := (run d.world).2 } _)

/-- What is done step by step without seeing them is done without seeing them. -/
theorem foldl_reseat {α : Type} {step : Dispatcher σ → α → Dispatcher σ}
    (commute : ∀ a d, step (reseat parked front d) a = (step d a).reseat parked front)
    (as : List α) :
    as.foldl step (d.reseat parked front) = (as.foldl step d).reseat parked front :=
  List.foldl_hom (reseat parked front) fun d a => commute a d

theorem wakeSleepers_reseat :
    (d.reseat parked front).wakeSleepers c = (d.wakeSleepers c).reseat parked front :=
  foldl_reseat parked front d (fun h d =>
    record_reseat parked front { d with world := c.wake h d.world } (.errand (.wake h) true)) _

theorem requeue_reseat (id : TaskId) :
    (d.reseat parked front).requeue c id = (d.requeue c id).reseat parked front := by
  have backlog : (d.reseat parked front).backlog = d.backlog := rfl
  cases back : d.backlog.requeue? id with
  | none => simp [requeue, backlog, back]
  | some backlog' =>
    have woken := wakeSleepers_reseat c parked front { d with backlog := backlog' }
    simp only [requeue, backlog, back]
    split
    · exact woken
    · rfl

theorem retire_reseat (name : String) :
    (d.reseat parked front).retire c name
      = ((d.retire c name).1, (d.retire c name).2.reseat parked front) := by
  have roster : (d.reseat parked front).roster = d.roster := rfl
  cases out : d.roster.remove? name with
  | none => simp [retire, roster, out]
  | some out' =>
    obtain ⟨h, assigned, roster'⟩ := out'
    have sent : send { d.reseat parked front with roster := roster' } (.unwatch h) (c.unwatch h) = _ :=
      send_reseat parked front { d with roster := roster' } (.unwatch h) (c.unwatch h)
    simp only [retire, roster, out, sent]
    cases assigned with
    | none => rfl
    | some id => simp only [requeue_reseat]

theorem enroll_reseat (h : Handle) :
    register.enroll c h (d.reseat parked front) = (register.enroll c h d).reseat parked front := by
  have roster : (d.reseat parked front).roster = d.roster := rfl
  cases entered : d.roster.register? h with
  | none => simp only [register.enroll, roster, entered]
  | some roster' =>
    have sent : send { d.reseat parked front with roster := roster' } (.watch h) (c.watch h) = _ :=
      send_reseat parked front { d with roster := roster' } (.watch h) (c.watch h)
    simp only [register.enroll, roster, entered, sent]

theorem register_reseat (h : Handle) :
    (d.reseat parked front).register c h = (d.register c h).reseat parked front := by
  have roster : (d.reseat parked front).roster = d.roster := rfl
  unfold register
  rw [roster]
  split
  · split
    · rfl
    · rw [retire_reseat, enroll_reseat]
  · exact enroll_reseat c parked front d h

theorem dispatch_reseat (h : Handle) :
    (d.reseat parked front).dispatch c h
      = ((d.dispatch c h).1, (d.dispatch c h).2.reseat parked front) := by
  unfold dispatch
  rw [register_reseat]
  generalize d.register c h = d
  have backlog : (d.reseat parked front).backlog = d.backlog := rfl
  cases next : d.backlog.launchNext? with
  | none =>
    simp only [backlog, next]
    rfl
  | some next' =>
    obtain ⟨id, backlog'⟩ := next'
    have sent : send ((d.reseat parked front).launch h.name id backlog') (.fetch id) (c.fetch id) = _ :=
      send_reseat parked front (d.launch h.name id backlog') (.fetch id) (c.fetch id)
    simp only [backlog, next, sent]
    generalize (d.launch h.name id backlog').send (.fetch id) (c.fetch id) = fetched
    obtain ⟨outcome, d₁⟩ := fetched
    cases outcome with
    | error e => rfl
    | ok task => simp only [send_reseat]

theorem acceptResult_reseat (r : TaskResult) (h : Handle) :
    (d.reseat parked front).acceptResult c r h = (d.acceptResult c r h).reseat parked front := by
  have backlog : (d.reseat parked front).backlog = d.backlog := rfl
  cases done : d.backlog.complete? r.id with
  | none => simp only [acceptResult, backlog, done]
  | some backlog' =>
    have roster : (d.reseat parked front).roster = d.roster := rfl
    simp only [acceptResult, backlog, roster, done]
    generalize (if d.roster.assignment? h.name = some r.id then _ else d.roster) = roster'
    change (send (record (reseat parked front { d with
      backlog := backlog', roster := roster', outbox := d.outbox.addCompleted r }) _) _ _).2 = _
    rw [record_reseat, send_reseat]

theorem reportDead_reseat (name : String) :
    (d.reseat parked front).reportDead c name = (d.reportDead c name).reseat parked front := by
  unfold reportDead
  rw [retire_reseat]
  generalize d.retire c name = out
  obtain ⟨gone, d₁⟩ := out
  cases gone with
  | none => rfl
  | some h => simp only [send_reseat]

theorem submitOne_reseat (id : TaskId) :
    (d.reseat parked front).submitOne id = (d.submitOne id).reseat parked front := by
  have backlog : (d.reseat parked front).backlog = d.backlog := rfl
  cases entered : d.backlog.enqueue? id with
  | none => simp only [submitOne, backlog, entered]
  | some backlog' =>
    simp only [submitOne, backlog, entered]
    exact record_reseat parked front { d with
      backlog := backlog', outbox := d.outbox.addPending id } (.admitted id)

theorem submit_reseat (ids : List TaskId) :
    (d.reseat parked front).submit c ids = (d.submit c ids).reseat parked front := by
  have enter : ids.foldl submitOne (d.reseat parked front) = _ :=
    foldl_reseat parked front d (fun id d => submitOne_reseat parked front d id) ids
  unfold submit
  rw [enter]
  dsimp only
  generalize ids.foldl submitOne d = d₁
  change (if d.backlog.pending.isEmpty && !d₁.backlog.pending.isEmpty then _ else _) = _
  split
  · exact wakeSleepers_reseat c parked front d₁
  · rfl

theorem letGo_reseat (workers : List Handle) (free : Bool) :
    (d.reseat parked front).letGo c workers free = (d.letGo c workers free).reseat parked front := by
  have unwatched : workers.foldl (fun d h => (d.send (.unwatch h) (c.unwatch h)).2)
      (d.reseat parked front) = _ :=
    foldl_reseat parked front d (fun h d => congrArg Prod.snd (send_reseat parked front d _ _)) workers
  unfold letGo
  rw [unwatched]
  dsimp only
  generalize workers.foldl _ d = d₁
  split
  · simp only [send_reseat]
  · simp only [send_reseat]

/-- Whoever is parked, and whatever the journal says, the dispatcher stops in the same way until it comes
to refuse the parked wait. -/
theorem terminate_reseat (free : Bool) :
    ∃ d₁ : Dispatcher σ, Aside (fun _ => False) { d with closed := true } d₁ ∧
      ∀ parked front, (d.reseat parked front).terminate c free
        = (d₁.reseat parked front).refuseParked := by
  have forget : Aside (fun _ => False) { d with closed := true } { d with
      backlog := {}, outbox := d.outbox.clear, roster := d.roster.drain.2, closed := true } :=
    .of_eq rfl rfl rfl
  refine ⟨_, forget.trans (.of_errands (errands_letGo c _ d.roster.drain.1 free)), ?_⟩
  intro parked front
  exact congrArg refuseParked (letGo_reseat c parked front { d with
    backlog := {}, outbox := d.outbox.clear, roster := d.roster.drain.2, closed := true } _ free)

/-- **A passing call does not see who is parked, nor what was written into the journal.** -/
theorem serve_reseat (present : Attendance) {call : Call} (passes : call.Passes) :
    (d.reseat parked front).serve c present call = (d.serve c present call).reseat parked front := by
  obtain ⟨caller, request⟩ := call
  have answered (a : Answer) (d : Dispatcher σ) :
      (d.reseat parked front).answer caller a = (d.answer caller a).reseat parked front :=
    record_reseat parked front d (.answered caller a)
  cases request with
  | requestTask h => simp only [serve, dispatch_reseat, answered]
  | handIn r h => simp only [serve, acceptResult_reseat, dispatch_reseat, answered]
  | reportDead name => simp only [serve, reportDead_reseat, answered]
  | submit ids => simp only [serve, submit_reseat, answered]
  | setOrder order => exact answered .done { d with outbox := d.outbox.setOrder order }
  | countAvailable => exact answered _ d
  | isEmpty => exact answered _ d
  | poolSize => exact answered _ d
  | addResources r =>
    simp only [serve, send_reseat]
    generalize d.send (.addResources r) (c.addResources r) = sent
    obtain ⟨outcome, d₁⟩ := sent
    cases outcome with
    | ok _ => exact answered .done d₁
    | error e => exact answered (.refused (.provision e)) d₁
  | terminate free => exact absurd rfl (passes.2 free)
  | wait w => exact absurd rfl (passes.1 w)

theorem deliver_reseat (present : Attendance) (caller : Nat) (a : Answer) (rs : List TaskResult)
    (outbox : Outbox) :
    (d.reseat parked front).deliver present caller a rs outbox
      = (d.deliver present caller a rs outbox).reseat none front := by
  unfold deliver
  split
  · exact record_reseat none front { d with
      outbox := outbox.restoreFront rs, parked := none } (.dropped caller)
  · exact record_reseat none front { d with
      backlog := rs.foldl (fun b r => b.forgetCompleted r.id) d.backlog
      outbox
      parked := none } (.answered caller a)

theorem parked_deliver (present : Attendance) (caller : Nat) (a : Answer) (rs : List TaskResult)
    (outbox : Outbox) : (d.deliver present caller a rs outbox).parked = none := by
  unfold deliver
  split <;> rfl

/-- A look sees who is parked, but not what was written into the journal. -/
theorem serveParked_reseat (present : Attendance) :
    (d.reseat d.parked front).serveParked present
      = (d.serveParked present).reseat (d.serveParked present).parked front := by
  have outbox : (d.reseat d.parked front).outbox = d.outbox := rfl
  have same : (d.reseat d.parked front).parked = d.parked := rfl
  unfold serveParked
  rw [same, outbox]
  split
  · rfl
  · rename_i caller w parked
    split
    · exact record_reseat none front { d with parked := none } (.dropped caller)
    · cases w with
      | one =>
        dsimp only
        split
        · rfl
        · rw [deliver_reseat, parked_deliver]
      | all =>
        dsimp only
        split
        · rw [deliver_reseat, parked_deliver]
        · rfl
      | exactly k =>
        dsimp only
        split
        · exact record_reseat none front { d with parked := none } (.answered caller _)
        · split
          · rfl
          · rw [deliver_reseat, parked_deliver]

end Dispatcher

end WorkFarm
