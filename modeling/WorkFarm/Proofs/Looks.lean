import WorkFarm.Proofs.Backlog
import WorkFarm.Proofs.Moves
import WorkFarm.Proofs.Outbox
/-!
# Looking at the parked wait

A dispatcher has room for one wait that has to stay. The wait is looked at when another one comes in,
when it was parked itself, and at the end of every batch, and what a look comes to depends on who is
there, on what is ready and on what is owed. There are five ways, and `look_serveParked` lists them with
the state that each of them leaves. So nobody else has to look into the function that looks.

A wait stays only if it has a reason to: results are missing, and those that are missing may come. The
other way round, a wait with a reason to stay does stay while its caller is there, and a wait for which
there are results enough is answered with them.

## Main definitions

* `Wait.Ready`, `Wait.Blocked`, `Wait.Valid` — what there is for a wait
* `Wait.Suits` — an answer with the results that a wait asks for
* `Dispatcher.Look` — what looking at the parked wait can come to

## Main statements

* `look_serveParked` — every look comes to one of these
* `blocked_of_parked_serveParked`, `serveParked_of_blocked` — what stays, and what has to
* `serveParked_of_ready` — a wait for which there is enough is answered
-/

namespace WorkFarm

universe u

/-- The results that an answer brings. -/
def Answer.delivery : Answer → List TaskResult
  | .result r => [r]
  | .results rs => rs
  | _ => []

namespace Wait

/-- There are results enough for a wait. -/
def Ready (o : Outbox) : Wait → Prop
  | .one => 1 ≤ o.countAvailable
  | .all => o.countPending = 0 ∧ 1 ≤ o.countAvailable
  | .exactly k => k ≤ o.countAvailable

/-- A wait has a reason to stay: results are missing, and those that are missing may come. -/
def Blocked (o : Outbox) : Wait → Prop
  | .one => o.countAvailable = 0
  | .all => 0 < o.countPending ∨ o.countAvailable = 0
  | .exactly k => 1 ≤ k ∧ k ≤ o.countPending + o.countAvailable ∧ o.countAvailable < k

/-- The count of a wait is positive, and not more than what is owed or ready. -/
def Valid (o : Outbox) : Wait → Prop
  | .exactly k => 1 ≤ k ∧ k ≤ o.countPending + o.countAvailable
  | _ => True

/-- The answer brings the results that a wait asks for. -/
def Suits (a : Answer) : Wait → Prop
  | .one => ∃ r, a = .result r
  | .all => ∃ rs, rs ≠ [] ∧ a = .results rs
  | .exactly k => ∃ rs, rs.length = k ∧ a = .results rs

variable {o o' : Outbox}

theorem blocked_iff (w : Wait) : w.Blocked o ↔ w.Valid o ∧ ¬ w.Ready o := by
  cases w with
  | one => simp only [Blocked, Valid, Ready, true_and]; omega
  | all => simp only [Blocked, Valid, Ready, true_and]; omega
  | exactly k => simp only [Blocked, Valid, Ready]; omega

theorem Valid.mono {w : Wait} (valid : w.Valid o)
    (total : o.countPending + o.countAvailable ≤ o'.countPending + o'.countAvailable) :
    w.Valid o' := by
  cases w with
  | one | all => trivial
  | exactly k => exact ⟨valid.1, Nat.le_trans valid.2 total⟩

end Wait

theorem Outbox.restoreFront_takeFirst (o : Outbox) (k : Nat) :
    (o.takeFirst k).2.restoreFront (o.takeFirst k).1 = o := by
  simp [takeFirst, restoreFront]

theorem Outbox.areAllAvailable_iff (o : Outbox) : o.areAllAvailable = true ↔ Wait.all.Ready o := by
  simp [areAllAvailable, isOneAvailable, Wait.Ready, countAvailable, Nat.one_le_iff_ne_zero]

namespace Dispatcher

variable {σ : Type u}

/-! ### What a look can come to -/

/-- What looking at the parked wait can come to. -/
inductive Look (present : Attendance) (d : Dispatcher σ) : Dispatcher σ → Prop
  /-- No wait is parked. -/
  | idle (free : d.parked = none) : Look present d d
  /-- The caller has gone, or leaves while the answer is on its way. -/
  | dropped {caller : Nat} {w : Wait} (parked : d.parked = some (caller, w))
    (away : present.gone caller = true ∨ present.leaves caller = true ∧ w.Ready d.outbox) :
    Look present d (record { d with parked := none } (.dropped caller))
  /-- The wait stays. -/
  | stays {caller : Nat} {w : Wait} (parked : d.parked = some (caller, w))
    (here : present.gone caller = false) (blocked : w.Blocked d.outbox) : Look present d d
  /-- There will never be results enough. -/
  | refused {caller k : Nat} (parked : d.parked = some (caller, .exactly k))
    (here : present.gone caller = false) (never : ¬ (Wait.exactly k).Valid d.outbox) :
    Look present d (answer { d with parked := none } caller
      (.refused (.invalidWaitCount k (d.outbox.countPending + d.outbox.countAvailable))))
  /-- The first `k` results are delivered. -/
  | served {caller : Nat} {w : Wait} {a : Answer} (k : Nat) (parked : d.parked = some (caller, w))
    (here : present.gone caller = false) (waits : present.leaves caller = false)
    (ready : w.Ready d.outbox) (suits : w.Suits a)
    (bears : a.delivery = (d.outbox.takeFirst k).1) :
    Look present d (answer { d with
      backlog := d.backlog.forgetAll (d.outbox.takeFirst k).1
      outbox := (d.outbox.takeFirst k).2
      parked := none } caller a)

theorem look_deliver (present : Attendance) {d : Dispatcher σ} {caller k : Nat} {w : Wait}
    {a : Answer} (parked : d.parked = some (caller, w)) (here : present.gone caller = false)
    (ready : w.Ready d.outbox) (suits : w.Suits a)
    (bears : a.delivery = (d.outbox.takeFirst k).1) :
    Look present d
      (d.deliver present caller a (d.outbox.takeFirst k).1 (d.outbox.takeFirst k).2) := by
  unfold deliver
  split
  · rename_i left
    rw [Outbox.restoreFront_takeFirst]
    exact .dropped parked (.inr ⟨left, ready⟩)
  · rename_i waits
    exact .served k parked here (Bool.eq_false_iff.mpr waits) ready suits bears

/-- **Every look at the parked wait comes to one of these.** -/
theorem look_serveParked (present : Attendance) (d : Dispatcher σ) :
    Look present d (d.serveParked present) := by
  unfold serveParked
  split
  · exact .idle ‹_›
  · rename_i caller w parked
    split
    · exact .dropped parked (.inl ‹_›)
    · rename_i came
      have here := Bool.eq_false_iff.mpr came
      cases w with
      | one =>
        dsimp only
        split
        · rename_i empty
          refine .stays parked here ?_
          unfold Outbox.takeOne? at empty
          split at empty
          · rename_i none
            simp [Wait.Blocked, Outbox.countAvailable, none]
          · cases empty
        · rename_i r outbox taken
          have first := Outbox.takeFirst_one_of_takeOne? taken
          have ready : Wait.one.Ready d.outbox := by
            have split := congrArg Prod.fst first
            have length := congrArg List.length split
            simp only [Outbox.takeFirst, List.length_take, List.length_singleton] at length
            simp only [Wait.Ready, Outbox.countAvailable]
            omega
          have look := look_deliver present parked here ready ⟨r, rfl⟩ (k := 1)
            (by rw [first]; rfl)
          simpa only [first] using look
      | all =>
        dsimp only
        split
        · rename_i all
          have ready := d.outbox.areAllAvailable_iff.mp all
          rw [Outbox.takeAll_eq_takeFirst]
          refine look_deliver present parked here ready ⟨_, ?_, rfl⟩ rfl
          have some := List.length_pos_iff.mp ready.2
          simpa [Outbox.takeFirst] using some
        · rename_i some
          refine .stays parked here (Wait.all.blocked_iff.mpr ⟨trivial, ?_⟩)
          rwa [d.outbox.areAllAvailable_iff] at some
      | exactly k =>
        dsimp only
        split
        · rename_i bad
          refine .refused parked here fun valid => ?_
          have low := valid.1
          have high := valid.2
          omega
        · rename_i good
          rw [not_or, Nat.not_lt] at good
          have valid : (Wait.exactly k).Valid d.outbox := ⟨Nat.one_le_iff_ne_zero.mpr good.1, good.2⟩
          split
          · rename_i few
            exact .stays parked here ⟨valid.1, valid.2, few⟩
          · rename_i enough
            have ready : (Wait.exactly k).Ready d.outbox := Nat.le_of_not_lt enough
            refine look_deliver present parked here ready ⟨_, ?_, rfl⟩ rfl
            exact List.length_take_of_le ready

/-- What is parked after a look was parked before, its caller is there, and it has a reason to stay.
Nothing else was done. -/
theorem blocked_of_parked_serveParked {present : Attendance} {d : Dispatcher σ} {caller : Nat}
    {w : Wait} (parked : (d.serveParked present).parked = some (caller, w)) :
    d.serveParked present = d ∧ present.gone caller = false ∧ w.Blocked d.outbox := by
  have look := look_serveParked present d
  generalize d.serveParked present = d' at look parked
  cases look with
  | idle free =>
    rw [free] at parked
    cases parked
  | stays before here blocked =>
    rw [before] at parked
    cases parked
    exact ⟨rfl, here, blocked⟩
  | dropped | refused | served => cases parked

/-- A wait with a reason to stay stays, as long as its caller is there. -/
theorem serveParked_of_blocked {present : Attendance} {d : Dispatcher σ} {caller : Nat} {w : Wait}
    (parked : d.parked = some (caller, w)) (here : present.gone caller = false)
    (blocked : w.Blocked d.outbox) : d.serveParked present = d := by
  have unready := (w.blocked_iff.mp blocked).2
  have look := look_serveParked present d
  generalize d.serveParked present = d' at look ⊢
  cases look with
  | idle | stays => rfl
  | dropped before away =>
    rw [parked] at before
    cases before
    rcases away with gone | ⟨-, ready⟩
    · rw [here] at gone
      cases gone
    · exact absurd ready unready
  | refused before _ never =>
    rw [parked] at before
    cases before
    exact absurd (Wait.blocked_iff _ |>.mp blocked).1 never
  | served _ before _ _ ready _ _ =>
    rw [parked] at before
    cases before
    exact absurd ready unready

/-- A wait for which there are results enough is answered with them, as long as its caller is there. -/
theorem serveParked_of_ready {present : Attendance} {d : Dispatcher σ} {caller : Nat} {w : Wait}
    (parked : d.parked = some (caller, w)) (here : present.gone caller = false)
    (waits : present.leaves caller = false) (valid : w.Valid d.outbox) (ready : w.Ready d.outbox) :
    ∃ a, w.Suits a ∧ (d.serveParked present).journal = d.journal ++ [.answered caller a] := by
  have look := look_serveParked present d
  generalize d.serveParked present = d' at look ⊢
  cases look with
  | idle free =>
    rw [free] at parked
    cases parked
  | dropped before away =>
    rw [parked] at before
    cases before
    rcases away with gone | ⟨left, -⟩
    · rw [here] at gone
      cases gone
    · rw [waits] at left
      cases left
  | stays before _ blocked =>
    rw [parked] at before
    cases before
    exact absurd ready (w.blocked_iff.mp blocked).2
  | refused before _ never =>
    rw [parked] at before
    cases before
    exact absurd valid never
  | served _ before _ _ _ suits _ =>
    rw [parked] at before
    cases before
    exact ⟨_, suits, rfl⟩

/-- What is parked after another wait came in has a reason to stay. -/
theorem blocked_of_parked_park {present : Attendance} {d : Dispatcher σ} {asking caller : Nat}
    {v w : Wait} (parked : (d.park present asking v).parked = some (caller, w)) :
    w.Blocked (d.park present asking v).outbox := by
  unfold park at parked ⊢
  dsimp only at parked ⊢
  split at parked
  · rename_i taken
    rw [if_pos taken]
    obtain ⟨same, -, blocked⟩ := blocked_of_parked_serveParked parked
    rw [same]
    exact blocked
  · rename_i free
    rw [if_neg free]
    obtain ⟨same, -, blocked⟩ := blocked_of_parked_serveParked parked
    rw [same]
    exact blocked

end Dispatcher

end WorkFarm
