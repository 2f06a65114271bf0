import WorkFarm.Proofs.Table
import WorkFarm.Roster
/-!
# The members of a roster

A roster keeps its members in two directions, names to instances and instances to names, and the tasks
they work on in a third table. `Roster.Sound` says that the two directions are inverse to each other and
that only members work on anything. Registering and removing preserve it. So does noting what a member
works on, which is why the dispatcher has to register a worker before it hands a task to it.

An instance is told from all others by its serial number, so what its name is depends on its serial
number only. This is the parameter `name`: with it, an instance that is not registered under its own
name is not registered at all (`Sound.register?_ne_none`).

## Main definitions

* `Roster.Sound` — names and instances correspond to each other, and only members have tasks
-/

namespace WorkFarm

namespace Roster

/-- Names and instances correspond to each other, and only members have tasks. -/
structure Sound (name : Nat → String) (r : Roster) : Prop where
  /-- An instance is registered under its name. -/
  named : ∀ n h, r.handle? n = some h → h.name = n ∧ name h.serial = n
  /-- Every instance that is registered under a name is listed. -/
  listed : ∀ n h, r.handle? n = some h → r.byHandle.get? h.serial = some n
  /-- Every instance that is listed is registered. -/
  registered : ∀ s n, r.byHandle.get? s = some n → ∃ h, r.handle? n = some h ∧ h.serial = s
  /-- Only members have tasks. -/
  assigned : ∀ n id, r.assignment? n = some id → ∃ h, r.handle? n = some h

variable {name : Nat → String} {r r' : Roster} {n : String} {h : Handle}

/-! ### What each operation does to members and tasks -/

@[simp] theorem byName_markSleeping (r : Roster) (n : String) :
    (r.markSleeping n).byName = r.byName := by
  unfold markSleeping
  split <;> rfl

@[simp] theorem byHandle_markSleeping (r : Roster) (n : String) :
    (r.markSleeping n).byHandle = r.byHandle := by
  unfold markSleeping
  split <;> rfl

@[simp] theorem assignments_markSleeping (r : Roster) (n : String) :
    (r.markSleeping n).assignments = r.assignments := by
  unfold markSleeping
  split <;> rfl

theorem assignment?_assign (r : Roster) (n m : String) (id : TaskId) :
    (r.assign n id).assignment? m = if m = n then some id else r.assignment? m :=
  Table.get?_insert ..

theorem assignment?_clearAssignment (r : Roster) (n m : String) :
    (r.clearAssignment n).assignment? m = if m = n then none else r.assignment? m :=
  Table.get?_erase ..

theorem register?_eq_some (registered : r.register? h = some r') :
    r.handle? h.name = none ∧ r.byHandle.get? h.serial = none ∧
      (∀ m, r'.handle? m = if m = h.name then some h else r.handle? m) ∧
      (∀ s, r'.byHandle.get? s = if s = h.serial then some h.name else r.byHandle.get? s) ∧
      (∀ m, r'.assignment? m = r.assignment? m) := by
  unfold register? at registered
  split at registered
  · cases registered
  · rename_i free
    cases registered
    rw [not_or, Bool.not_eq_true, Bool.not_eq_true, Table.contains, Table.contains,
      Option.isSome_eq_false_iff, Option.isSome_eq_false_iff, Option.isNone_iff_eq_none,
      Option.isNone_iff_eq_none] at free
    exact ⟨free.1, free.2, fun _ => Table.get?_insert .., fun _ => Table.get?_insert ..,
      fun _ => rfl⟩

theorem remove?_eq_none : r.remove? n = none ↔ r.handle? n = none := by
  simp [remove?]

theorem remove?_eq_some {assigned : Option TaskId} (removed : r.remove? n = some (h, assigned, r')) :
    r.handle? n = some h ∧ assigned = r.assignment? n ∧
      (∀ m, r'.handle? m = if m = n then none else r.handle? m) ∧
      (∀ s, r'.byHandle.get? s = if s = h.serial then none else r.byHandle.get? s) ∧
      (∀ m, r'.assignment? m = if m = n then none else r.assignment? m) := by
  simp only [remove?, Option.map_eq_some_iff, Prod.mk.injEq] at removed
  obtain ⟨_, found, rfl, rfl, rfl⟩ := removed
  exact ⟨found, rfl, fun _ => Table.get?_erase .., fun _ => Table.get?_erase ..,
    fun _ => Table.get?_erase ..⟩

/-! ### Soundness is preserved -/

namespace Sound

theorem empty : Sound name {} := by
  refine ⟨fun _ _ found => ?_, fun _ _ found => ?_, fun _ _ found => ?_, fun _ _ found => ?_⟩
  all_goals cases found

/-- A name without an instance has no task. -/
theorem assignment?_eq_none (sound : r.Sound name) (free : r.handle? n = none) :
    r.assignment? n = none := by
  cases assigned : r.assignment? n with
  | none => rfl
  | some id =>
    obtain ⟨h, found⟩ := sound.assigned n id assigned
    rw [free] at found
    cases found

/-- The members are the same, and none but members have tasks. -/
theorem of_members (sound : r.Sound name) (byName : r'.byName = r.byName)
    (byHandle : r'.byHandle = r.byHandle)
    (assigned : ∀ m id, r'.assignment? m = some id → ∃ h, r.handle? m = some h) :
    r'.Sound name := by
  have handle : ∀ m, r'.handle? m = r.handle? m := fun m => by rw [handle?, byName, handle?]
  refine ⟨?_, ?_, ?_, ?_⟩
  · intro m h found
    rw [handle] at found
    exact sound.named m h found
  · intro m h found
    rw [handle] at found
    exact byHandle ▸ sound.listed m h found
  · intro s m found
    rw [byHandle] at found
    simpa only [handle] using sound.registered s m found
  · intro m id found
    simpa only [handle] using assigned m id found

theorem register? (sound : r.Sound name) (own : h.name = name h.serial)
    (registered : r.register? h = some r') : r'.Sound name := by
  obtain ⟨free, unlisted, handles, serials, assignments⟩ := register?_eq_some registered
  refine ⟨?_, ?_, ?_, ?_⟩
  · intro m k found
    rw [handles] at found
    split at found
    · rename_i here
      cases found
      exact ⟨here.symm, own.symm.trans here.symm⟩
    · exact sound.named m k found
  · intro m k found
    rw [handles] at found
    rw [serials]
    split at found
    · rename_i here
      cases found
      rw [if_pos rfl, here]
    · have listed := sound.listed m k found
      -- the new serial number was not listed, so it is not that of a member
      have other : k.serial ≠ h.serial := fun same => by
        rw [same, unlisted] at listed
        cases listed
      rw [if_neg other, listed]
  · intro s m found
    rw [serials] at found
    split at found
    · rename_i here
      cases found
      exact ⟨h, by rw [handles, if_pos rfl], here.symm⟩
    · obtain ⟨k, member, serial⟩ := sound.registered s m found
      have other : m ≠ h.name := fun same => by
        rw [same, free] at member
        cases member
      exact ⟨k, by rw [handles, if_neg other, member], serial⟩
  · intro m id found
    rw [assignments] at found
    obtain ⟨k, member⟩ := sound.assigned m id found
    have other : m ≠ h.name := fun same => by
      rw [same, free] at member
      cases member
    exact ⟨k, by rw [handles, if_neg other, member]⟩

theorem remove? (sound : r.Sound name) {assigned : Option TaskId}
    (removed : r.remove? n = some (h, assigned, r')) : r'.Sound name := by
  obtain ⟨found, -, handles, serials, assignments⟩ := remove?_eq_some removed
  refine ⟨?_, ?_, ?_, ?_⟩
  · intro m k member
    rw [handles] at member
    split at member
    · cases member
    · exact sound.named m k member
  · intro m k member
    rw [handles] at member
    split at member
    · cases member
    · rename_i other
      -- one serial number has one name, and the names differ
      have apart : k.serial ≠ h.serial := fun same => by
        have key := (sound.named m k member).2
        rw [same, (sound.named n h found).2] at key
        exact other key.symm
      rw [serials, if_neg apart]
      exact sound.listed m k member
  · intro s m listed
    rw [serials] at listed
    split at listed
    · cases listed
    · rename_i apart
      obtain ⟨k, member, rfl⟩ := sound.registered s m listed
      have other : m ≠ n := fun same => by
        rw [same, found] at member
        cases member
        exact apart rfl
      exact ⟨k, by rw [handles, if_neg other, member], rfl⟩
  · intro m id task
    rw [assignments] at task
    split at task
    · cases task
    · rename_i other
      obtain ⟨k, member⟩ := sound.assigned m id task
      exact ⟨k, by rw [handles, if_neg other, member]⟩

/-- An instance whose name is free can be registered: it is not registered under another name. -/
theorem register?_ne_none (sound : r.Sound name) (own : h.name = name h.serial)
    (free : r.handle? h.name = none) : r.register? h ≠ none := by
  have unlisted : r.byHandle.get? h.serial = none := by
    cases listed : r.byHandle.get? h.serial with
    | none => rfl
    | some n =>
      obtain ⟨k, member, serial⟩ := sound.registered _ n listed
      have key := (sound.named n k member).2
      rw [serial, ← own] at key
      rw [key, member] at free
      cases free
  have free' : r.byName.get? h.name = none := free
  simp [Roster.register?, Table.contains, free', unlisted]

end Sound

end Roster

end WorkFarm
