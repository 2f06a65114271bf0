/-!
# Timelines

On a timeline events happen at times that are counted in milliseconds. No time passes while an event
happens: whatever it leads to at once is due at the same time, behind everything that is due then
already.

## Main definitions

* `Agenda`, `Agenda.add` — events to come, soonest first
* `Timeline` — the time, the agenda, and a state
* `Timeline.step?` — the soonest event happens
* `Timeline.advance`, `Timeline.settle` — everything up to a time, or up to now, happens
* `Timeline.runUntil` — as much happens as is needed

## Design

What an event does is a function, so a run is determined by the events that are set down. Events can lead
to new ones without end, at one and the same time; so the number of events that happen in one go is
limited by `patience`, far above what a farm needs.
-/

namespace WorkFarm

universe u v

/-- Events to come with the times at which they are due, soonest first. Of events that are due at one
time, the one that was set down first comes first. -/
abbrev Agenda (ε : Type u) := List (Nat × ε)

/-- Sets an event down behind all that are due by then. -/
def Agenda.add {ε : Type u} (due : Nat) (e : ε) : Agenda ε → Agenda ε
  | [] => [(due, e)]
  | x :: rest => if x.1 ≤ due then x :: Agenda.add due e rest else (due, e) :: x :: rest

/-- Events with the times that they are away. -/
abbrev Upcoming (ε : Type u) := List (Nat × ε)

/-- What an event does to a state at a time, and which events it leads to. -/
abbrev Reaction (ε : Type u) (σ : Type v) := Nat → ε → σ → Upcoming ε × σ

/-- A state in time. -/
structure Timeline (ε : Type u) (σ : Type v) where
  now : Nat := 0
  agenda : Agenda ε := []
  state : σ

namespace Timeline

variable {ε : Type u} {σ : Type v} (react : Reaction ε σ)

/-- Sets events down, one after another. -/
def post (t : Timeline ε σ) (events : Upcoming ε) : Timeline ε σ :=
  { t with agenda := events.foldl (fun a e => Agenda.add (t.now + e.1) e.2 a) t.agenda }

/-- Changes the state from outside, at once. -/
def act {α : Type v} (t : Timeline ε σ) (f : σ → α × Upcoming ε × σ) : α × Timeline ε σ :=
  let (a, events, state) := f t.state
  (a, post { t with state } events)

/-- The soonest event happens, if it is due by `limit`. -/
def step? (limit : Nat) (t : Timeline ε σ) : Option (Timeline ε σ) :=
  match t.agenda with
  | [] => none
  | (due, e) :: agenda =>
    if limit < due then none
    else
      let now := max t.now due
      let (events, state) := react now e t.state
      some (post { now, agenda, state } events)

/-- At most `fuel` events happen, as long as they are due by `limit`. -/
def runTo (limit : Nat) : Nat → Timeline ε σ → Timeline ε σ
  | 0, t => t
  | fuel + 1, t =>
    match t.step? react limit with
    | none => t
    | some t => runTo limit fuel t

/-- How many events may happen in one go. -/
def patience : Nat := 10000000

/-- Everything that is due by a time has happened, and it is that time, unless it was later already. -/
def advanceTo (time : Nat) (t : Timeline ε σ) : Timeline ε σ :=
  let limit := max t.now time
  { t.runTo react limit patience with now := limit }

/-- Some milliseconds have passed. -/
def advance (ms : Nat) (t : Timeline ε σ) : Timeline ε σ := t.advanceTo react (t.now + ms)

/-- Everything that is due now has happened. -/
def settle (t : Timeline ε σ) : Timeline ε σ := t.advance react 0

/-- At most `fuel` events happen, until `done` holds of the state. -/
def runWhile (done : σ → Bool) : Nat → Timeline ε σ → Timeline ε σ
  | 0, t => t
  | fuel + 1, t =>
    if done t.state then t
    else match t.agenda with
      | [] => t
      | (due, _) :: _ =>
        match t.step? react due with
        | none => t
        | some t => runWhile done fuel t

/-- As much has happened as is needed for `done`, and everything that is due then. -/
def runUntil (done : σ → Bool) (t : Timeline ε σ) : Timeline ε σ :=
  (t.runWhile react done patience).settle react

/-! ### The agenda stays in order -/

theorem mem_add {due : Nat} {e : ε} {x : Nat × ε} {a : Agenda ε} :
    x ∈ Agenda.add due e a ↔ x = (due, e) ∨ x ∈ a := by
  induction a with
  | nil => simp [Agenda.add]
  | cons y rest ih =>
    by_cases h : y.1 ≤ due
    · simp only [Agenda.add, h, if_true, List.mem_cons, ih]; grind
    · simp only [Agenda.add, h, if_false, List.mem_cons]

theorem sorted_add {due : Nat} {e : ε} {a : Agenda ε} (h : a.Pairwise (·.1 ≤ ·.1)) :
    (Agenda.add due e a).Pairwise (·.1 ≤ ·.1) := by
  induction a with
  | nil => simp [Agenda.add]
  | cons y rest ih =>
    rw [List.pairwise_cons] at h
    by_cases hy : y.1 ≤ due
    · simp only [Agenda.add, hy, if_true, List.pairwise_cons, mem_add]
      exact ⟨fun x hx => hx.elim (fun hx => by simpa [hx] using hy) (h.1 x), ih h.2⟩
    · simp only [Agenda.add, hy, if_false, List.pairwise_cons, List.mem_cons]
      exact ⟨fun x hx => hx.elim (fun hx => by rw [hx]; omega)
        (fun hx => by have := h.1 x hx; omega), h.1, h.2⟩

end Timeline

end WorkFarm
