import WorkFarm.Proofs.Answers
import WorkFarm.Proofs.Workers
/-!
# What the journal gains

The journal lists the errands of a dispatcher, and the world is what the errands have made of it. The two
go together: in every step, an errand is entered in the journal when it is run, and nothing else touches
the world. So the world after a call is the world before it, with the errands that the journal has gained
carried out in order (`Does.carries`). Whether an errand went well plays no part, for a collaborator that
fails says itself what becomes of the world.

Some of the errands are about an instance of a worker: it is to be watched, or watched no more, or is given
back. Most of what a dispatcher does is about none, and leaves the roster with the same instances on it
(`Overlooks`).

## Main definitions

* `Concern`, `Journal.about` — what was done about an instance
* `Entry.carriedOut` — what an entry says of the world
* `Dispatcher.Enrolled` — an instance is on the roster
* `Dispatcher.Carries` — what the journal has gained is what has happened to the world
* `Dispatcher.Overlooks` — nothing was done about any instance
-/

namespace WorkFarm

universe u

/-- What may be done about an instance of a worker. -/
inductive Concern where
  /-- It is to be watched. -/
  | watched
  /-- It is to be watched no more. -/
  | unwatched
  /-- It is given back. -/
  | released
deriving DecidableEq, Repr

/-- What an errand does about an instance. -/
def Errand.about (h : Handle) : Errand → List Concern
  | .watch k => if k = h then [.watched] else []
  | .unwatch k => if k = h then [.unwatched] else []
  | .release ks => List.replicate (ks.count h) .released
  | _ => []

def Entry.about (h : Handle) : Entry → List Concern
  | .errand e _ => e.about h
  | _ => []

/-- What was done about an instance, in order. -/
def Journal.about (h : Handle) (j : Journal) : List Concern := j.flatMap (Entry.about h)

theorem Journal.about_append (h : Handle) (j j' : Journal) :
    Journal.about h (j ++ j') = Journal.about h j ++ Journal.about h j' :=
  List.flatMap_append

/-- The world after an entry was made in the journal. -/
def Entry.carriedOut {σ : Type u} (c : Collaborators σ) (w : σ) : Entry → σ
  | .errand e _ => c.carry e w
  | _ => w

namespace Dispatcher

variable {σ : Type u} (c : Collaborators σ)

/-- An instance is on the roster. -/
def Enrolled (d : Dispatcher σ) (h : Handle) : Prop := h ∈ d.roster.byName.values

instance (d : Dispatcher σ) (h : Handle) : Decidable (d.Enrolled h) :=
  inferInstanceAs (Decidable (h ∈ d.roster.byName.values))

/-- The errands that the journal has gained are what has happened to the world. -/
def Carries (d d' : Dispatcher σ) : Prop :=
  ∃ es : Journal, d'.journal = d.journal ++ es ∧ d'.world = es.foldl (Entry.carriedOut c) d.world

namespace Carries

variable {c} {d d₁ d₂ : Dispatcher σ}

theorem of_eq (world : d₁.world = d.world) (journal : d₁.journal = d.journal) : Carries c d d₁ :=
  ⟨[], by rw [journal, List.append_nil], world⟩

theorem refl (d : Dispatcher σ) : Carries c d d := of_eq rfl rfl

theorem trans (h₁ : Carries c d d₁) (h₂ : Carries c d₁ d₂) : Carries c d d₂ := by
  obtain ⟨es, journal, world⟩ := h₁
  obtain ⟨es', journal', world'⟩ := h₂
  refine ⟨es ++ es', ?_, ?_⟩
  · rw [journal', journal, List.append_assoc]
  · rw [world', world, List.foldl_append]

/-- An entry that is no errand does not touch the world. -/
theorem of_entry {e : Entry} (still : ∀ w, e.carriedOut c w = w) (world : d₁.world = d.world)
    (journal : d₁.journal = d.journal ++ [e]) : Carries c d d₁ :=
  ⟨[e], journal, world.trans (still d.world).symm⟩

theorem of_sent {e : Errand} (sent : Sent c e d d₁) : Carries c d d₁ := by
  obtain ⟨ok⟩ := sent
  exact ⟨[.errand e ok], rfl, rfl⟩

instance : Std.Refl (Carries c) := ⟨refl⟩

instance : IsTrans (Dispatcher σ) (Carries c) := ⟨fun _ _ _ => trans⟩

end Carries

variable {c} {d d' : Dispatcher σ}

/-- **Whatever is done, the journal tells what happened to the world.** -/
theorem Step.carries {a : Act} (step : Step c d a d') : Carries c d d' := by
  cases step with
  | errand sent => exact .of_sent sent
  | enroll | remove | requeue | launch | sleep | reorder | park | close => exact .of_eq rfl rfl
  | @rouse _ _ backlog =>
    have put : Carries c d { d with backlog } := .of_eq rfl rfl
    exact put.trans (relates_errands (fun _ sent => .of_sent sent) (errands_wakeSleepers c _))
  | @miss _ id => exact ⟨[.errand (.fetch id) false], rfl, rfl⟩
  | enter | accept | answer | refuse | drop | deliver => exact .of_entry (fun _ => rfl) rfl rfl

theorem Does.carries {kind : Act → Prop} (does : Does c kind d d') : Carries c d d' :=
  does.relates fun _ step => step.carries

/-! ### What is about nobody -/

variable (c)

theorem about_send {ε α : Type} (d : Dispatcher σ) (e : Errand) (run : σ → Except ε α × σ) (h : Handle) :
    Journal.about h (d.send e run).2.journal = Journal.about h d.journal ++ e.about h := by
  show Journal.about h (d.journal ++ [.errand e _]) = _
  rw [Journal.about_append]
  simp [Journal.about, Entry.about]

/-- The same instances are on the roster, and nothing was done about any. -/
structure Overlooks (d d' : Dispatcher σ) : Prop where
  byName : d'.roster.byName = d.roster.byName
  about : ∀ h, Journal.about h d'.journal = Journal.about h d.journal
  carries : Carries c d d'

namespace Overlooks

variable {c} {d d₁ d₂ : Dispatcher σ}

theorem trans (h₁ : Overlooks c d d₁) (h₂ : Overlooks c d₁ d₂) : Overlooks c d d₂ where
  byName := h₂.byName.trans h₁.byName
  about h := (h₂.about h).trans (h₁.about h)
  carries := h₁.carries.trans h₂.carries

theorem of_eq (byName : d₁.roster.byName = d.roster.byName) (world : d₁.world = d.world)
    (journal : d₁.journal = d.journal) : Overlooks c d d₁ :=
  ⟨byName, fun _ => by rw [journal], .of_eq world journal⟩

theorem refl (d : Dispatcher σ) : Overlooks c d d := of_eq rfl rfl rfl

/-- An entry that is about nobody may be made in the journal. -/
theorem of_entry {e : Entry} (quiet : ∀ h, e.about h = []) (byName : d₁.roster.byName = d.roster.byName)
    (journal : d₁.journal = d.journal ++ [e]) (carries : Carries c d d₁) : Overlooks c d d₁ := by
  refine ⟨byName, fun h => ?_, carries⟩
  rw [journal, Journal.about_append]
  simp [Journal.about, quiet]

theorem answer (d : Dispatcher σ) (caller : Nat) (a : Answer) : Overlooks c d (d.answer caller a) :=
  of_entry (fun _ => rfl) rfl rfl (.of_entry (fun _ => rfl) rfl rfl)

theorem of_sent {e : Errand} (quiet : ∀ h, e.about h = []) (sent : Sent c e d d₁) :
    Overlooks c d d₁ := by
  have carries : Carries c d d₁ := .of_sent sent
  obtain ⟨ok⟩ := sent
  exact of_entry (e := .errand e ok) quiet rfl rfl carries

instance : Std.Refl (Overlooks c) := ⟨refl⟩

instance : IsTrans (Dispatcher σ) (Overlooks c) := ⟨fun _ _ _ => trans⟩

theorem enrolled_iff (overlooks : Overlooks c d d₁) (h : Handle) : d₁.Enrolled h ↔ d.Enrolled h := by
  rw [Enrolled, overlooks.byName, Enrolled]

end Overlooks

/-- A step that is about no instance, and by which nobody is entered on the roster or taken off it. -/
def Act.Overlooks : Act → Prop
  | .errand e => ∀ h, e.about h = []
  | .enroll | .remove | .close => False
  | _ => True

variable {c}

theorem Step.overlooks {a : Act} (step : Step c d a d') (quiet : a.Overlooks) : Overlooks c d d' := by
  have carries := step.carries
  cases step with
  | errand sent => exact .of_sent quiet sent
  | requeue | launch | reorder | park => exact .of_eq rfl rfl rfl
  | sleep _ name => exact .of_eq (Roster.byName_markSleeping _ name) rfl rfl
  | @rouse _ _ backlog =>
    have put : Overlooks c d { d with backlog } := .of_eq rfl rfl rfl
    refine put.trans (relates_errands (fun wake sent => ?_) (errands_wakeSleepers c _))
    obtain ⟨k, rfl⟩ := wake
    exact .of_sent (fun _ => rfl) sent
  | accept h =>
    refine .of_entry (fun _ => rfl) ?_ rfl carries
    show (if _ then _ else d.roster).byName = _
    split <;> rfl
  | miss | enter | answer | refuse | drop | deliver => exact .of_entry (fun _ => rfl) rfl rfl carries
  | enroll | remove | close => exact quiet.elim

theorem Does.overlooks {kind : Act → Prop} (does : Does c kind d d') (quiet : ∀ a, kind a → a.Overlooks) :
    Overlooks c d d' :=
  does.relates fun fits step => step.overlooks (quiet _ fits)

theorem Act.Waits.overlooks {a : Act} (waits : a.Waits) : a.Overlooks := by
  cases waits <;> trivial

theorem Act.Hands.overlooks {a : Act} (hands : a.Hands) : a.Overlooks := by
  cases hands with
  | fetch | stage => exact fun _ => rfl
  | launch | miss | sleep => trivial

/-- A call of a client has no step that is about an instance. -/
theorem Act.overlooks_of_takes {call : Call} {a : Act} (takes : call.Takes a)
    (client : call.priority ≠ .worker) : a.Overlooks := by
  cases takes with
  | staff _ worker => exact absurd worker client
  | hand hands => exact hands.overlooks
  | accept | enter | reorder => trivial
  | evict | wake | provide => exact fun _ => rfl

variable (c)

/-- A call of a client that does not stop the dispatcher is about nobody. -/
theorem overlooks_serve (present : Attendance) (d : Dispatcher σ) {call : Call}
    (client : call.priority ≠ .worker) (goesOn : call.stops = false) :
    Overlooks c d (d.serve c present call) := by
  rcases call.waits_or_terminates_or_passes with ⟨w, asked⟩ | ⟨free, asked⟩ | passes
  · rw [serve_wait c asked]
    exact (does_park c d present call.caller w).overlooks fun _ => Act.Waits.overlooks
  · rw [Call.stops, asked] at goesOn
    cases goesOn
  · obtain ⟨d₁, a, does, -, served⟩ := does_passing c d present passes
    rw [served]
    exact (does.overlooks fun _ takes => Act.overlooks_of_takes takes client).trans (.answer d₁ _ a)

end Dispatcher

end WorkFarm
