import WorkFarm.Proofs.Books
/-!
# What goes on beside the waits

A wait may have to stay, and while it does, other calls are served. All of them but two kinds leave the
parked wait alone, and tell nobody anything until they are answered themselves, at their end. The two
kinds are a wait, which looks at the parked one first, and the call that stops the dispatcher.

`Dispatcher.Aside` says of two dispatchers that nobody was told anything from one to the other: the same
wait is parked, and what was written into the journal are errands, and entries of a kind that is named.
For each step the kind is as narrow as it can be: most of them leave errands only, a result leaves that it
was accepted, and a submission leaves which ids were admitted. So one reads off at the same time which
part of the books a step can have changed.

## Main definitions

* `Dispatcher.Aside` — nobody is told anything, and the parked wait stays
* `Dispatcher.Act.Aside` — a step by which nobody is told anything

## Main statements

* `serve_passing` — a passing call goes on aside, and is answered at its end
-/

namespace WorkFarm

universe u

/-- The results that may be accepted, and the submissions that may be admitted, when a call is served. -/
def Call.Notes (call : Call) : Entry → Prop
  | .accepted r => call.result? = some r
  | .admitted id => ∃ ids, call.request = .submit ids ∧ id ∈ ids
  | _ => False

namespace Dispatcher

variable {σ : Type u} (c : Collaborators σ)

/-- Nobody is told anything, and the same wait is parked. What is written into the journal are errands,
and entries for which `notes` holds. -/
structure Aside (notes : Entry → Prop) (d d' : Dispatcher σ) : Prop where
  parked : d'.parked = d.parked
  closed : d'.closed = d.closed
  journal : ∃ es, d'.journal = d.journal ++ es ∧
    ∀ e ∈ es, (∃ errand ok, e = .errand errand ok) ∨ notes e

namespace Aside

variable {notes : Entry → Prop} {d d₁ d₂ : Dispatcher σ}

/-- The desk may change where neither the parked wait nor the journal is touched. -/
theorem of_eq (parked : d₁.parked = d.parked) (closed : d₁.closed = d.closed)
    (journal : d₁.journal = d.journal) : Aside notes d d₁ :=
  ⟨parked, closed, [], by simp [journal], by simp⟩

theorem refl (d : Dispatcher σ) : Aside notes d d := of_eq rfl rfl rfl

theorem trans (h₁ : Aside notes d d₁) (h₂ : Aside notes d₁ d₂) : Aside notes d d₂ := by
  obtain ⟨es₁, eq₁, noted₁⟩ := h₁.journal
  obtain ⟨es₂, eq₂, noted₂⟩ := h₂.journal
  refine ⟨h₂.parked.trans h₁.parked, h₂.closed.trans h₁.closed, es₁ ++ es₂, ?_, ?_⟩
  · rw [eq₂, eq₁, List.append_assoc]
  · intro e mem
    rcases List.mem_append.mp mem with mem | mem
    · exact noted₁ e mem
    · exact noted₂ e mem

theorem record (d : Dispatcher σ) {e : Entry} (noted : notes e) : Aside notes d (d.record e) :=
  ⟨rfl, rfl, [e], rfl, fun _ mem => .inr (List.mem_singleton.mp mem ▸ noted)⟩

/-- Errands tell nobody anything. -/
theorem of_sent {c : Collaborators σ} {e : Errand} (sent : Sent c e d d₁) : Aside notes d d₁ := by
  obtain ⟨ok⟩ := sent
  exact ⟨rfl, rfl, [.errand e ok], rfl, fun _ mem => .inl ⟨e, ok, List.mem_singleton.mp mem⟩⟩

instance : Std.Refl (Aside notes : Dispatcher σ → Dispatcher σ → Prop) := ⟨refl⟩

instance : IsTrans (Dispatcher σ) (Aside notes) := ⟨fun _ _ _ => trans⟩

theorem of_errands {c : Collaborators σ} {kind : Errand → Prop} (errands : Errands c kind d d₁) :
    Aside notes d d₁ :=
  relates_errands (fun _ sent => of_sent sent) errands

end Aside

/-! ### What is read off the journal -/

namespace Aside

variable {notes : Entry → Prop} {d d' : Dispatcher σ}

/-- Whatever is read off the entries, and is nothing for errands and for what is noted, stays the
same. -/
theorem flatMap {α : Type} (aside : Aside notes d d') {view : Entry → List α}
    (errand : ∀ e ok, view (.errand e ok) = []) (quiet : ∀ e, notes e → view e = []) :
    d'.journal.flatMap view = d.journal.flatMap view := by
  obtain ⟨es, journal, noted⟩ := aside.journal
  have nothing : es.flatMap view = [] := by
    refine List.flatMap_eq_nil_iff.mpr fun e mem => ?_
    rcases noted e mem with ⟨e, ok, rfl⟩ | note
    · exact errand e ok
    · exact quiet e note
  rw [journal, List.flatMap_append, nothing, List.append_nil]

variable {call : Call}

theorem delivered (aside : Aside call.Notes d d') :
    Journal.delivered d'.journal = Journal.delivered d.journal := by
  refine aside.flatMap (fun _ _ => rfl) fun e note => ?_
  cases e <;> first | rfl | cases note

/-- A call that does not submit admits nothing. -/
theorem admitted (aside : Aside call.Notes d d') (other : ∀ ids, call.request ≠ .submit ids) :
    Journal.admitted d'.journal = Journal.admitted d.journal := by
  simp only [Journal.admitted, List.filterMap_eq_flatMap_toList]
  refine aside.flatMap (fun _ _ => rfl) fun e note => ?_
  cases e with
  | admitted id =>
    obtain ⟨ids, asked, -⟩ := note
    exact absurd asked (other ids)
  | _ => rfl

/-- A call that hands in no result has none accepted. -/
theorem accepted (aside : Aside call.Notes d d') (none : call.result? = none) :
    Journal.accepted d'.journal = Journal.accepted d.journal := by
  simp only [Journal.accepted, List.filterMap_eq_flatMap_toList]
  refine aside.flatMap (fun _ _ => rfl) fun e note => ?_
  cases e with
  | accepted r =>
    rw [Call.Notes, none] at note
    cases note
  | _ => rfl

end Aside

/-! ### What each step leaves in the journal -/

/-- A step by which nobody is told anything. What it notes has to be what may be noted. -/
def Act.Aside (notes : Entry → Prop) : Act → Prop
  | .enter id => notes (.admitted id)
  | .accept r => notes (.accepted r)
  | .answer _ _ | .park | .refuse | .drop | .deliver | .close => False
  | _ => True

variable {c} {notes : Entry → Prop} {d d' : Dispatcher σ}

theorem Step.aside {a : Act} (step : Step c d a d') (quiet : a.Aside notes) : Aside notes d d' := by
  cases step with
  | errand sent => exact .of_sent sent
  | enroll | remove | requeue | launch | sleep | reorder => exact .of_eq rfl rfl rfl
  | @rouse _ _ backlog =>
    have put : Aside notes d { d with backlog } := .of_eq rfl rfl rfl
    exact put.trans (.of_errands (errands_wakeSleepers c _))
  | @miss _ id =>
    exact ⟨rfl, rfl, [.errand (.fetch id) false], rfl,
      fun _ mem => .inl ⟨_, _, List.mem_singleton.mp mem⟩⟩
  | @enter _ id backlog =>
    have enter : Aside notes d { d with backlog, outbox := d.outbox.addPending id } :=
      .of_eq rfl rfl rfl
    exact enter.trans (.record _ quiet)
  | accept => exact ⟨rfl, rfl, [.accepted _], rfl, fun _ mem => .inr (List.mem_singleton.mp mem ▸ quiet)⟩
  | answer | park | refuse | drop | deliver | close => exact quiet.elim

theorem Does.aside {kind : Act → Prop} (does : Does c kind d d') (quiet : ∀ a, kind a → a.Aside notes) :
    Aside notes d d' :=
  does.relates fun fits step => step.aside (quiet _ fits)

theorem Act.aside_of_takes {call : Call} {a : Act} (takes : call.Takes a) :
    a.Aside call.Notes := by
  cases takes with
  | staff staffs => cases staffs <;> trivial
  | hand hands => cases hands <;> trivial
  | accept brought => exact brought
  | enter asked mem => exact ⟨_, asked, mem⟩
  | evict | wake | reorder | provide => trivial

variable (c)

/-- **A passing call goes on aside, and is answered at its end.** The answer brings no results. -/
theorem serve_passing (present : Attendance) (d : Dispatcher σ) {call : Call}
    (passes : call.Passes) :
    ∃ d₁ a, Aside call.Notes d d₁ ∧ Leads c (fun r => call.result? = some r) d d₁ ∧
      a.delivery = [] ∧ d.serve c present call = d₁.answer call.caller a := by
  obtain ⟨d₁, a, does, quiet, served⟩ := does_passing c d present passes
  have leads : Leads c (fun r => call.result? = some r) d d₁ := does.leads fun _ takes => takes.fits
  exact ⟨d₁, a, does.aside fun _ => Act.aside_of_takes, leads, quiet, served⟩

/-- Nobody is told anything while a dispatcher stops, until the parked wait is refused. -/
theorem exists_refuseParked (d : Dispatcher σ) (free : Bool) :
    ∃ d₁, Aside (fun _ => False) { d with closed := true } d₁ ∧
      d.terminate c free = d₁.refuseParked := by
  have forget : Aside (fun _ => False) { d with closed := true } { d with
      backlog := {}, outbox := d.outbox.clear, roster := d.roster.drain.2, closed := true } :=
    .of_eq rfl rfl rfl
  exact ⟨_, forget.trans (.of_errands (errands_letGo c _ d.roster.drain.1 free)), rfl⟩

end Dispatcher

end WorkFarm
