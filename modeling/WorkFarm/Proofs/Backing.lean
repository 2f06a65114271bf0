import WorkFarm.Proofs.Agreement
import WorkFarm.Proofs.Custody
import WorkFarm.Proofs.Vault
import WorkFarm.Proofs.Workers
/-!
# Tasks are backed by their payloads

A dispatcher and its vault know nothing of each other's state. That a payload is there when it is wanted,
and gone when it is not, comes from the order of errands only: a payload is staged when it was fetched to be
handed out, and evicted when the result of its task was accepted.

Three things about an id settle what the vault has for it (`Custody.Backed`): whether it was submitted,
whether its result is owed, and whether it was ever handed out. A payload is wanted as long as its id owes
its result or was not submitted yet. It is staged from the moment when the task is handed out first, and a
task that comes back stays staged.

None of this holds if an id is submitted once more after its payload was evicted, or if staging and evicting
are made to fail. Fetching may fail at will.

## Main definitions

* `Collaborators.Obliges` — staging and evicting are not made to fail
* `Custody.Wants`, `Custody.Backed` — which payloads are wanted, and that the vault has them

## Main statements

* `Vault.get?_staging`, `Vault.get?_evicting` — what two errands do to a vault, whatever came of them
* `Custody.Backed.change` — every change leaves the tasks backed by their payloads
-/

namespace WorkFarm

universe u

/-! ### The vault -/

namespace Vault

variable {v : Vault}

/-- Staging moves a payload if there is one, and does nothing else. -/
theorem get?_staging (v : Vault) (id j : TaskId) :
    (v.staging id).2.hot.get? j = (if j = id then none else v.hot.get? j) ∧
      (v.staging id).2.staged.get? j =
        if j = id then (v.hot.get? id).or (v.staged.get? id) else v.staged.get? j := by
  unfold staging stage
  cases hot : v.hot.get? id with
  | some p =>
    show (v.hot.erase id).get? j = _ ∧ (v.staged.insert id p).get? j = _
    rw [Table.get?_erase, Table.get?_insert]
    exact ⟨rfl, rfl⟩
  | none =>
    have same : (v.settle (if v.staged.contains id then .ok v else .error (.notFound id))).2 = v := by
      split <;> rfl
    dsimp only
    rw [same, Option.none_or]
    by_cases here : j = id
    · rw [if_pos here, if_pos here, here, hot]
      exact ⟨rfl, rfl⟩
    · rw [if_neg here, if_neg here]
      exact ⟨rfl, rfl⟩

/-- Evicting removes a payload if there is one, and does nothing else. -/
theorem get?_evicting (v : Vault) (id j : TaskId) :
    (v.evicting id).2.hot.get? j = (if j = id then none else v.hot.get? j) ∧
      (v.evicting id).2.staged.get? j = if j = id then none else v.staged.get? j := by
  unfold evicting evict
  by_cases has : v.contains id = true
  · rw [if_pos has]
    exact ⟨Table.get?_erase v.hot id j, Table.get?_erase v.staged id j⟩
  · rw [if_neg has]
    rw [contains, Table.contains, Table.contains, Bool.or_eq_true, not_or, Option.not_isSome_iff_eq_none,
      Option.not_isSome_iff_eq_none] at has
    show v.hot.get? j = _ ∧ v.staged.get? j = _
    by_cases here : j = id
    · rw [if_pos here, if_pos here, here]
      exact has
    · rw [if_neg here, if_neg here]
      exact ⟨rfl, rfl⟩

end Vault

/-- Staging and evicting are not made to fail. -/
structure Collaborators.Obliges {τ : Type u} (rest : Collaborators τ) : Prop where
  stage : ∀ id x, (rest.stage id x).1.isOk = true
  evict : ∀ id x, (rest.evict id x).1.isOk = true

namespace Collaborators

variable {τ : Type u} {rest : Collaborators τ} {w w' : Vault × τ}

theorem vault_fetch (rest : Collaborators τ) (id : TaskId) (w : Vault × τ) :
    ((besideVault rest).fetch id w).2.1 = w.1 := by
  show (Vault.beside (Vault.fetching id) (rest.fetch id) w).2.1 = w.1
  unfold Vault.beside
  split <;> rfl

theorem faithful_besideVault (rest : Collaborators τ) : (besideVault rest).Faithful := by
  intro id w t fetched
  have fetched : (Vault.beside (Vault.fetching id) (rest.fetch id) w).1 = .ok t := fetched
  unfold Vault.beside at fetched
  split at fetched
  · cases fetched
  · exact (Vault.fetch_eq_ok fetched).1

theorem vault_of_runsBeside (runs : (besideVault rest).RunsBeside w w') : w'.1 = w.1 := by
  obtain ⟨e, beside, rfl⟩ := runs
  cases e with
  | fetch | stage | evict | stopWatching | stopProvisioning => exact beside.elim
  | watch | unwatch | addResources | release | wake => rfl

theorem vault_beside_of_isOk {ε α γ : Type} {run : Vault → Except ε α × Vault}
    {consent : τ → Except ε γ × τ} (consents : (consent w.2).1.isOk = true) :
    (Vault.beside run consent w).2.1 = (run w.1).2 := by
  unfold Vault.beside
  split
  · rename_i refused
    rw [refused] at consents
    cases consents
  · rfl

end Collaborators

/-! ### What is owed -/

namespace Backlog

variable {b b' : Backlog} {id : TaskId}

/-- An id that owes its result may become pending or launched. -/
theorem owes_iff_of_stage {s : Stage} (owed : b.Owes id) (stage : s = .pending ∨ s = .launched)
    (stages : ∀ j, b'.stage? j = if j = id then some s else b.stage? j) (j : TaskId) :
    b'.Owes j ↔ b.Owes j := by
  rw [Owes, stages]
  by_cases here : j = id
  · rw [if_pos here, Option.some.injEq, Option.some.injEq, here]
    exact iff_of_true stage owed
  · rw [if_neg here]
    rfl

theorem owes_front (sound : b.Sound) (launched : b.launchNext? = some (id, b')) : b.Owes id :=
  .inl ((sound.mem_pending id).mp (launchNext?_eq_some launched ▸ List.mem_cons_self))

theorem stage?_ne_none_of_owes (owes : b.Owes id) : b.stage? id ≠ none := by
  rcases owes with pending | launched
  · simp [pending]
  · simp [launched]

end Backlog

namespace Custody

variable {τ : Type u} {rest : Collaborators τ} {enters : TaskId → Prop}
  {stored : List (TaskId × Json)} {v v' : Custody (Vault × τ)}

/-- Whether the payload of an id is wanted, if it was stored: the result is owed, or the id was not
submitted. -/
def Wants (v : Custody (Vault × τ)) (id : TaskId) : Prop := v.backlog.Owes id ∨ id ∉ v.admitted

/-- The vault has what was stored and is wanted. It is staged if it was handed out, and hot otherwise. -/
structure Backed (stored : List (TaskId × Json)) (v : Custody (Vault × τ)) : Prop where
  sound : v.backlog.Sound
  /-- Whatever is known was submitted. -/
  known : ∀ id, v.backlog.stage? id ≠ none → id ∈ v.admitted
  /-- Whatever was handed out was submitted. -/
  gone : ∀ id ∈ v.handed, id ∈ v.admitted
  hot : ∀ id p, v.world.1.hot.get? id = some p ↔ (id, p) ∈ stored ∧ v.Wants id ∧ id ∉ v.handed
  staged : ∀ id p, v.world.1.staged.get? id = some p ↔
    (id, p) ∈ stored ∧ v.Wants id ∧ id ∈ v.handed

namespace Backed

/-- A payload that is wanted is in one of the two places. -/
theorem or_eq_some_iff (backed : v.Backed stored) (id : TaskId) (p : Json) :
    (v.world.1.hot.get? id).or (v.world.1.staged.get? id) = some p ↔
      (id, p) ∈ stored ∧ v.Wants id := by
  by_cases before : id ∈ v.handed
  · have away : v.world.1.hot.get? id = none :=
      Option.eq_none_iff_forall_ne_some.mpr fun q here => ((backed.hot id q).mp here).2.2 before
    rw [away, Option.none_or, backed.staged, and_iff_left before]
  · have away : v.world.1.staged.get? id = none :=
      Option.eq_none_iff_forall_ne_some.mpr fun q here => before ((backed.staged id q).mp here).2.2
    rw [away, Option.or_none, backed.hot, and_iff_left before]

/-- The vault may stay as it is, if nothing is handed out and the same is wanted. -/
theorem of_wants (backed : v.Backed stored) (sound : v'.backlog.Sound)
    (known : ∀ id, v'.backlog.stage? id ≠ none → id ∈ v'.admitted) (vault : v'.world.1 = v.world.1)
    (admitted : v.admitted ⊆ v'.admitted) (handed : v'.handed = v.handed)
    (wants : ∀ id, v'.Wants id ↔ v.Wants id) : v'.Backed stored where
  sound := sound
  known := known
  gone id mem := admitted (backed.gone id (handed ▸ mem))
  hot id p := by rw [vault, handed, wants, backed.hot]
  staged id p := by rw [vault, handed, wants, backed.staged]

/-- Ids may come to another stage, if the same ids are owed. -/
theorem of_owes (backed : v.Backed stored) {backlog : Backlog} {world : Vault × τ}
    (sound : backlog.Sound) (known : ∀ id, backlog.stage? id ≠ none → v.backlog.stage? id ≠ none)
    (owes : ∀ id, backlog.Owes id ↔ v.backlog.Owes id) (vault : world.1 = v.world.1) :
    Backed stored { v with backlog, world } :=
  backed.of_wants sound (fun id some => backed.known id (known id some)) vault (List.Subset.refl _)
    rfl fun id => or_congr_left (owes id)

/-- What is owed stays so when it becomes pending or launched. -/
theorem of_stage (backed : v.Backed stored) {backlog : Backlog} {world : Vault × τ} {id : TaskId}
    {s : Stage} (sound : backlog.Sound) (owed : v.backlog.Owes id)
    (stage : s = .pending ∨ s = .launched)
    (stages : ∀ j, backlog.stage? j = if j = id then some s else v.backlog.stage? j)
    (vault : world.1 = v.world.1) : Backed stored { v with backlog, world } := by
  refine backed.of_owes sound ?_ (Backlog.owes_iff_of_stage owed stage stages) vault
  intro j some
  rw [stages] at some
  split at some
  · rename_i here
    exact here ▸ Backlog.stage?_ne_none_of_owes owed
  · exact some

/-- An id that is submitted was stored before, and owes its result from now on. -/
theorem submit (backed : v.Backed stored) {id : TaskId} {backlog : Backlog}
    (enqueued : v.backlog.enqueue? id = some backlog) (new : id ∉ v.admitted) :
    Backed stored { v with backlog, marks := v.marks ++ [.admitted id] } := by
  have stages := Backlog.stage?_enqueue? enqueued
  have admitted : Custody.admitted { v with backlog, marks := v.marks ++ [.admitted id] }
      = v.admitted ++ [id] := admitted_of_marks (m := .admitted id) rfl
  have handed : Custody.handed { v with backlog, marks := v.marks ++ [.admitted id] } = v.handed :=
    (handed_of_marks rfl).trans (List.append_nil _)
  refine backed.of_wants (backed.sound.enqueue? enqueued) ?_ rfl ?_ handed ?_
  · intro j some
    rw [stages] at some
    rw [admitted, List.mem_append, List.mem_singleton]
    by_cases here : j = id
    · exact .inr here
    · rw [if_neg here] at some
      exact .inl (backed.known j some)
  · exact admitted ▸ List.subset_append_left _ _
  · intro j
    rw [Wants, admitted, Wants, List.mem_append, List.mem_singleton, Backlog.Owes, stages]
    by_cases here : j = id
    · rw [if_pos here, here]
      exact iff_of_true (.inl (.inl rfl)) (.inr new)
    · rw [if_neg here, or_iff_left here]
      rfl

/-- A payload that is fetched to be handed out is staged, wherever it was. -/
theorem hand (backed : v.Backed stored) {id : TaskId} {backlog : Backlog} {world : Vault × τ}
    (launched : v.backlog.launchNext? = some (id, backlog))
    (vault : world.1 = (v.world.1.staging id).2) :
    Backed stored { v with backlog, world, marks := v.marks ++ [.handed id] } := by
  have owed := Backlog.owes_front backed.sound launched
  have launch : Backed stored { v with backlog } :=
    backed.of_stage (backed.sound.launchNext? launched) owed (.inr rfl)
      (Backlog.stage?_launchNext? launched) rfl
  have admitted : Custody.admitted { v with backlog, world, marks := v.marks ++ [.handed id] }
      = v.admitted := (admitted_of_marks rfl).trans (List.append_nil _)
  have handed : Custody.handed { v with backlog, world, marks := v.marks ++ [.handed id] }
      = v.handed ++ [id] := handed_of_marks (m := .handed id) rfl
  have mem_handed : ∀ j, j ∈ v.handed ++ [id] ↔ j ∈ v.handed ∨ j = id := fun j => by
    rw [List.mem_append, List.mem_singleton]
  have wants : ∀ j, Wants { v with backlog, world, marks := v.marks ++ [.handed id] } j ↔
      Wants { v with backlog } j := fun j => by
    rw [Wants, admitted]
    rfl
  refine ⟨launch.sound, ?_, ?_, ?_, ?_⟩
  · intro j some
    exact admitted ▸ launch.known j some
  · intro j mem
    rw [admitted]
    rcases (mem_handed j).mp (handed ▸ mem) with before | rfl
    · exact backed.gone j before
    · exact backed.known j (Backlog.stage?_ne_none_of_owes owed)
  · intro j p
    have hot := launch.hot j p
    rw [wants, handed, mem_handed, vault, (Vault.get?_staging _ id j).1]
    by_cases here : j = id
    · simp [here]
    · rw [if_neg here, or_iff_left here]
      exact hot
  · intro j p
    rw [wants, handed, mem_handed, vault, (Vault.get?_staging _ id j).2]
    by_cases here : j = id
    -- the payload was hot if this is the first time, and staged otherwise
    · subst here
      rw [if_pos rfl]
      refine (launch.or_eq_some_iff j p).trans ?_
      simp
    · rw [if_neg here, or_iff_left here]
      exact launch.staged j p

/-- The payload of an id whose result was accepted is gone. -/
theorem complete (backed : v.Backed stored) {id : TaskId} {backlog : Backlog} {world : Vault × τ}
    (completed : v.backlog.complete? id = some backlog)
    (vault : world.1 = (v.world.1.evicting id).2) : Backed stored { v with backlog, world } := by
  have stages := Backlog.stage?_complete? completed
  have launched := (Backlog.complete?_eq_some completed).1
  have submitted : id ∈ v.admitted := backed.known id (by simp [launched])
  have wants : ∀ j, Wants { v with backlog, world } j ↔ j ≠ id ∧ v.Wants j := by
    intro j
    rw [Wants, Backlog.Owes, stages]
    by_cases here : j = id
    · simp only [here, if_true, ne_eq, not_true_eq_false, false_and, iff_false, not_or, not_not]
      exact ⟨by simp, submitted⟩
    · rw [if_neg here, and_iff_right here]
      rfl
  refine ⟨backed.sound.complete? completed, ?_, backed.gone, ?_, ?_⟩
  · intro j some
    rw [stages] at some
    split at some
    · rename_i here
      exact here ▸ submitted
    · exact backed.known j some
  · intro j p
    rw [wants, vault, (Vault.get?_evicting _ id j).1]
    by_cases here : j = id
    · simp [here]
    · rw [if_neg here, and_iff_right here]
      exact backed.hot j p
  · intro j p
    rw [wants, vault, (Vault.get?_evicting _ id j).2]
    by_cases here : j = id
    · simp [here]
    · rw [if_neg here, and_iff_right here]
      exact backed.staged j p

/-- **Every change leaves the tasks backed by their payloads**, if no id is submitted twice and the
dispatcher goes on. -/
theorem change (obliges : rest.Obliges) (change : Change (.besideVault rest) enters v v')
    (running : v'.closed = false) (once : v'.admitted.Nodup) (backed : v.Backed stored) :
    v'.Backed stored := by
  have sound := sound_change change backed.sound
  cases change with
  | errand runs =>
    exact backed.of_owes sound (fun _ => id) (fun _ => .rfl) (Collaborators.vault_of_runsBeside runs)
  | submit enqueued =>
    rename_i id backlog _
    refine backed.submit enqueued ?_
    have split : Custody.admitted { v with backlog, marks := v.marks ++ [.admitted id] }
        = v.admitted ++ [id] := admitted_of_marks (m := .admitted id) rfl
    rw [split, List.nodup_append] at once
    exact fun before => once.2.2 id before id (List.mem_singleton_self id) rfl
  | hand launched fetched =>
    rename_i id backlog t
    rw [Collaborators.faithful_besideVault rest _ _ _ fetched]
    refine backed.hand launched ?_
    rw [← Collaborators.vault_fetch rest id v.world]
    exact Collaborators.vault_beside_of_isOk (obliges.stage id _)
  | miss launched _ back =>
    obtain ⟨backlog, back', -, stages⟩ := Backlog.undo_launchNext? launched
    cases back.symm.trans back'
    have same := stages backed.sound
    refine backed.of_owes sound (fun j some => same j ▸ some) (fun j => ?_)
      (Collaborators.vault_fetch rest _ v.world)
    rw [Backlog.Owes, same, Backlog.Owes]
  | requeue requeued =>
    have launched := (Backlog.requeue?_eq_some requeued).1
    exact backed.of_stage sound (.inr launched) (.inl rfl) (Backlog.stage?_requeue? requeued) rfl
  | complete completed =>
    exact backed.complete completed (Collaborators.vault_beside_of_isOk (obliges.evict _ _))
  | forget rs =>
    have stages := Backlog.stage?_forgetAll v.backlog rs
    refine backed.of_owes sound (fun j => ?_) (fun j => ?_) rfl
    · rw [stages]
      split
      · exact fun some => absurd rfl some
      · exact id
    · rw [Backlog.Owes, stages, Backlog.Owes]
      split
      · rename_i forgotten
        simp [forgotten.2]
      · rfl
  | close => cases running

theorem changes (obliges : rest.Obliges) (changes : Changes (.besideVault rest) enters v v')
    (running : v'.closed = false) (once : v'.admitted.Nodup) (backed : v.Backed stored) :
    v'.Backed stored := by
  induction changes with
  | refl => exact backed
  | tail _ last ih =>
    have before := once.sublist (last.marks.sublist.filterMap Mark.admission?)
    exact (ih (last.running running) before).change obliges last running once

/-- A payload that is stored is hot, if its id was not given out before. -/
theorem store (backed : v.Backed stored) (p : Json)
    (fresh : v.world.1.nextId ∉ stored.map Prod.fst) (new : v.world.1.nextId ∉ v.admitted) :
    Backed (stored ++ [(v.world.1.nextId, p)])
      { v with world := ((v.world.1.store p).2, v.world.2) } := by
  have mem : ∀ id q, (id, q) ∈ stored ++ [(v.world.1.nextId, p)] ↔
      (id, q) ∈ stored ∨ id = v.world.1.nextId ∧ q = p := by
    intro id q
    rw [List.mem_append, List.mem_singleton, Prod.mk.injEq]
  have away : ∀ q, (v.world.1.nextId, q) ∉ stored :=
    fun q before => fresh (List.mem_map_of_mem before)
  refine ⟨backed.sound, backed.known, backed.gone, ?_, ?_⟩
  · intro id q
    show (v.world.1.hot.insert v.world.1.nextId p).get? id = some q ↔
      (id, q) ∈ stored ++ [(v.world.1.nextId, p)] ∧ v.Wants id ∧ id ∉ v.handed
    rw [Table.get?_insert, mem]
    by_cases here : id = v.world.1.nextId
    · have kept : v.Wants v.world.1.nextId ∧ v.world.1.nextId ∉ v.handed :=
        ⟨.inr new, fun before => new (backed.gone _ before)⟩
      rw [if_pos here, here, or_iff_right (away q), and_iff_left kept, and_iff_right rfl,
        Option.some.injEq, eq_comm]
    · rw [if_neg here, or_iff_left fun both => here both.1]
      exact backed.hot id q
  · intro id q
    show v.world.1.staged.get? id = some q ↔
      (id, q) ∈ stored ++ [(v.world.1.nextId, p)] ∧ v.Wants id ∧ id ∈ v.handed
    rw [backed.staged, mem]
    refine ⟨fun ⟨before, kept⟩ => ⟨.inl before, kept⟩, ?_⟩
    rintro ⟨before | ⟨rfl, -⟩, kept, handed⟩
    · exact ⟨before, kept, handed⟩
    · exact absurd (backed.gone _ handed) new

end Backed

/-- Where nothing enters, nothing is admitted. -/
theorem admitted_of_changes (changes : Changes (.besideVault rest) (fun _ => False) v v') :
    v'.admitted = v.admitted := by
  induction changes with
  | refl => rfl
  | tail _ last ih =>
    rw [← ih]
    cases last with
    | submit _ entered => cases entered
    | hand => exact (admitted_of_marks rfl).trans (List.append_nil _)
    | errand | miss | requeue | complete | forget | close => rfl

end Custody

end WorkFarm
