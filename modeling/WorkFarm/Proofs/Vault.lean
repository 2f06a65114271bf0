import WorkFarm.Dispatcher.Storage
import WorkFarm.Proofs.Books
/-!
# What a vault has

A vault has the payload of a task in one of two places. `Vault.Holds` does not tell them apart, and says
nothing of whether the payload could still be read. In these terms the errands of a dispatcher do very
little to a vault: some payloads go, and none comes (`Vault.Wanes`). Only storing brings one.

A dispatcher has more collaborators than its vault. `Collaborators.besideVault` puts any others beside
one. They may also make an errand of the vault fail, in which case the vault stays as it was; so a
payload whose text cannot be written or read, for whatever reason, is covered by a choice of them.

## Main definitions

* `Vault.Holds`, `Vault.Wanes` — what a vault has, and how it can only lose it
* `Collaborators.besideVault` — a vault, and any other collaborators
-/

namespace WorkFarm

universe u

namespace Vault

/-- A vault has a payload for an id, hot or staged. -/
def Holds (v : Vault) (id : TaskId) (p : Json) : Prop :=
  v.hot.get? id = some p ∨ v.staged.get? id = some p

/-- A vault may have lost payloads, and has no new ones. -/
structure Wanes (v v' : Vault) : Prop where
  /-- The next payload will have the same id. -/
  nextId : v'.nextId = v.nextId
  /-- Every payload was there before. -/
  holds : ∀ id p, v'.Holds id p → v.Holds id p

variable {v v' v'' : Vault} {id : TaskId}

theorem Wanes.refl (v : Vault) : Wanes v v := ⟨rfl, fun _ _ holds => holds⟩

theorem Wanes.trans (h : Wanes v v') (h' : Wanes v' v'') : Wanes v v'' :=
  ⟨h'.nextId.trans h.nextId, fun id p holds => h.holds id p (h'.holds id p holds)⟩

/-- A task that is fetched has the id that was asked for, and a payload that the vault has. -/
theorem fetch_eq_ok {t : Task} (fetched : v.fetch id = .ok t) : t.id = id ∧ v.Holds id t.payload := by
  unfold fetch at fetched
  split at fetched
  · rename_i p hot
    cases fetched
    exact ⟨rfl, .inl hot⟩
  · split at fetched
    · cases fetched
    · rename_i p staged
      split at fetched
      · cases fetched
        exact ⟨rfl, .inr staged⟩
      · cases fetched

theorem wanes_stage (staged : v.stage id = .ok v') : Wanes v v' := by
  unfold stage at staged
  split at staged
  · rename_i p hot
    cases staged
    refine ⟨rfl, ?_⟩
    intro j q holds
    unfold Holds at holds ⊢
    rw [Table.get?_erase, Table.get?_insert] at holds
    by_cases here : j = id
    -- the payload has only moved
    · subst here
      simp only [if_true] at holds
      rcases holds with gone | moved
      · cases gone
      · cases moved
        exact .inl hot
    · simpa only [if_neg here] using holds
  · split at staged
    · cases staged
      exact .refl v
    · cases staged

theorem wanes_evict (evicted : v.evict id = .ok v') : Wanes v v' := by
  unfold evict at evicted
  split at evicted
  · cases evicted
    refine ⟨rfl, ?_⟩
    intro j q holds
    unfold Holds at holds ⊢
    rw [Table.get?_erase, Table.get?_erase] at holds
    by_cases here : j = id
    · simp [here] at holds
    · simpa only [if_neg here] using holds
  · cases evicted

/-- A payload that is stored is the only one that comes, under the id that is next. -/
theorem holds_store {p q : Json} (holds : (v.store p).2.Holds id q) :
    v.Holds id q ∨ id = v.nextId ∧ q = p := by
  rcases holds with hot | staged
  · simp only [store, Table.get?_insert] at hot
    split at hot
    · rename_i here
      cases hot
      exact .inr ⟨here, rfl⟩
    · exact .inl (.inl hot)
  · exact .inl (.inr staged)

/-- An errand of a vault beside something else, which may make the errand fail. -/
def beside {τ : Type u} {ε α γ : Type} (run : Vault → Except ε α × Vault)
    (consent : τ → Except ε γ × τ) (w : Vault × τ) : Except ε α × (Vault × τ) :=
  match consent w.2 with
  | (.error e, x) => (.error e, (w.1, x))
  | (.ok _, x) => ((run w.1).1, ((run w.1).2, x))

theorem wanes_beside {τ : Type u} {ε α γ : Type} {run : Vault → Except ε α × Vault}
    (wanes : ∀ v, Wanes v (run v).2) (consent : τ → Except ε γ × τ) (w : Vault × τ) :
    Wanes w.1 (beside run consent w).2.1 := by
  unfold beside
  split
  · exact .refl w.1
  · exact wanes w.1

end Vault

/-- A vault, and any other collaborators. These take all errands that are not for the vault, and may make
those for the vault fail. -/
def Collaborators.besideVault {τ : Type u} (rest : Collaborators τ) : Collaborators (Vault × τ) where
  fetch id := Vault.beside (Vault.fetching id) (rest.fetch id)
  stage id := Vault.beside (Vault.staging id) (rest.stage id)
  evict id := Vault.beside (Vault.evicting id) (rest.evict id)
  watch h w := ((rest.watch h w.2).1, (w.1, (rest.watch h w.2).2))
  unwatch h w := ((rest.unwatch h w.2).1, (w.1, (rest.unwatch h w.2).2))
  stopWatching w := ((rest.stopWatching w.2).1, (w.1, (rest.stopWatching w.2).2))
  addResources r w := ((rest.addResources r w.2).1, (w.1, (rest.addResources r w.2).2))
  release hs w := ((rest.release hs w.2).1, (w.1, (rest.release hs w.2).2))
  stopProvisioning free w :=
    ((rest.stopProvisioning free w.2).1, (w.1, (rest.stopProvisioning free w.2).2))
  wake h w := (w.1, rest.wake h w.2)

namespace Collaborators

variable {τ : Type u} {rest : Collaborators τ} {w w' : Vault × τ}

/-- No errand brings a payload into the vault. -/
theorem Runs.wanes (runs : (besideVault rest).Runs w w') : w.1.Wanes w'.1 := by
  obtain ⟨e, rfl⟩ := runs
  cases e with
  | fetch id => exact Vault.wanes_beside (fun v => .refl v) _ w
  | stage id =>
    refine Vault.wanes_beside (fun v => ?_) _ w
    unfold Vault.staging Vault.settle
    split
    · rename_i staged
      exact Vault.wanes_stage staged
    · exact .refl v
  | evict id =>
    refine Vault.wanes_beside (fun v => ?_) _ w
    unfold Vault.evicting Vault.settle
    split
    · rename_i evicted
      exact Vault.wanes_evict evicted
    · exact .refl v
  | watch | unwatch | stopWatching | addResources | release | stopProvisioning | wake =>
    exact .refl w.1

theorem wanes_of_runs (runs : Relation.ReflTransGen (besideVault rest).Runs w w') :
    w.1.Wanes w'.1 := by
  induction runs with
  | refl => exact .refl w.1
  | tail _ last ih => exact ih.trans last.wanes

theorem fetch_besideVault {id : TaskId} {t : Task}
    (fetched : ((besideVault rest).fetch id w).1 = .ok t) : w.1.Holds t.id t.payload := by
  have fetched : (Vault.beside (Vault.fetching id) (rest.fetch id) w).1 = .ok t := fetched
  unfold Vault.beside at fetched
  split at fetched
  · cases fetched
  · obtain ⟨own, holds⟩ := Vault.fetch_eq_ok fetched
    exact own ▸ holds

end Collaborators

end WorkFarm
