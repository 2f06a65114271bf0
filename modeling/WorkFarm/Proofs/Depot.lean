import Mathlib.Data.List.Induction
import WorkFarm.Proofs.Backing
import WorkFarm.Proofs.Outcomes
/-!
# The depot keeps what is owed

The depot is a dispatcher with its vault, and clients that solve payloads: they store them one by one, and
then submit the ids that they were given. Nobody else stores or submits anything. All other calls may come
from anyone at any time; workers need not be known, and may hand in whatever they like. A batch is a list of
calls and a look. The ids of a client count as submitted once its call has been served.

A list of the stored payloads is kept on the side, which nothing reads. The ids on it are given out in order,
so that none of them comes twice, and each of them was submitted once or is still with its client. This is
what makes an id that is submitted an unknown one.

## Main definitions

* `Depot` — a dispatcher with its vault, and clients that solve payloads
* `Depot.Event`, `Depot.step`, `Depot.run` — what happens
* `Depot.Kept` — what is true of a depot at all times

## Main statements

* `Depot.Kept.step` — every event keeps what is owed
* `Depot.payloads_kept` — the payloads in the vault are those of the tasks that are owed or not submitted
-/

namespace WorkFarm

universe u

namespace Dispatcher

variable {σ : Type u} (c : Collaborators σ)

theorem admitted_foldl_submitOne (d : Dispatcher σ) {ids : List TaskId}
    (unknown : ∀ id ∈ ids, d.backlog.stage? id = none) (once : ids.Nodup) :
    Journal.admitted (ids.foldl submitOne d).journal = Journal.admitted d.journal ++ ids := by
  induction ids generalizing d with
  | nil => exact (List.append_nil _).symm
  | cons id ids ih =>
    rw [List.nodup_cons] at once
    have new := unknown id List.mem_cons_self
    obtain ⟨backlog, enqueued⟩ := Option.isSome_iff_exists.mp ((Backlog.isSome_enqueue? _ _).mpr new)
    have first : d.submitOne id
        = record { d with backlog, outbox := d.outbox.addPending id } (.admitted id) := by
      rw [submitOne, enqueued]
    rw [List.foldl_cons, ih (d.submitOne id) ?_ once.2, first, record, Journal.admitted_concat]
    · exact List.append_assoc ..
    · intro j mem
      have apart : j ≠ id := fun here => once.1 (here ▸ mem)
      rw [first]
      exact (Backlog.stage?_enqueue? enqueued j).trans
        ((if_neg apart).trans (unknown j (List.mem_cons_of_mem id mem)))

/-- All ids of a submission are admitted that are not known, if each of them occurs once. -/
theorem admitted_submit (d : Dispatcher σ) {ids : List TaskId}
    (unknown : ∀ id ∈ ids, d.backlog.stage? id = none) (once : ids.Nodup) :
    Journal.admitted (d.submit c ids).journal = Journal.admitted d.journal ++ ids := by
  have enter := d.admitted_foldl_submitOne unknown once
  unfold submit
  dsimp only
  split
  · have wake : Spares (ids.foldl submitOne d) _ := .of_errands (errands_wakeSleepers c _)
    exact wake.admitted.trans enter
  · exact enter

end Dispatcher

/-! ### The depot -/

/-- A dispatcher with its vault, and clients that solve payloads. -/
structure Depot (τ : Type u) where
  dispatcher : Dispatcher (Vault × τ)
  /-- The clients that solve payloads, by what tells them apart. -/
  clients : Table Nat Works.Solving := ∅
  /-- What was stored, and under which id. -/
  stored : List (TaskId × Json) := []

/-- Whether a call submits ids. -/
def Call.submits (call : Call) : Bool :=
  match call.request with
  | .submit _ => true
  | _ => false

namespace Depot

/-- What happens. -/
inductive Event (τ : Type u) where
  /-- A client begins to solve payloads. -/
  | solve (client : Nat) (payloads : List Json)
  /-- A client that solves payloads stores the next one. -/
  | store (client : Nat)
  /-- The call of a client that submits what it has stored is served. -/
  | submit (present : Attendance) (client : Nat)
  /-- Any other call is served. -/
  | call (present : Attendance) (call : Call)
  /-- The parked wait is looked at. -/
  | look (present : Attendance)
  /-- Something happens to the other collaborators. -/
  | outside (change : τ → τ)

variable {τ : Type u}

/-- A depot in which nothing has happened. -/
def start (order : DeliveryOrder) (x : τ) : Depot τ := { dispatcher := .start order ({}, x) }

def vault (s : Depot τ) : Vault := s.dispatcher.world.1

/-- The ids that clients have stored and not submitted yet. -/
def unsubmitted (s : Depot τ) : List TaskId := s.clients.values.flatMap Works.Solving.ids

/-- Stores the next payload of a client. -/
def storeNext (s : Depot τ) (client : Nat) : Depot τ :=
  match s.clients.get? client with
  | some ⟨p :: left, ids⟩ =>
    let (id, vault) := s.vault.store p
    { dispatcher := { s.dispatcher with world := (vault, s.dispatcher.world.2) }
      clients := s.clients.insert client ⟨left, ids ++ [id]⟩
      stored := s.stored ++ [(id, p)] }
  | _ => s

/-- Serves the call of a client that has stored all its payloads. -/
def submitAll (rest : Collaborators τ) (present : Attendance) (s : Depot τ) (client : Nat) : Depot τ :=
  match s.clients.get? client with
  | some ⟨[], ids⟩ =>
    { s with
      dispatcher := s.dispatcher.serveOrRefuse (.besideVault rest) present ⟨client, .submit ids⟩
      clients := s.clients.erase client }
  | _ => s

/-- What an event does. An event that does not fit is passed over. -/
def step (rest : Collaborators τ) (s : Depot τ) : Event τ → Depot τ
  | .solve client payloads =>
    if s.clients.contains client then s
    else { s with clients := s.clients.insert client ⟨payloads, []⟩ }
  | .store client => s.storeNext client
  | .submit present client => s.submitAll rest present client
  | .call present call =>
    if call.submits then s
    else { s with dispatcher := s.dispatcher.serveOrRefuse (.besideVault rest) present call }
  | .look present => { s with dispatcher := s.dispatcher.serveParked present }
  | .outside change =>
    { s with dispatcher := { s.dispatcher with
        world := (s.dispatcher.world.1, change s.dispatcher.world.2) } }

/-- What happens, one event after another. -/
def run (rest : Collaborators τ) (s : Depot τ) (events : List (Event τ)) : Depot τ :=
  events.foldl (step rest) s

variable {rest : Collaborators τ} {s : Depot τ}

/-- The ids are given out in order, each of them is submitted once or not yet, and the vault has what is
kept. -/
structure Kept (s : Depot τ) : Prop where
  numbered : Works.Numbered s.stored s.vault.nextId
  accounted : (s.unsubmitted ++ s.dispatcher.custody.admitted).Perm (s.stored.map Prod.fst)
  backed : s.dispatcher.custody.Backed s.stored

namespace Kept

theorem start (order : DeliveryOrder) (x : τ) : (start order x).Kept where
  numbered := ⟨rfl, rfl⟩
  accounted := .refl _
  backed :=
    { sound := .empty
      known := fun _ some => absurd rfl some
      gone := fun _ mem => absurd mem List.not_mem_nil
      hot := fun _ _ => ⟨nofun, fun mem => absurd mem.1 List.not_mem_nil⟩
      staged := fun _ _ => ⟨nofun, fun mem => absurd mem.1 List.not_mem_nil⟩ }

theorem nodup (kept : s.Kept) (fits : s.stored.length < wordCount 64) :
    (s.unsubmitted ++ s.dispatcher.custody.admitted).Nodup :=
  kept.accounted.nodup_iff.mpr (kept.numbered.nodup fits)

/-- What was stored is submitted, or it is not. -/
theorem mem_unsubmitted_iff (kept : s.Kept) (fits : s.stored.length < wordCount 64) {id : TaskId}
    (mem : id ∈ s.stored.map Prod.fst) :
    id ∈ s.unsubmitted ↔ id ∉ s.dispatcher.custody.admitted := by
  have apart := (List.nodup_append.mp (kept.nodup fits)).2.2
  rw [← kept.accounted.mem_iff, List.mem_append] at mem
  exact ⟨fun waits submitted => apart id waits id submitted rfl, mem.resolve_right⟩

/-- The dispatcher may go on, if it admits no ids but those that clients submit. -/
theorem dispatcher (kept : s.Kept) (obliges : rest.Obliges) {d : Dispatcher (Vault × τ)}
    {clients : Table Nat Works.Solving} {enters : TaskId → Prop}
    (changes : Custody.Changes (.besideVault rest) enters s.dispatcher.custody d.custody)
    (leads : Dispatcher.LeadsOn (.besideVault rest) s.dispatcher d)
    (fits : s.stored.length < wordCount 64) (running : d.closed = false)
    (accounted : (clients.values.flatMap Works.Solving.ids ++ d.custody.admitted).Perm
      (s.stored.map Prod.fst)) : Kept { s with dispatcher := d, clients } where
  numbered := by
    have next : d.world.1.nextId = s.vault.nextId := (Collaborators.wanes_of_runs leads.world).nextId
    exact next ▸ kept.numbered
  accounted := accounted
  backed := by
    have nodup := accounted.nodup_iff.mpr (kept.numbered.nodup fits)
    exact kept.backed.changes obliges changes running (List.nodup_append.mp nodup).2.1

/-- A call that submits nothing, or a look. -/
theorem quiet (kept : s.Kept) (obliges : rest.Obliges) {d : Dispatcher (Vault × τ)}
    (changes : Custody.Changes (.besideVault rest) (fun _ => False) s.dispatcher.custody d.custody)
    (leads : Dispatcher.LeadsOn (.besideVault rest) s.dispatcher d)
    (fits : s.stored.length < wordCount 64) (running : d.closed = false) :
    Kept { s with dispatcher := d } :=
  kept.dispatcher obliges changes leads fits running
    (Custody.admitted_of_changes changes ▸ kept.accounted)

/-- What a client has stored stands apart from what the others have. -/
theorem unsubmitted_perm {client : Nat} {left : List Json} {ids : List TaskId}
    (found : s.clients.get? client = some ⟨left, ids⟩) :
    s.unsubmitted.Perm (ids ++ (s.clients.erase client).values.flatMap Works.Solving.ids) :=
  (Table.values_perm_cons_erase s.clients found).flatMap_right Works.Solving.ids

theorem storeNext (kept : s.Kept) (client : Nat)
    (fits : (s.storeNext client).stored.length < wordCount 64) : (s.storeNext client).Kept := by
  unfold Depot.storeNext at fits ⊢
  split
  · rename_i p left ids found
    rw [found] at fits
    dsimp only at fits ⊢
    have numbered := kept.numbered.store p
    have nodup := numbered.nodup fits
    have fresh : s.vault.nextId ∉ s.stored.map Prod.fst := by
      rw [List.map_append, List.nodup_append] at nodup
      exact fun before => nodup.2.2 _ before _ List.mem_cons_self rfl
    have new : s.vault.nextId ∉ s.dispatcher.custody.admitted := fun submitted =>
      fresh (kept.accounted.mem_iff.mp (List.mem_append_right _ submitted))
    refine ⟨numbered, ?_, kept.backed.store p fresh new⟩
    show (List.flatMap _ (s.clients.insert client ⟨left, ids ++ [s.vault.nextId]⟩).values
      ++ s.dispatcher.custody.admitted).Perm ((s.stored ++ [(s.vault.nextId, p)]).map Prod.fst)
    rw [Table.values_insert, List.perm_iff_count]
    intro id
    have all := kept.accounted.count_eq id
    have own := (unsubmitted_perm found).count_eq id
    simp only [List.flatMap_append, List.flatMap_cons, List.flatMap_nil, List.map_append, List.map_cons,
      List.map_nil, List.append_nil, List.count_append] at all own ⊢
    omega
  · exact kept

/-- The ids of a client are submitted, and all of them are new to the dispatcher. -/
theorem submitAll (kept : s.Kept) (obliges : rest.Obliges) (present : Attendance) (client : Nat)
    (fits : (s.submitAll rest present client).stored.length < wordCount 64)
    (running : (s.submitAll rest present client).dispatcher.closed = false) :
    (s.submitAll rest present client).Kept := by
  unfold Depot.submitAll at fits running ⊢
  split
  · rename_i ids found
    rw [found] at fits running
    dsimp only at fits running ⊢
    have changes : Custody.Changes (.besideVault rest) (fun _ => True) s.dispatcher.custody _ :=
      Dispatcher.custody_serveOrRefuse _ present s.dispatcher ⟨client, .submit ids⟩
        fun _ _ _ _ => trivial
    have leads : Dispatcher.LeadsOn (.besideVault rest) s.dispatcher _ :=
      Dispatcher.leads_serveOrRefuse _ present s.dispatcher ⟨client, .submit ids⟩ fun _ _ => trivial
    have goesOn : s.dispatcher.closed = false := changes.running running
    have own := unsubmitted_perm found
    have nodup := (own.append_right _).nodup_iff.mp (kept.nodup fits)
    rw [List.append_assoc, List.nodup_append] at nodup
    have unknown : ∀ id ∈ ids, s.dispatcher.backlog.stage? id = none := by
      intro id mem
      by_contra some
      exact nodup.2.2 id mem id (List.mem_append_right _ (kept.backed.known id some)) rfl
    have served : s.dispatcher.serveOrRefuse (.besideVault rest) present ⟨client, .submit ids⟩
        = (s.dispatcher.submit (.besideVault rest) ids).answer client .done := by
      rw [Dispatcher.serveOrRefuse, if_neg (by simp [goesOn])]
      rfl
    have admitted : Custody.admitted (Dispatcher.custody (s.dispatcher.serveOrRefuse
        (.besideVault rest) present ⟨client, .submit ids⟩)) = s.dispatcher.custody.admitted ++ ids := by
      rw [served, Dispatcher.admitted_custody, Dispatcher.admitted_custody,
        (Dispatcher.Spares.answer _ client .done).admitted]
      exact Dispatcher.admitted_submit _ s.dispatcher unknown nodup.1
    refine kept.dispatcher obliges changes leads fits running ?_
    rw [admitted, List.perm_iff_count]
    intro id
    have all := kept.accounted.count_eq id
    have own := own.count_eq id
    simp only [List.count_append] at all own ⊢
    omega
  · exact kept

/-- **Every event keeps what is owed**, as long as there are ids and the dispatcher goes on. -/
theorem step (kept : s.Kept) (obliges : rest.Obliges) (e : Event τ)
    (fits : (s.step rest e).stored.length < wordCount 64)
    (running : (s.step rest e).dispatcher.closed = false) : (s.step rest e).Kept := by
  cases e with
  | solve client payloads =>
    unfold Depot.step
    dsimp only
    split
    · exact kept
    · rename_i new
      have none : s.clients.get? client = none := by simpa [Table.contains] using new
      refine { kept with accounted := ?_ }
      have same : (s.clients.insert client ⟨payloads, []⟩).values.flatMap Works.Solving.ids
          = s.unsubmitted := by
        rw [Table.values_insert_of_get?_eq_none _ _ none, List.flatMap_append]
        exact List.append_nil _
      show (List.flatMap _ (s.clients.insert client ⟨payloads, []⟩).values ++ _).Perm _
      rw [same]
      exact kept.accounted
  | store client => exact kept.storeNext client fits
  | submit present client => exact kept.submitAll obliges present client fits running
  | call present call =>
    unfold Depot.step at fits running ⊢
    dsimp only at fits running ⊢
    split
    · exact kept
    · rename_i other
      rw [if_neg other] at fits running
      refine kept.quiet obliges ?_ ?_ fits running
      · refine Dispatcher.custody_serveOrRefuse _ present s.dispatcher call ?_
        intro ids asked
        rw [Call.submits, asked] at other
        exact absurd rfl other
      · exact Dispatcher.leads_serveOrRefuse _ present s.dispatcher call fun _ _ => trivial
  | look present =>
    exact kept.quiet obliges
      ((Dispatcher.does_serveParked _ s.dispatcher present).custody fun _ => Dispatcher.Act.Waits.beside)
      (Dispatcher.leads_serveParked _ present s.dispatcher) fits running
  | outside change =>
    exact { kept with
      backed := kept.backed.of_owes kept.backed.sound (fun _ => id) (fun _ => .rfl) rfl }

end Kept

/-! ### Every run -/

/-- What was stored stays on the list. -/
theorem length_stored_step (rest : Collaborators τ) (s : Depot τ) (e : Event τ) :
    s.stored.length ≤ (s.step rest e).stored.length := by
  cases e with
  | solve client payloads | call present call =>
    unfold step
    dsimp only
    split <;> exact Nat.le_refl _
  | store client =>
    unfold step storeNext
    dsimp only
    split
    · rw [List.length_append]
      exact Nat.le_add_right ..
    · exact Nat.le_refl _
  | submit present client =>
    unfold step submitAll
    dsimp only
    split <;> exact Nat.le_refl _
  | look present | outside change => exact Nat.le_refl _

/-- What has stopped does not run again. -/
theorem running_of_step {e : Event τ} (running : (s.step rest e).dispatcher.closed = false) :
    s.dispatcher.closed = false := by
  have served (present : Attendance) (call : Call)
      (running : (s.dispatcher.serveOrRefuse (.besideVault rest) present call).closed = false) :
      s.dispatcher.closed = false := by
    have leads : Dispatcher.LeadsOn (.besideVault rest) s.dispatcher _ :=
      Dispatcher.leads_serveOrRefuse _ present s.dispatcher call fun _ _ => trivial
    exact leads.books.running running
  cases e with
  | solve client payloads =>
    unfold step at running
    dsimp only at running
    split at running <;> exact running
  | store client =>
    unfold step storeNext at running
    dsimp only at running
    split at running <;> exact running
  | submit present client =>
    unfold step submitAll at running
    dsimp only at running
    split at running
    · exact served present _ running
    · exact running
  | call present call =>
    unfold step at running
    dsimp only at running
    split at running
    · exact running
    · exact served present call running
  | look present =>
    have leads : Dispatcher.LeadsOn (.besideVault rest) s.dispatcher _ :=
      Dispatcher.leads_serveParked _ present s.dispatcher
    exact leads.books.running running
  | outside change => exact running

theorem Kept.run (obliges : rest.Obliges) (kept : s.Kept) (events : List (Event τ))
    (fits : (s.run rest events).stored.length < wordCount 64)
    (running : (s.run rest events).dispatcher.closed = false) : (s.run rest events).Kept := by
  induction events using List.reverseRecOn with
  | nil => exact kept
  | append_singleton events e ih =>
    have last : s.run rest (events ++ [e]) = (s.run rest events).step rest e := List.foldl_append
    rw [last] at fits running ⊢
    have before := Nat.lt_of_le_of_lt (length_stored_step rest _ e) fits
    exact (ih before (running_of_step running)).step obliges e fits running

/-- **The payloads in the vault are those of the tasks that are owed or not submitted.** Clients that solve
payloads store and submit them, fewer than there are ids; staging and evicting are not made to fail. Then,
whatever else happens, as long as the dispatcher has not stopped, an id has a payload just in case its task
is pending or launched, or a client has stored it and not submitted it yet. It is the payload that was
stored, it is hot if the task was never handed out, and staged if it was. -/
theorem payloads_kept (rest : Collaborators τ) (obliges : rest.Obliges) (order : DeliveryOrder) (x : τ)
    (events : List (Event τ))
    (fits : ((start order x).run rest events).stored.length < wordCount 64)
    (running : ((start order x).run rest events).dispatcher.closed = false) :
    let s := (start order x).run rest events
    let due := fun id => s.dispatcher.backlog.stage? id = some .pending ∨
      s.dispatcher.backlog.stage? id = some .launched ∨ id ∈ s.unsubmitted
    (∀ id, s.vault.contains id = true ↔ due id) ∧
      (∀ id p, s.vault.hot.get? id = some p ↔
        (id, p) ∈ s.stored ∧ due id ∧ id ∉ Journal.handed s.dispatcher.journal) ∧
      ∀ id p, s.vault.staged.get? id = some p ↔
        (id, p) ∈ s.stored ∧ due id ∧ id ∈ Journal.handed s.dispatcher.journal := by
  intro s due
  have kept : s.Kept := (Kept.start order x).run obliges events fits running
  have same : ∀ id p, (id, p) ∈ s.stored → (s.dispatcher.custody.Wants id ↔ due id) := by
    intro id p mem
    have waits := kept.mem_unsubmitted_iff fits (List.mem_map_of_mem mem)
    rw [Custody.Wants, ← waits]
    exact or_assoc
  have hot : ∀ id p, s.vault.hot.get? id = some p ↔
      (id, p) ∈ s.stored ∧ due id ∧ id ∉ Journal.handed s.dispatcher.journal := by
    intro id p
    refine (kept.backed.hot id p).trans (and_congr_right fun mem => ?_)
    rw [same id p mem]
    rfl
  have staged : ∀ id p, s.vault.staged.get? id = some p ↔
      (id, p) ∈ s.stored ∧ due id ∧ id ∈ Journal.handed s.dispatcher.journal := by
    intro id p
    refine (kept.backed.staged id p).trans (and_congr_right fun mem => ?_)
    rw [same id p mem]
    rfl
  refine ⟨fun id => ⟨?_, ?_⟩, hot, staged⟩
  · intro has
    rw [Vault.contains, Bool.or_eq_true, Table.contains, Table.contains, Option.isSome_iff_exists,
      Option.isSome_iff_exists] at has
    rcases has with ⟨p, here⟩ | ⟨p, here⟩
    · exact ((hot id p).mp here).2.1
    · exact ((staged id p).mp here).2.1
  · intro owed
    have mem : id ∈ s.stored.map Prod.fst := by
      rw [← kept.accounted.mem_iff, List.mem_append]
      rcases owed with pending | launched | waits
      · exact .inr (kept.backed.known id (Backlog.stage?_ne_none_of_owes (.inl pending)))
      · exact .inr (kept.backed.known id (Backlog.stage?_ne_none_of_owes (.inr launched)))
      · exact .inl waits
    obtain ⟨⟨j, p⟩, entry, rfl⟩ := List.mem_map.mp mem
    rw [Vault.contains, Bool.or_eq_true, Table.contains, Table.contains]
    by_cases handed : j ∈ Journal.handed s.dispatcher.journal
    · right
      rw [(staged j p).mpr ⟨entry, owed, handed⟩, Option.isSome_some]
    · left
      rw [(hot j p).mpr ⟨entry, owed, handed⟩, Option.isSome_some]

/-- Other collaborators that make fetching fail at times, and take every other errand. -/
def fitful : Collaborators Bool where
  fetch id broken := (if broken then .error (.backend "broken") else .ok ⟨id, .null⟩, broken)
  stage _ x := (.ok (), x)
  evict _ x := (.ok (), x)
  watch _ x := (.ok (), x)
  unwatch _ x := (.ok (), x)
  stopWatching x := (.ok (), x)
  addResources _ x := (.ok (), x)
  release _ x := (.ok (), x)
  stopProvisioning _ x := (.ok (), x)
  wake _ x := x

theorem obliges_fitful : fitful.Obliges := ⟨fun _ _ => rfl, fun _ _ => rfl⟩

/-- Two clients store in turn, and one of them submits. A task cannot be fetched for a while, another one
comes back from a worker that was reported dead, and a third one from an instance that was replaced. The
worker that was reported dead hands in the result of a task that it was never given, and so does the instance
that takes its place. -/
def haunted : List (Event Bool) :=
  [.solve 0 [.bool true, .bool false, .null], .solve 1 [.null],
    .store 0, .store 1, .store 0, .store 0, .submit {} 0,
    .call {} ⟨2, .requestTask ⟨0, "ann"⟩⟩,
    .outside fun _ => true, .call {} ⟨3, .requestTask ⟨1, "bob"⟩⟩, .outside fun _ => false,
    .call {} ⟨4, .reportDead "ann"⟩,
    .call {} ⟨5, .requestTask ⟨1, "bob"⟩⟩,
    .call {} ⟨6, .handIn ⟨⟨3⟩, .ok .null, "ann"⟩ ⟨0, "ann"⟩⟩,
    .call {} ⟨7, .handIn ⟨⟨3⟩, .ok .null, "ann"⟩ ⟨2, "ann"⟩⟩,
    .look {}]

/-- The second payload waits for its client. The first one and the fourth one are staged, one of them for a
task that is launched again, and the other one for a task that is pending again; the third one is gone. -/
theorem payloads_kept_haunted :
    let s := (start .completion false).run fitful haunted
    let due := fun id => s.dispatcher.backlog.stage? id = some .pending ∨
      s.dispatcher.backlog.stage? id = some .launched ∨ id ∈ s.unsubmitted
    fitful.Obliges ∧ s.stored.length < wordCount 64 ∧ s.dispatcher.closed = false ∧
      Journal.handed s.dispatcher.journal = [⟨1⟩, ⟨3⟩, ⟨4⟩, ⟨1⟩] ∧
      s.unsubmitted = [⟨2⟩] ∧ s.vault.hot.keys = [⟨2⟩] ∧ s.vault.staged.keys = [⟨1⟩, ⟨4⟩] ∧
      (∀ id, s.vault.contains id = true ↔ due id) ∧
      ∀ id p, s.vault.staged.get? id = some p ↔
        (id, p) ∈ s.stored ∧ due id ∧ id ∈ Journal.handed s.dispatcher.journal := by
  have fits : ((start .completion false).run fitful haunted).stored.length < wordCount 64 := by decide
  have running : ((start .completion false).run fitful haunted).dispatcher.closed = false := by decide
  have kept := payloads_kept fitful obliges_fitful .completion false haunted fits running
  exact ⟨obliges_fitful, fits, running, by decide, by decide, by decide, by decide, kept.1, kept.2.2⟩

end Depot

end WorkFarm
