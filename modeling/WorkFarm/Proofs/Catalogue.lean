import Mathlib.Data.List.Nodup
import Mathlib.Data.List.Perm.Basic
import WorkFarm.Proofs.Table
import WorkFarm.Proofs.Vault
/-!
# The vault as a catalogue

A vault keeps payloads in two places, and what an operation does depends on the place. The catalogue says
what is meant: it is one table of payloads, with a list of the ids whose payload was staged since it was
last set, and it numbers what is stored without ever coming to a greatest number. A vault and a catalogue
that go through the same operations give the same answers (`answers_eq_catalogue`), as long as the number
of the next payload is a word of 64 bits.

Staging does nothing to the table. All that it can be told by is that a payload which is nested too deep
for the reader is refused once it has been staged.

## Main definitions

* `Catalogue` — one table of payloads
* `Vault.Op`, `Vault.answers`, `Catalogue.answers` — what is done to either, and what is seen of it
* `Vault.settings` — the ids under which payloads were stored or inserted
* `Vault.Mirrors` — a vault stands where a catalogue stands

## Main statements

* `Vault.Mirrors.perform` — every operation gives the same answer
* `Vault.answers_eq_catalogue` — a vault is a catalogue
-/

namespace WorkFarm

theorem TaskId.toNat_next {id : TaskId} (room : id.toNat + 1 < wordCount 64) :
    id.next.toNat = id.toNat + 1 := by
  have bound : wordCount 64 = 2 ^ 64 := rfl
  rw [bound] at room
  show (id.val + 1).toNat = id.val.toNat + 1
  rw [UInt64.toNat_add]
  exact Nat.mod_eq_of_lt room

namespace Vault

/-- Why an operation was refused, less the text of the reader. -/
inductive Refusal where
  | notFound (id : TaskId)
  | unreadable (id : TaskId)
  | backend
deriving DecidableEq, Repr

/-- The refusal that an error amounts to. -/
def Refusal.of : StoreError → Refusal
  | .notFound id => .notFound id
  | .unreadable id _ => .unreadable id
  | .backend _ => .backend

/-- What can be done to a vault. -/
inductive Op where
  | store (payload : Json)
  | insert (id : TaskId) (payload : Json)
  | fetch (id : TaskId)
  | stage (id : TaskId)
  | evict (id : TaskId)

/-- The answer to an operation. -/
inductive Reply where
  /-- The payload was stored under this id. -/
  | stored (id : TaskId)
  | done
  | task (t : Task)
  | refused (why : Refusal)

/-- The answer that shows a result, or why there is none. -/
def Reply.of {α : Type} (shown : α → Reply) : Except StoreError α → Reply
  | .ok a => shown a
  | .error e => .refused (.of e)

/-- Does an operation; the result is its answer. -/
def perform (v : Vault) : Op → Reply × Vault
  | .store p => (.stored (v.store p).1, (v.store p).2)
  | .insert id p => (.done, v.insert id p)
  | .fetch id => (.of .task (v.fetching id).1, (v.fetching id).2)
  | .stage id => (.of (fun _ => .done) (v.staging id).1, (v.staging id).2)
  | .evict id => (.of (fun _ => .done) (v.evicting id).1, (v.evicting id).2)

/-- Does all the operations. -/
def after (v : Vault) : List Op → Vault
  | [] => v
  | op :: ops => (v.perform op).2.after ops

/-- The answer to each operation, and the number of payloads after it. -/
def answers (v : Vault) : List Op → List (Reply × Nat)
  | [] => []
  | op :: ops => ((v.perform op).1, (v.perform op).2.size) :: (v.perform op).2.answers ops

/-- The id under which an operation sets a payload, if it sets one. -/
def setting? (v : Vault) : Op → Option TaskId
  | .store _ => some v.nextId
  | .insert id _ => some id
  | _ => none

/-- The ids under which payloads are set, in turn. -/
def settings (v : Vault) : List Op → List TaskId
  | [] => []
  | op :: ops => (v.setting? op).toList ++ (v.perform op).2.settings ops

end Vault

/-- Payloads by their ids. -/
structure Catalogue where
  payloads : Table TaskId Json := ∅
  /-- The ids whose payload was staged since it was last set. -/
  staged : List TaskId := []
  /-- The number of the next payload that is stored. -/
  next : Nat := 1

namespace Catalogue

open Vault (Op Reply)

/-- Sets a payload, which is not staged then. -/
def set (m : Catalogue) (id : TaskId) (p : Json) : Catalogue :=
  { m with payloads := m.payloads.insert id p, staged := m.staged.filter (· ≠ id) }

/-- The answer to fetching: only a staged payload can be nested too deep. -/
def fetch (m : Catalogue) (id : TaskId) : Reply :=
  match m.payloads.get? id with
  | none => .refused (.notFound id)
  | some p =>
    if id ∈ m.staged ∧ Json.nestingLimit < p.depth then .refused (.unreadable id)
    else .task ⟨id, p⟩

/-- Does to a catalogue what the operation does to a vault. -/
def perform (m : Catalogue) : Op → Reply × Catalogue
  | .store p => (.stored (.ofNat m.next), { m.set (.ofNat m.next) p with next := m.next + 1 })
  | .insert id p => (.done, { m.set id p with next := max m.next (id.toNat + 1) })
  | .fetch id => (m.fetch id, m)
  | .stage id =>
    if m.payloads.contains id then (.done, { m with staged := id :: m.staged })
    else (.refused (.notFound id), m)
  | .evict id =>
    if m.payloads.contains id then
      (.done, { m with
        payloads := m.payloads.erase id
        staged := m.staged.filter (· ≠ id) })
    else (.refused (.notFound id), m)

/-- Does all the operations. -/
def after (m : Catalogue) : List Op → Catalogue
  | [] => m
  | op :: ops => (m.perform op).2.after ops

/-- The answer to each operation, and the number of payloads after it. -/
def answers (m : Catalogue) : List Op → List (Reply × Nat)
  | [] => []
  | op :: ops =>
    ((m.perform op).1, (m.perform op).2.payloads.size) :: (m.perform op).2.answers ops

/-! ### The numbers go up -/

theorem next_le_perform (m : Catalogue) (op : Op) : m.next ≤ (m.perform op).2.next := by
  cases op with
  | store p => exact Nat.le_succ m.next
  | insert id p => exact Nat.le_max_left ..
  | fetch id => exact Nat.le_refl _
  | stage id | evict id =>
    rw [perform]
    split <;> exact Nat.le_refl _

theorem next_le_after (m : Catalogue) (ops : List Op) : m.next ≤ (m.after ops).next := by
  induction ops generalizing m with
  | nil => exact Nat.le_refl _
  | cons op ops ih => exact Nat.le_trans (m.next_le_perform op) (ih _)

theorem after_append (m : Catalogue) (ops ops' : List Op) :
    m.after (ops ++ ops') = (m.after ops).after ops' := by
  induction ops generalizing m with
  | nil => rfl
  | cons op ops ih => exact ih _

end Catalogue

namespace Vault

variable {v : Vault} {m : Catalogue} {id : TaskId}

/-- An operation that is refused changes nothing. -/
theorem perform_of_refused {op : Op} {why : Refusal} (refused : (v.perform op).1 = .refused why) :
    (v.perform op).2 = v := by
  have settled : ∀ result : Except StoreError Vault,
      Reply.of (fun _ => .done) (v.settle result).1 = .refused why → (v.settle result).2 = v := by
    rintro (e | v') refused
    · rfl
    · cases refused
  cases op with
  | store p => cases refused
  | insert id p => cases refused
  | fetch id => rfl
  | stage id => exact settled _ refused
  | evict id => exact settled _ refused

/-- The vault stands where the catalogue stands. -/
structure Mirrors (v : Vault) (m : Catalogue) : Prop where
  /-- What is not staged is hot. -/
  hot : ∀ id, v.hot.get? id = if id ∈ m.staged then none else m.payloads.get? id
  staged : ∀ id, v.staged.get? id = if id ∈ m.staged then m.payloads.get? id else none
  nextId : v.nextId.toNat = m.next
  /-- Nothing is staged that is not there. -/
  listed : ∀ id ∈ m.staged, m.payloads.contains id = true
  /-- Whatever is there has a smaller number than what is stored next. -/
  below : ∀ id, m.payloads.contains id = true → id.toNat < m.next

namespace Mirrors

theorem start : Mirrors {} {} where
  hot _ := rfl
  staged _ := rfl
  nextId := rfl
  listed _ mem := absurd mem List.not_mem_nil
  below _ has := by cases has

/-! ### What is seen of the two -/

theorem contains_eq (mirrors : Mirrors v m) (id : TaskId) :
    v.contains id = m.payloads.contains id := by
  rw [Vault.contains, Table.contains, Table.contains, mirrors.hot, mirrors.staged, Table.contains]
  split <;> simp

theorem contains_staged_iff (mirrors : Mirrors v m) :
    v.staged.contains id = true ↔ id ∈ m.staged := by
  rw [Table.contains, mirrors.staged]
  split
  · rename_i staged
    exact iff_of_true (mirrors.listed id staged) staged
  · rename_i hot
    exact iff_of_false (by simp) hot

theorem holds_iff (mirrors : Mirrors v m) {p : Json} :
    v.Holds id p ↔ m.payloads.get? id = some p := by
  rw [Holds, mirrors.hot, mirrors.staged]
  split <;> simp

/-- No payload is in both places. -/
theorem apart (mirrors : Mirrors v m) (id : TaskId) :
    v.hot.get? id = none ∨ v.staged.get? id = none := by
  rw [mirrors.hot, mirrors.staged]
  split
  · exact .inl rfl
  · exact .inr rfl

theorem size_eq (mirrors : Mirrors v m) : v.size = m.payloads.size := by
  have nodup : (v.hot.keys ++ v.staged.keys).Nodup := by
    refine List.nodup_append.mpr ⟨v.hot.nodup, v.staged.nodup, ?_⟩
    rintro id hot _ staged rfl
    rw [Table.mem_keys_iff] at hot staged
    rcases mirrors.apart id with none | none
    · simp [none] at hot
    · simp [none] at staged
  have perm : (v.hot.keys ++ v.staged.keys).Perm m.payloads.keys := by
    refine (List.perm_ext_iff_of_nodup nodup m.payloads.nodup).mpr ?_
    intro id
    have same : v.contains id = m.payloads.contains id := mirrors.contains_eq id
    show id ∈ v.hot.keys ++ v.staged.keys ↔ id ∈ m.payloads.keys
    rw [List.mem_append, Table.mem_keys_iff, Table.mem_keys_iff, Table.mem_keys_iff,
      ← Bool.or_eq_true]
    exact Bool.eq_iff_iff.mp same
  rw [Vault.size, Table.size_eq_length_keys, Table.size_eq_length_keys, ← List.length_append,
    perm.length_eq, Table.size_eq_length_keys]

/-! ### Every operation -/

/-- Setting a payload makes it hot, wherever the last one of this id was. -/
theorem set (mirrors : Mirrors v m) (p : Json) {staged : Table TaskId Json} {nextId : TaskId} {n : Nat}
    (cleared : ∀ j, staged.get? j = if j = id then none else v.staged.get? j)
    (number : nextId.toNat = n) (grows : m.next ≤ n) (fits : id.toNat < n) :
    Mirrors { hot := v.hot.insert id p, staged, nextId } { m.set id p with next := n } := by
  refine ⟨?_, ?_, number, ?_, ?_⟩
  · intro j
    show (v.hot.insert id p).get? j
      = if j ∈ m.staged.filter (· ≠ id) then none else (m.payloads.insert id p).get? j
    rw [Table.get?_insert, Table.get?_insert, mirrors.hot]
    by_cases here : j = id <;> simp [here]
  · intro j
    show staged.get? j
      = if j ∈ m.staged.filter (· ≠ id) then (m.payloads.insert id p).get? j else none
    rw [cleared, Table.get?_insert, mirrors.staged]
    by_cases here : j = id <;> simp [here]
  · intro j mem
    obtain ⟨mem, other⟩ := List.mem_filter.mp mem
    show ((m.payloads.insert id p).get? j).isSome = true
    rw [Table.get?_insert, if_neg (by simpa using other)]
    exact mirrors.listed j mem
  · intro j has
    have has : ((m.payloads.insert id p).get? j).isSome = true := has
    rw [Table.get?_insert] at has
    split at has
    · rename_i here
      exact here ▸ fits
    · exact Nat.lt_of_lt_of_le (mirrors.below j has) grows

/-- The next payload is stored under an id that nothing has, so nothing is staged under it. -/
theorem store (mirrors : Mirrors v m) (p : Json) (room : m.next + 1 < wordCount 64) :
    (v.store p).1 = .ofNat m.next ∧
      Mirrors (v.store p).2 { m.set (.ofNat m.next) p with next := m.next + 1 } := by
  have number : v.nextId.toNat = m.next := mirrors.nextId
  have own : v.nextId = .ofNat m.next := by
    rw [TaskId.ofNat, ← number, TaskId.toNat, UInt64.ofNat_toNat]
  have fresh : v.staged.get? v.nextId = none := by
    rw [mirrors.staged, if_neg]
    intro staged
    have below := mirrors.below _ (mirrors.listed _ staged)
    omega
  have next : v.nextId.next.toNat = m.next + 1 := by
    rw [TaskId.toNat_next (by omega), number]
  refine ⟨own, own ▸ mirrors.set p ?_ next (by omega) (by omega)⟩
  intro j
  split
  · rename_i here
    exact here ▸ fresh
  · rfl

/-- Inserting a payload also takes the numbers past its id. -/
theorem insert (mirrors : Mirrors v m) (id : TaskId) (p : Json)
    (room : max m.next (id.toNat + 1) < wordCount 64) :
    Mirrors (v.insert id p) { m.set id p with next := max m.next (id.toNat + 1) } := by
  have number : v.nextId.toNat = m.next := mirrors.nextId
  have next : id.next.toNat = id.toNat + 1 := TaskId.toNat_next (by omega)
  refine mirrors.set p (fun j => Table.get?_erase v.staged id j) ?_ ?_ ?_
  · show (if v.nextId.toNat < id.next.toNat then id.next else v.nextId).toNat = _
    split <;> omega
  all_goals omega

/-- The places may differ in an id that the vault has, if it is staged then. -/
theorem restage (mirrors : Mirrors v m) {v' : Vault} (has : m.payloads.contains id = true)
    (nextId : v'.nextId = v.nextId)
    (hot : ∀ j, v'.hot.get? j = if j = id then none else v.hot.get? j)
    (staged : ∀ j, v'.staged.get? j = if j = id then m.payloads.get? id else v.staged.get? j) :
    Mirrors v' { m with staged := id :: m.staged } where
  hot j := by
    rw [hot, mirrors.hot]
    by_cases here : j = id <;> simp [here]
  staged j := by
    rw [staged, mirrors.staged]
    by_cases here : j = id <;> simp [here]
  nextId := nextId ▸ mirrors.nextId
  listed j mem := by
    rcases List.mem_cons.mp mem with rfl | mem
    · exact has
    · exact mirrors.listed j mem
  below := mirrors.below

theorem stage (mirrors : Mirrors v m) (id : TaskId) :
    (v.perform (.stage id)).1 = (m.perform (.stage id)).1 ∧
      Mirrors (v.perform (.stage id)).2 (m.perform (.stage id)).2 := by
  have inHot := mirrors.hot id
  have inStaged := mirrors.staged id
  rw [Vault.perform, Vault.staging, Vault.stage, Catalogue.perform]
  by_cases before : id ∈ m.staged
  -- a payload that is staged stays so
  · have has := mirrors.listed id before
    rw [if_pos before] at inHot inStaged
    have there : v.staged.contains id = true := mirrors.contains_staged_iff.mpr before
    rw [inHot]
    dsimp only
    rw [if_pos there, if_pos has]
    refine ⟨rfl, mirrors.restage has rfl ?_ ?_⟩
    · intro j
      split
      · rename_i here
        exact here ▸ inHot
      · rfl
    · intro j
      split
      · rename_i here
        exact here ▸ inStaged
      · rfl
  · rw [if_neg before] at inHot inStaged
    rw [inHot, Table.contains, Table.contains, inStaged]
    cases payload : m.payloads.get? id with
    | none => exact ⟨rfl, mirrors⟩
    | some p =>
      refine ⟨rfl, mirrors.restage (by rw [Table.contains, payload]; rfl) rfl ?_ ?_⟩
      · exact fun j => Table.get?_erase v.hot id j
      · intro j
        rw [payload]
        exact Table.get?_insert v.staged id j p

theorem evict (mirrors : Mirrors v m) (id : TaskId) :
    (v.perform (.evict id)).1 = (m.perform (.evict id)).1 ∧
      Mirrors (v.perform (.evict id)).2 (m.perform (.evict id)).2 := by
  rw [Vault.perform, Vault.evicting, Vault.evict, Catalogue.perform, mirrors.contains_eq]
  split
  · refine ⟨rfl, ?_, ?_, mirrors.nextId, ?_, ?_⟩
    · intro j
      show (v.hot.erase id).get? j
        = if j ∈ m.staged.filter (· ≠ id) then none else (m.payloads.erase id).get? j
      rw [Table.get?_erase, Table.get?_erase, mirrors.hot]
      by_cases here : j = id <;> simp [here]
    · intro j
      show (v.staged.erase id).get? j
        = if j ∈ m.staged.filter (· ≠ id) then (m.payloads.erase id).get? j else none
      rw [Table.get?_erase, Table.get?_erase, mirrors.staged]
      by_cases here : j = id <;> simp [here]
    · intro j mem
      obtain ⟨mem, other⟩ := List.mem_filter.mp mem
      show ((m.payloads.erase id).get? j).isSome = true
      rw [Table.get?_erase, if_neg (by simpa using other)]
      exact mirrors.listed j mem
    · intro j has
      have has : ((m.payloads.erase id).get? j).isSome = true := has
      rw [Table.get?_erase] at has
      split at has
      · cases has
      · exact mirrors.below j has
  · exact ⟨rfl, mirrors⟩

/-- Only from its text can a payload be found to be nested too deep. -/
theorem fetch (mirrors : Mirrors v m) (id : TaskId) : Reply.of .task (v.fetch id) = m.fetch id := by
  rw [Vault.fetch, Catalogue.fetch, mirrors.hot, mirrors.staged]
  by_cases staged : id ∈ m.staged
  · rw [if_pos staged, if_pos staged]
    cases m.payloads.get? id with
    | none => rfl
    | some p =>
      dsimp only
      cases stops : p.beyond? Json.nestingLimit with
      | none =>
        rw [if_neg fun both => Nat.not_le.mpr both.2 ((p.beyond?_eq_none_iff _).mp stops)]
        rfl
      | some n =>
        have deep : Json.nestingLimit < p.depth := by
          rw [← Nat.not_le, ← p.beyond?_eq_none_iff, stops]
          exact nofun
        rw [if_pos ⟨staged, deep⟩]
        rfl
  · rw [if_neg staged, if_neg staged]
    cases m.payloads.get? id with
    | none => rfl
    | some p =>
      dsimp only
      rw [if_neg fun both => staged both.1]
      rfl

/-- **Every operation gets the same answer**, and the vault stands where the catalogue does. -/
theorem perform (mirrors : Mirrors v m) (op : Op)
    (room : (m.perform op).2.next < wordCount 64) :
    (v.perform op).1 = (m.perform op).1 ∧ Mirrors (v.perform op).2 (m.perform op).2 := by
  cases op with
  | store p =>
    obtain ⟨own, mirrors⟩ := mirrors.store p room
    exact ⟨congrArg Reply.stored own, mirrors⟩
  | insert id p => exact ⟨rfl, mirrors.insert id p room⟩
  | fetch id => exact ⟨mirrors.fetch id, mirrors⟩
  | stage id => exact mirrors.stage id
  | evict id => exact mirrors.evict id

/-! ### Every list of operations -/

theorem after (mirrors : Mirrors v m) (ops : List Op)
    (room : (m.after ops).next < wordCount 64) : Mirrors (v.after ops) (m.after ops) := by
  induction ops generalizing v m with
  | nil => exact mirrors
  | cons op ops ih =>
    have first := Nat.lt_of_le_of_lt ((m.perform op).2.next_le_after ops) room
    exact ih (mirrors.perform op first).2 room

theorem answers_eq (mirrors : Mirrors v m) (ops : List Op)
    (room : (m.after ops).next < wordCount 64) : v.answers ops = m.answers ops := by
  induction ops generalizing v m with
  | nil => rfl
  | cons op ops ih =>
    have first := Nat.lt_of_le_of_lt ((m.perform op).2.next_le_after ops) room
    obtain ⟨answer, mirrors⟩ := mirrors.perform op first
    rw [Vault.answers, Catalogue.answers, answer, mirrors.size_eq, ih mirrors room]

/-- The numbers go past every id under which a payload is set. -/
theorem setting_lt (mirrors : Mirrors v m) (op : Op) :
    ∀ id ∈ v.setting? op, id.toNat < (m.perform op).2.next := by
  have number := mirrors.nextId
  intro id set
  cases op with
  | store p =>
    cases set
    show v.nextId.toNat < m.next + 1
    omega
  | insert j p =>
    cases set
    show id.toNat < max m.next (id.toNat + 1)
    omega
  | fetch j => cases set
  | stage j => cases set
  | evict j => cases set

/-- The next payload gets an id that is greater than those under which any was set. -/
theorem settings_lt (mirrors : Mirrors v m) (ops : List Op)
    (room : (m.after ops).next < wordCount 64) :
    ∀ id ∈ v.settings ops, id.toNat < (v.after ops).nextId.toNat := by
  induction ops generalizing v m with
  | nil => exact fun id mem => absurd mem List.not_mem_nil
  | cons op ops ih =>
    have first := Nat.lt_of_le_of_lt ((m.perform op).2.next_le_after ops) room
    have mirrors' := (mirrors.perform op first).2
    intro id mem
    rcases List.mem_append.mp mem with set | later
    · have passed := mirrors.setting_lt op id (Option.mem_toList.mp set)
      rw [Vault.after, (mirrors'.after ops room).nextId]
      exact Nat.lt_of_lt_of_le passed ((m.perform op).2.next_le_after ops)
    · exact ih mirrors' room id later

end Mirrors

/-- **A vault is a catalogue.** As long as the number of the next payload is a word, a vault gives the
answers of one table of payloads, operation by operation, and has as many payloads; what is stored gets an
id greater than every id that was stored or inserted before; a refused operation changes nothing; and no
payload is in both places. -/
theorem answers_eq_catalogue (ops : List Op)
    (room : (Catalogue.after {} ops).next < wordCount 64) :
    answers {} ops = Catalogue.answers {} ops ∧
      (∀ before p later, ops = before ++ .store p :: later →
        ∃ new, ((after {} before).perform (.store p)).1 = .stored new ∧
          ∀ id ∈ settings {} before, id.toNat < new.toNat) ∧
      (∀ op why, ((after {} ops).perform op).1 = .refused why →
        ((after {} ops).perform op).2 = after {} ops) ∧
      (∀ id p, (after {} ops).Holds id p ↔ (Catalogue.after {} ops).payloads.get? id = some p) ∧
      (∀ id, (after {} ops).staged.contains id = true ↔ id ∈ (Catalogue.after {} ops).staged) ∧
      (∀ id, (after {} ops).hot.get? id = none ∨ (after {} ops).staged.get? id = none) ∧
      (after {} ops).size = (Catalogue.after {} ops).payloads.size := by
  have mirrors := Mirrors.start.after ops room
  refine ⟨Mirrors.start.answers_eq ops room, ?_, fun op why => perform_of_refused,
    fun id p => mirrors.holds_iff, fun id => mirrors.contains_staged_iff, mirrors.apart,
    mirrors.size_eq⟩
  rintro before p later rfl
  rw [Catalogue.after_append] at room
  have first := Nat.lt_of_le_of_lt (Catalogue.next_le_after _ _) room
  exact ⟨_, rfl, Mirrors.start.settings_lt before first⟩

/-- So many arrays inside each other. -/
def boxes : Nat → Json
  | 0 => .null
  | n + 1 => .arr [boxes n]

/-- A payload that is nested too deep is staged, set anew, staged again and removed. -/
def reshelving : List Op :=
  [.store (boxes 128), .fetch ⟨1⟩, .stage ⟨1⟩, .stage ⟨1⟩, .fetch ⟨1⟩, .insert ⟨1⟩ (boxes 127),
    .stage ⟨1⟩, .fetch ⟨1⟩, .insert ⟨7⟩ .null, .store .null, .evict ⟨1⟩, .evict ⟨1⟩, .stage ⟨1⟩,
    .fetch ⟨1⟩]

set_option maxRecDepth 4000 in
/-- The text of the first payload cannot be read, that of the second can; what is stored after the seventh
id gets the eighth. -/
theorem answers_eq_catalogue_reshelving :
    (Catalogue.after {} reshelving).next < wordCount 64 ∧
      answers {} reshelving = Catalogue.answers {} reshelving ∧
      answers {} reshelving =
        [(.stored ⟨1⟩, 1), (.task ⟨⟨1⟩, boxes 128⟩, 1), (.done, 1), (.done, 1),
          (.refused (.unreadable ⟨1⟩), 1), (.done, 1), (.done, 1), (.task ⟨⟨1⟩, boxes 127⟩, 1),
          (.done, 2), (.stored ⟨8⟩, 3), (.done, 2), (.refused (.notFound ⟨1⟩), 2),
          (.refused (.notFound ⟨1⟩), 2), (.refused (.notFound ⟨1⟩), 2)] := by
  have room : (Catalogue.after {} reshelving).next < wordCount 64 := by decide
  exact ⟨room, (answers_eq_catalogue reshelving room).1, rfl⟩

end Vault

end WorkFarm
