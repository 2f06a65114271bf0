import WorkFarm.Proofs.Catalogue
/-!
# What a vault keeps

Two operations are meant to leave alone what is fetched. Staging moves a payload out of the way and keeps it as
text, and storing brings a payload under an id of its own. Each of them does so up to a limit.

What is staged is fetched as it was, however often it is staged and fetched again and whatever happens to other
ids, as long as its text can be read (`fetch_of_staged`). A payload that is nested too deep is taken in, handed out
and staged without a word, and is missed only when it is asked for once more (`fetch_of_staged_boxes`).

What is stored gets an id that is greater than all that were set before, and disturbs nothing, as long as the
greatest id of all was not given out (`store_fresh`). After that id comes zero, and nobody looks whether there is
a payload under it (`store_fresh_wrapped`).

## Main definitions

* `Vault.Shelved` — a payload is staged, and only staged
* `TaskId.greatest` — the id that is followed by zero

## Main statements

* `fetch_of_staged` — what is fetched once a payload was staged
* `store_fresh` — the id under which a payload is stored
-/

namespace WorkFarm

namespace Vault

variable {v v' : Vault} {m : Catalogue} {id : TaskId} {p : Json}

/-! ### Staged payloads -/

/-- The payload of an id is staged, and no other one of this id is hot. -/
structure Shelved (v : Vault) (id : TaskId) (p : Json) : Prop where
  hot : v.hot.get? id = none
  staged : v.staged.get? id = some p

/-- The text of a payload is read, if it is not nested too deep. -/
theorem Shelved.fetch_of_shallow (shelved : v.Shelved id p) (shallow : p.depth ≤ Json.nestingLimit) :
    v.fetch id = .ok ⟨id, p⟩ := by
  rw [fetch, shelved.hot, shelved.staged]
  dsimp only
  rw [(p.beyond?_eq_none_iff _).mpr shallow]

/-- If it is, its reader says where. -/
theorem Shelved.fetch_of_deep (shelved : v.Shelved id p) (deep : Json.nestingLimit < p.depth) :
    ∃ n, p.beyond? Json.nestingLimit = some n ∧ v.fetch id = .error (.unreadable id (tooDeep n)) := by
  have some : p.beyond? Json.nestingLimit ≠ none :=
    fun none => Nat.not_le.mpr deep ((p.beyond?_eq_none_iff _).mp none)
  obtain ⟨n, stops⟩ := Option.ne_none_iff_exists'.mp some
  refine ⟨n, stops, ?_⟩
  rw [fetch, shelved.hot, shelved.staged]
  dsimp only
  rw [stops]

/-- Staging what is staged changes nothing. -/
theorem Shelved.stage_eq (shelved : v.Shelved id p) : v.stage id = .ok v := by
  rw [stage, shelved.hot]
  dsimp only
  rw [if_pos]
  rw [Table.contains, shelved.staged]
  rfl

/-- Whatever can be fetched can be staged. -/
theorem exists_stage_of_fetch {t : Task} (fetched : v.fetch id = .ok t) :
    ∃ v', v.stage id = .ok v' ∧ v'.Shelved id t.payload := by
  cases hot : v.hot.get? id with
  | some p =>
    have read : v.fetch id = .ok ⟨id, p⟩ := by rw [fetch, hot]
    obtain rfl : ⟨id, p⟩ = t := Except.ok.inj (read.symm.trans fetched)
    refine ⟨_, by rw [stage, hot], ?_, ?_⟩
    · exact Table.get?_erase_self v.hot id
    · exact Table.get?_insert_self v.staged id p
  | none =>
    obtain ⟨-, hot' | staged⟩ := fetch_eq_ok fetched
    · rw [hot] at hot'
      cases hot'
    · have shelved : v.Shelved id t.payload := ⟨hot, staged⟩
      exact ⟨v, shelved.stage_eq, shelved⟩

/-- Nothing else matters than what is under the id itself. -/
theorem Shelved.congr (shelved : v.Shelved id p) (hot : v'.hot.get? id = v.hot.get? id)
    (staged : v'.staged.get? id = v.staged.get? id) : v'.Shelved id p :=
  ⟨hot.trans shelved.hot, staged.trans shelved.staged⟩

/-- A staged payload stays where it is, unless it is set anew or removed. -/
theorem Shelved.perform (shelved : v.Shelved id p) {op : Op} (set : v.setting? op ≠ some id)
    (removed : op ≠ .evict id) : (v.perform op).2.Shelved id p := by
  cases op with
  | store q =>
    have other : id ≠ v.nextId := fun here => set (congrArg some here.symm)
    exact shelved.congr (Table.get?_insert_of_ne v.hot q other) rfl
  | insert j q =>
    have other : id ≠ j := fun here => set (congrArg some here.symm)
    exact shelved.congr (Table.get?_insert_of_ne v.hot q other) (Table.get?_erase_of_ne v.staged other)
  | fetch j => exact shelved
  | stage j =>
    show (v.settle (v.stage j)).2.Shelved id p
    by_cases here : id = j
    · rw [← here, shelved.stage_eq]
      exact shelved
    · unfold stage
      split
      · rename_i q _
        exact shelved.congr (Table.get?_erase_of_ne v.hot here) (Table.get?_insert_of_ne v.staged q here)
      · split <;> exact shelved
  | evict j =>
    have other : id ≠ j := fun here => removed (congrArg Op.evict here.symm)
    show (v.settle (v.evict j)).2.Shelved id p
    unfold evict
    split
    · exact shelved.congr (Table.get?_erase_of_ne v.hot other) (Table.get?_erase_of_ne v.staged other)
    · exact shelved

theorem Shelved.after (shelved : v.Shelved id p) {ops : List Op} (set : id ∉ v.settings ops)
    (removed : .evict id ∉ ops) : (v.after ops).Shelved id p := by
  induction ops generalizing v with
  | nil => exact shelved
  | cons op ops ih =>
    obtain ⟨now, later⟩ := not_or.mp (mt List.mem_append.mpr set)
    obtain ⟨first, rest⟩ := not_or.mp (mt List.mem_cons.mpr removed)
    exact ih (shelved.perform (fun here => now (by simp [here])) (Ne.symm first)) later rest

/-- **What is fetched once a payload was staged.** Whatever can be fetched can be staged. After that it is fetched
as it was if it is not nested deeper than a reader goes, and is unreadable otherwise, since its reader stops at
the first bracket that is too deep; and so it stays, and can be staged again, whatever is done to the vault, as
long as the payload is not set anew or removed. -/
theorem fetch_of_staged (v : Vault) (id : TaskId) (t : Task) (fetched : v.fetch id = .ok t) :
    ∃ v', v.stage id = .ok v' ∧ ∀ ops : List Op, id ∉ v'.settings ops → .evict id ∉ ops →
      (v'.after ops).stage id = .ok (v'.after ops) ∧
      (t.payload.depth ≤ Json.nestingLimit → (v'.after ops).fetch id = .ok t) ∧
      (Json.nestingLimit < t.payload.depth → ∃ n, t.payload.beyond? Json.nestingLimit = some n ∧
        (v'.after ops).fetch id = .error (.unreadable id (tooDeep n))) := by
  obtain ⟨v', staged, shelved⟩ := exists_stage_of_fetch fetched
  refine ⟨v', staged, fun ops set removed => ?_⟩
  have shelved := shelved.after set removed
  obtain ⟨rfl, -⟩ := fetch_eq_ok fetched
  exact ⟨shelved.stage_eq, shelved.fetch_of_shallow, shelved.fetch_of_deep⟩

/-- A payload that is nested as deep as a reader goes, and one that is nested one deeper. -/
def brim : List Op := [.store (boxes 127), .store (boxes 128)]

set_option maxRecDepth 4000 in
/-- A payload that is nested as deep as a reader goes is fetched as it was, while others come and go. -/
theorem fetch_of_staged_brim :
    let v := after {} brim
    let ops : List Op := [.fetch ⟨1⟩, .stage ⟨2⟩, .insert ⟨7⟩ .null, .stage ⟨1⟩, .store .null, .evict ⟨7⟩]
    v.fetch ⟨1⟩ = .ok ⟨⟨1⟩, boxes 127⟩ ∧
      ∃ v', v.stage ⟨1⟩ = .ok v' ∧ (v'.after ops).fetch ⟨1⟩ = .ok ⟨⟨1⟩, boxes 127⟩ := by
  intro v ops
  obtain ⟨v', staged, keeps⟩ := fetch_of_staged v ⟨1⟩ ⟨⟨1⟩, boxes 127⟩ rfl
  refine ⟨rfl, v', staged, ?_⟩
  obtain rfl : _ = v' := Except.ok.inj staged
  exact (keeps ops (by decide) (by simp [ops])).2.1 (by decide)

set_option maxRecDepth 4000 in
/-- **A payload that was fetched and staged cannot be fetched again.** It is nested one deeper than a reader
goes. -/
theorem fetch_of_staged_boxes :
    let v := after {} brim
    v.fetch ⟨2⟩ = .ok ⟨⟨2⟩, boxes 128⟩ ∧
      ∃ v', v.stage ⟨2⟩ = .ok v' ∧ v'.fetch ⟨2⟩ = .error (.unreadable ⟨2⟩ (tooDeep 127)) :=
  ⟨rfl, _, rfl, rfl⟩

end Vault

/-! ### Ids for what is stored -/

namespace TaskId

/-- The greatest id. The id that follows is zero. -/
def greatest : TaskId := .ofNat (wordCount 64 - 1)

theorem toNat_succ_lt {id : TaskId} (other : id ≠ greatest) : id.toNat + 1 < wordCount 64 := by
  have word : id.toNat < wordCount 64 := id.val.toNat_lt
  by_contra full
  have top : id.toNat = wordCount 64 - 1 := by omega
  refine other ?_
  rw [greatest, ← top, ofNat, toNat, UInt64.ofNat_toNat]

end TaskId

namespace Vault

variable {v : Vault} {m : Catalogue}

/-- Numbers do not run out before the greatest id has been used. -/
theorem Mirrors.next_lt_perform (mirrors : Mirrors v m) (op : Op) (room : m.next < wordCount 64)
    (unused : v.setting? op ≠ some .greatest) : (m.perform op).2.next < wordCount 64 := by
  have number := mirrors.nextId
  cases op with
  | store p =>
    have other : v.nextId ≠ .greatest := fun last => unused (congrArg some last)
    have := TaskId.toNat_succ_lt other
    show m.next + 1 < wordCount 64
    omega
  | insert id p =>
    have other : id ≠ .greatest := fun last => unused (congrArg some last)
    have := TaskId.toNat_succ_lt other
    show max m.next (id.toNat + 1) < wordCount 64
    omega
  | fetch id => exact room
  | stage id | evict id =>
    rw [Catalogue.perform]
    split <;> exact room

theorem Mirrors.next_lt_after (mirrors : Mirrors v m) {ops : List Op} (room : m.next < wordCount 64)
    (unused : .greatest ∉ v.settings ops) : (m.after ops).next < wordCount 64 := by
  induction ops generalizing v m with
  | nil => exact room
  | cons op ops ih =>
    obtain ⟨now, later⟩ := not_or.mp (mt List.mem_append.mpr unused)
    have first := mirrors.next_lt_perform op room fun last => now (by simp [last])
    exact ih (mirrors.perform op first).2 first later

/-- Storing disturbs nothing but what is under the id that it gives out. -/
theorem fetch_store_of_ne (v : Vault) (p : Json) {id : TaskId} (other : id ≠ (v.store p).1) :
    (v.store p).2.fetch id = v.fetch id := by
  have same : (v.store p).2.hot.get? id = v.hot.get? id := Table.get?_insert_of_ne v.hot p other
  rw [fetch, same]
  rfl

/-- **The id under which a payload is stored.** As long as the greatest id was not used, a payload is stored under
an id that is greater than all that were used before, under which there is nothing. So no other payload is
fetched otherwise than before. -/
theorem store_fresh (before : List Op) (p : Json) (unused : .greatest ∉ settings {} before) :
    let v := after {} before
    (∀ id ∈ settings {} before, id.toNat < (v.store p).1.toNat) ∧ v.contains (v.store p).1 = false ∧
      ∀ id, v.contains id = true → (v.store p).2.fetch id = v.fetch id := by
  intro v
  have room : (Catalogue.after {} before).next < wordCount 64 :=
    Mirrors.start.next_lt_after (by decide) unused
  have mirrors := Mirrors.start.after before room
  have new : v.contains v.nextId = false := by
    rw [mirrors.contains_eq, Bool.eq_false_iff]
    intro has
    exact Nat.lt_irrefl _ (mirrors.nextId ▸ mirrors.below _ has)
  refine ⟨Mirrors.start.settings_lt before room, new, fun id has => v.fetch_store_of_ne p ?_⟩
  rintro rfl
  rw [show v.contains v.nextId = true from has] at new
  cases new

/-- Payloads under the least id and the last one before the greatest. -/
def ends : List Op := [.insert ⟨0⟩ (.bool true), .insert ⟨0xFFFFFFFFFFFFFFFE⟩ .null, .stage ⟨0⟩]

/-- The greatest id is given out, too. -/
theorem store_fresh_ends :
    let v := after {} ends
    .greatest ∉ settings {} ends ∧ (v.store .null).1 = .greatest ∧ v.contains .greatest = false ∧
      (v.store .null).2.fetch ⟨0⟩ = v.fetch ⟨0⟩ := by
  intro v
  have unused : .greatest ∉ settings {} ends := by decide
  obtain ⟨-, new, same⟩ := store_fresh ends .null unused
  exact ⟨unused, by decide, new, same ⟨0⟩ (by decide)⟩

/-- **After the greatest id comes zero, whatever is there.** Nothing was inserted under the greatest id, but a
payload was stored under it, and the next one takes the place of the one under zero. -/
theorem store_fresh_wrapped :
    let ops := ends ++ [.store .null]
    let v := after {} ops
    (∀ id p, .insert id p ∈ ops → id ≠ .greatest) ∧ v.fetch ⟨0⟩ = .ok ⟨⟨0⟩, .bool true⟩ ∧
      v.contains (v.store .null).1 = true ∧ (v.store .null).2.fetch ⟨0⟩ = .ok ⟨⟨0⟩, .null⟩ := by
  refine ⟨fun id p mem => ?_, rfl, by decide, rfl⟩
  simp only [ends, List.mem_append, List.mem_cons, List.not_mem_nil, or_false, reduceCtorEq,
    Op.insert.injEq] at mem
  rcases mem with ⟨rfl, -⟩ | ⟨rfl, -⟩ <;> decide

end Vault

end WorkFarm
