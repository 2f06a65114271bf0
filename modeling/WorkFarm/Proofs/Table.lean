import Mathlib.Data.List.Nodup
import Mathlib.Data.List.Perm.Basic
import WorkFarm.Table
/-!
# Tables as lists of entries

`WorkFarm.Table` characterises every operation through `get?`. Counting needs the other view: which
values a table has, and how many. This module ties the two together. Since no key occurs twice,
looking a key up and finding its entry in the list are the same thing (`get?_eq_some_iff`), and an
entry can be moved to the front of the values without changing the rest (`values_perm_cons_erase`).
-/

namespace WorkFarm

universe u v

namespace Table

variable {κ : Type u} {α : Type v} [DecidableEq κ]

/-! ### Other keys -/

theorem get?_insert_of_ne (t : Table κ α) {k j : κ} (a : α) (other : j ≠ k) :
    (t.insert k a).get? j = t.get? j := by
  rw [get?_insert, if_neg other]

theorem get?_erase_of_ne (t : Table κ α) {k j : κ} (other : j ≠ k) : (t.erase k).get? j = t.get? j := by
  rw [get?_erase, if_neg other]

/-! ### Entries -/

theorem find_eq_some_iff {l : List (κ × α)} (nodup : (l.map Prod.fst).Nodup) {k : κ} {a : α} :
    find k l = some a ↔ (k, a) ∈ l := by
  induction l with
  | nil => simp [find]
  | cons e l ih =>
    rw [List.map_cons, List.nodup_cons] at nodup
    by_cases he : e.1 = k
    · have absent : (k, a) ∉ l := fun mem => nodup.1 (he ▸ List.mem_map_of_mem mem)
      simp [find, he, absent, Prod.ext_iff, eq_comm]
    · simp [find, he, ih nodup.2, Prod.ext_iff, Ne.symm he]

theorem get?_eq_some_iff (t : Table κ α) {k : κ} {a : α} :
    t.get? k = some a ↔ (k, a) ∈ t.entries :=
  find_eq_some_iff t.nodup

theorem get?_eq_none_iff (t : Table κ α) {k : κ} : t.get? k = none ↔ k ∉ t.keys := by
  rw [mem_keys_iff, Option.not_isSome_iff_eq_none]

theorem mem_values_iff (t : Table κ α) {a : α} : a ∈ t.values ↔ ∃ k, t.get? k = some a := by
  simp only [values, List.mem_map, get?_eq_some_iff]
  constructor
  · rintro ⟨⟨k, a⟩, mem, rfl⟩
    exact ⟨k, mem⟩
  · rintro ⟨k, mem⟩
    exact ⟨(k, a), mem, rfl⟩

omit [DecidableEq κ] in
theorem size_eq_length_keys (t : Table κ α) : t.size = t.keys.length := by
  simp [size, keys]

omit [DecidableEq κ] in
theorem size_eq_length_values (t : Table κ α) : t.size = t.values.length := by
  simp [size, values]

/-- A table without keys is one that shows nothing. -/
theorem size_eq_zero_iff (t : Table κ α) : t.size = 0 ↔ ∀ k, t.get? k = none := by
  rw [size_eq_length_keys, List.length_eq_zero_iff, List.eq_nil_iff_forall_not_mem]
  exact forall_congr' fun k => t.get?_eq_none_iff.symm

omit [DecidableEq κ] in
@[simp] theorem values_empty : (∅ : Table κ α).values = [] := rfl

/-! ### What writing and removing do to the values -/

theorem entries_erase_of_get?_eq_none (t : Table κ α) {k : κ} (absent : t.get? k = none) :
    (t.erase k).entries = t.entries := by
  rw [get?_eq_none_iff] at absent
  refine List.filter_eq_self.mpr ?_
  intro e mem
  have : e.1 ≠ k := fun eq => absent (eq ▸ List.mem_map_of_mem mem)
  simpa using this

theorem values_insert (t : Table κ α) (k : κ) (a : α) :
    (t.insert k a).values = (t.erase k).values ++ [a] := by
  simp [values, insert]

theorem values_insert_of_get?_eq_none (t : Table κ α) {k : κ} (a : α)
    (absent : t.get? k = none) : (t.insert k a).values = t.values ++ [a] := by
  rw [values_insert, values, entries_erase_of_get?_eq_none t absent, values]

theorem perm_cons_filter {l : List (κ × α)} (nodup : (l.map Prod.fst).Nodup) {k : κ} {a : α}
    (mem : (k, a) ∈ l) : l.Perm ((k, a) :: l.filter (fun e => e.1 ≠ k)) := by
  induction l with
  | nil => simp at mem
  | cons e l ih =>
    rw [List.map_cons, List.nodup_cons] at nodup
    rcases List.mem_cons.mp mem with rfl | mem
    -- the entry stands in front, and no other one has its key
    · have rest : l.filter (fun e => e.1 ≠ k) = l := by
        refine List.filter_eq_self.mpr ?_
        intro e' mem'
        have : e'.1 ≠ k := fun eq => nodup.1 (List.mem_map.mpr ⟨e', mem', eq⟩)
        simpa using this
      rw [List.filter_cons_of_neg (by simp), rest]
    · have ne : e.1 ≠ k := fun eq => nodup.1 (eq ▸ List.mem_map_of_mem mem)
      rw [List.filter_cons_of_pos (by simpa using ne)]
      exact ((ih nodup.2 mem).cons e).trans (.swap ..)

/-- An entry can be moved to the front of the values. -/
theorem values_perm_cons_erase (t : Table κ α) {k : κ} {a : α} (h : t.get? k = some a) :
    t.values.Perm (a :: (t.erase k).values) :=
  (perm_cons_filter t.nodup ((get?_eq_some_iff t).mp h)).map Prod.snd

end Table

end WorkFarm
