/-!
# Finite tables

A `Table κ α` relates finitely many keys to values. Its entries stand in the order in which their
keys were last written, and no key occurs twice, so the number of entries is the number of keys.

## Main definitions

* `Table.get?`, `Table.contains`, `Table.size` — what a table shows of itself
* `Table.insert`, `Table.erase` — writing and removing one key

## Design

A table is a list of pairs with the uniqueness of its keys as a proof field. The tables of this
library are short, and a list evaluates inside the logic, which hashed storage does not.
Every operation is characterised through `get?`.
-/

namespace WorkFarm

universe u v w

/-- Finitely many keys, each with a value. -/
structure Table (κ : Type u) (α : Type v) where
  /-- The entries, the key written last standing last. -/
  entries : List (κ × α) := []
  /-- No key occurs twice. -/
  nodup : (entries.map Prod.fst).Nodup := by simp
deriving Repr

namespace Table

variable {κ : Type u} {α : Type v} {β : Type w}

instance : EmptyCollection (Table κ α) := ⟨{}⟩

instance : Inhabited (Table κ α) := ⟨∅⟩

def size (t : Table κ α) : Nat := t.entries.length

def isEmpty (t : Table κ α) : Bool := t.entries.isEmpty

/-- The keys, the one written last standing last. -/
def keys (t : Table κ α) : List κ := t.entries.map Prod.fst

/-- The values, in the order of their keys. -/
def values (t : Table κ α) : List α := t.entries.map Prod.snd

variable [DecidableEq κ]

/-- The value of the first pair with key `k`. -/
def find (k : κ) : List (κ × α) → Option α
  | [] => none
  | e :: rest => if e.1 = k then some e.2 else find k rest

/-- The value of `k`, if `k` has one. -/
def get? (t : Table κ α) (k : κ) : Option α := find k t.entries

/-- Whether `k` has a value. -/
def contains (t : Table κ α) (k : κ) : Bool := (t.get? k).isSome

/-- Removes `k` with its value. -/
def erase (t : Table κ α) (k : κ) : Table κ α where
  entries := t.entries.filter (fun e => e.1 ≠ k)
  nodup := t.nodup.sublist (List.filter_sublist.map Prod.fst)

/-- Gives `k` the value `a`, whatever it had before, and makes it the key written last. -/
def insert (t : Table κ α) (k : κ) (a : α) : Table κ α where
  entries := (t.erase k).entries ++ [(k, a)]
  nodup := by
    rw [List.map_append, List.nodup_append]
    refine ⟨(t.erase k).nodup, by simp, fun x hx y hy => ?_⟩
    simp only [erase, List.mem_map, List.mem_filter, decide_eq_true_eq] at hx
    obtain ⟨e, ⟨-, hne⟩, rfl⟩ := hx
    simp_all

/-- The table in which the pairs are written one after another, so that the last value of a key
stays. -/
def ofList (entries : List (κ × α)) : Table κ α :=
  entries.foldl (fun t e => t.insert e.1 e.2) ∅

/-! ### What each operation does to `get?` -/

theorem find_filter_ne (k j : κ) (l : List (κ × α)) :
    find j (l.filter (fun e => e.1 ≠ k)) = if j = k then none else find j l := by
  induction l with
  | nil => simp [find]
  | cons e l ih =>
    by_cases he : e.1 = k
    · simp only [List.filter, he, ne_eq, not_true_eq_false, decide_false, find]
      rw [ih]; by_cases hj : j = k <;> simp_all [eq_comm]
    · simp only [List.filter, he, ne_eq, not_false_eq_true, decide_true, find]
      rw [ih]; by_cases hj : j = k <;> simp_all

theorem find_append (j : κ) (l l' : List (κ × α)) :
    find j (l ++ l') = (find j l).or (find j l') := by
  induction l with
  | nil => simp [find]
  | cons e l ih => by_cases he : e.1 = j <;> simp [find, he, ih]

@[simp] theorem get?_empty (k : κ) : (∅ : Table κ α).get? k = none := rfl

theorem get?_erase (t : Table κ α) (k j : κ) :
    (t.erase k).get? j = if j = k then none else t.get? j :=
  find_filter_ne k j t.entries

theorem get?_insert (t : Table κ α) (k j : κ) (a : α) :
    (t.insert k a).get? j = if j = k then some a else t.get? j := by
  show find j ((t.erase k).entries ++ [(k, a)]) = _
  have h : find j (t.erase k).entries = if j = k then none else t.get? j := get?_erase t k j
  rw [find_append, h]
  by_cases hj : j = k
  · subst hj; simp [find]
  · simp [find, hj, Ne.symm hj]

@[simp] theorem get?_erase_self (t : Table κ α) (k : κ) : (t.erase k).get? k = none := by
  simp [get?_erase]

@[simp] theorem get?_insert_self (t : Table κ α) (k : κ) (a : α) :
    (t.insert k a).get? k = some a := by
  simp [get?_insert]

theorem mem_keys_iff (t : Table κ α) (k : κ) : k ∈ t.keys ↔ (t.get? k).isSome := by
  obtain ⟨l, hl⟩ := t
  simp only [keys, get?]
  clear hl
  induction l with
  | nil => simp [find]
  | cons e l ih =>
    by_cases he : e.1 = k
    · simp [find, he]
    · simp only [List.map_cons, List.mem_cons, find, he, if_false, Ne.symm he, false_or, ih]

end Table

end WorkFarm
