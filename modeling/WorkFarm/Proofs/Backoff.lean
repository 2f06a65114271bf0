import Mathlib.Algebra.Order.Field.Power
import Mathlib.Data.Rat.Floor
import WorkFarm.Config.Settings
import WorkFarm.Proofs.Workday
/-!
# Delays that grow

A worker that finds nothing to do waits, and waits longer every time. How long is computed in numbers that are a
parameter, and here these are the rational numbers, which round nothing. What is left of the machine are its
words: attempts are counted in words of 32 bits, an exponent is a signed one, and a delay that grew
exponentially is cut to a word of 64 bits. Words wrap around; where arithmetic is checked instead, the delays are
the same, but one attempt has none (`delay?_eq_none_iff`).

If the delay is the same every time, or a multiple of the first one, words do no harm. If it grows exponentially
there are two limits. The exponent of an attempt is one less, taken as a signed word, so that it goes up to
`2 ^ 31 - 1` and is negative from then on: after so many attempts the delay is shorter than it was to begin with
(`plainDelay_lt`). And a first delay of more nanoseconds than a word holds is cut down to the greatest word.
Within these limits delays grow up to the longest one (`plainDelay_mono`, `le_plainDelay`).

## Main definitions

* `Backoff.Valid` — what has been checked of a delay before a worker uses it
* `Backoff.cut` — the delay that is made of a number of nanoseconds
* `Backoff.Early`, `Backoff.Brief` — the two limits

## Main statements

* `Backoff.delay_grows` — delays grow and stay within bounds
-/

namespace WorkFarm

universe u

/-- Exact numbers. -/
instance : Quantity ℚ where
  ofNat n := n
  mul x y := x * y
  reciprocal x := x⁻¹
  isFinite _ := true
  atLeast x y := y ≤ x
  toWord x := min ⌊x⌋₊ (wordCount 64 - 1)
  shown := toString

namespace Backoff

/-! ### What has been checked -/

/-- What has been checked of a delay before a worker uses it. -/
structure Valid {β : Type u} [Quantity β] (b : Backoff β) : Prop where
  /-- The first delay is a millisecond at least. -/
  positive : millisecond ≤ b.initial
  ordered : b.initial ≤ b.longest
  /-- The longest delay is a time that can be told. -/
  told : b.longest ≤ maxTime
  /-- A delay that grows exponentially does not shrink. -/
  grows : ∀ base, b.growth = .exponential base → Quantity.atLeast base (Quantity.ofNat 1 : β) = true

theorem ok_of_bind_ok {ε : Type} {x y : Except ε Unit} (passes : (x >>= fun _ => y) = .ok ()) :
    x = .ok () ∧ y = .ok () := by
  cases x with
  | error => cases passes
  | ok => exact ⟨rfl, passes⟩

theorem holds_of_ensure {domain message : String} {holds : Bool}
    (passes : Check.ensure domain holds message = .ok ()) : holds = true := by
  rw [Check.ensure] at passes
  split at passes
  · assumption
  · cases passes

/-- Settings that are valid make valid delays. -/
theorem Valid.of_check {β : Type} [Quantity β] {s : WorkerSettings β} (checked : s.check = .ok ())
    (told : s.poll.maxDelay ≤ maxTime) : s.poll.backoff.Valid := by
  obtain ⟨-, checked⟩ := ok_of_bind_ok checked
  obtain ⟨positive, checked⟩ := ok_of_bind_ok checked
  obtain ⟨ordered, grows⟩ := ok_of_bind_ok checked
  have positive : (0 : Int) < (s.poll.initialDelay / millisecond : Nat) :=
    of_decide_eq_true (holds_of_ensure positive)
  have ordered : s.poll.initialDelay ≤ s.poll.maxDelay := of_decide_eq_true (holds_of_ensure ordered)
  refine ⟨?_, ordered, told, fun base exponential => ?_⟩
  · show 1 * millisecond ≤ s.poll.initialDelay
    exact (Nat.le_div_iff_mul_le (by decide)).mp (Int.natCast_pos.mp positive)
  · rw [show s.poll.growth = .exponential base from exponential] at grows
    exact holds_of_ensure grows

/-! ### Powers -/

/-- What the last bit of an exponent gives. -/
theorem mul_pow_bit (r a : ℚ) (n : Nat) :
    (if n % 2 = 1 then Quantity.mul r a else r) = r * a ^ (n % 2) := by
  rcases Nat.mod_two_eq_zero_or_one n with even | odd
  · rw [even, pow_zero, mul_one]
    exact if_neg Nat.zero_ne_one
  · rw [odd, pow_one]
    exact if_pos rfl

theorem powerFrom_eq (r a : ℚ) (n : Nat) : powerFrom r a n = r * a ^ n := by
  fun_induction powerFrom r a n with
  | case1 r a n r' last =>
    have whole : n % 2 = n := by omega
    exact (mul_pow_bit r a n).trans (by rw [whole])
  | case2 r a n r' more ih =>
    have halves : n % 2 + 2 * (n / 2) = n := Nat.mod_add_div n 2
    calc
      _ = r' * (a * a) ^ (n / 2) := ih
      _ = r * a ^ (n % 2) * (a * a) ^ (n / 2) := congrArg (· * _) (mul_pow_bit r a n)
      _ = r * (a ^ (n % 2) * a ^ (2 * (n / 2))) := by rw [← pow_two, ← pow_mul, mul_assoc]
      _ = r * a ^ n := by rw [← pow_add, halves]

/-- A power is what it is called, also when its exponent is negative. -/
theorem power_eq (a : ℚ) (e : Int) : power a e = a ^ e := by
  have positive : powerFrom (Quantity.ofNat 1) a e.natAbs = a ^ e.natAbs := by
    rw [powerFrom_eq]
    exact (congrArg (· * _) Nat.cast_one).trans (one_mul _)
  rw [power, positive]
  split
  · have : e = -(e.natAbs : Int) := by omega
    conv_rhs => rw [this, zpow_neg, zpow_natCast]
    rfl
  · have : e = e.natAbs := by omega
    conv_rhs => rw [this, zpow_natCast]

theorem toInt_toInt32 (x : UInt32) : x.toInt32.toInt = (x.toNat : Int).bmod (2 ^ 32) := by
  rw [← Int32.toInt_toBitVec, UInt32.toBitVec_toInt32, BitVec.toInt_eq_toNat_bmod]
  rfl

/-- An exponent is one less than its attempt, as a signed word. -/
theorem exponent_eq {x : UInt32} (first : 1 ≤ x.toNat) :
    exponent x = if x.toNat ≤ 2 ^ 31 then (x.toNat : Int) - 1 else x.toNat - 1 - 2 ^ 32 := by
  have word := x.toNat_lt
  have one : (1 : Int32).toInt = 1 := rfl
  rw [exponent, Int32.toInt_sub, toInt_toInt32, one, Int.bmod_def, Int.bmod_def]
  split <;> omega

/-- An attempt is one too many to be a signed word, and its exponent is wanted. -/
theorem overflows_iff {β : Type u} [Quantity β] (b : Backoff β) (x : UInt32) :
    b.overflows x = true ↔ (∃ base, b.growth = .exponential base) ∧ x.toNat = 2 ^ 31 := by
  have limit : x.toInt32.toBitVec.ssubOverflow 1 = true ↔ x.toNat = 2 ^ 31 := by
    have word := x.toNat_lt
    have signed : x.toInt32.toBitVec.toInt = (x.toNat : Int).bmod (2 ^ 32) := toInt_toInt32 x
    have one : (1 : BitVec 32).toInt = 1 := rfl
    rw [BitVec.ssubOverflow, signed, one, Int.bmod_def]
    simp only [Bool.or_eq_true, decide_eq_true_eq]
    split <;> omega
  unfold overflows
  split
  · rename_i base growth
    rw [limit]
    exact ⟨fun same => ⟨⟨base, growth⟩, same⟩, And.right⟩
  · rename_i other
    exact iff_of_false Bool.false_ne_true fun ⟨⟨base, growth⟩, _⟩ => other base growth

/-- **Where arithmetic is checked** the delays are the same, but a delay that grows exponentially is missing at the
attempt `2 ^ 31`. -/
theorem delay?_eq_none_iff {β : Type u} [Quantity β] (b : Backoff β) (factor : β) (x : UInt32) :
    (b.delay? factor x = none ↔ (∃ base, b.growth = .exponential base) ∧ x.toNat = 2 ^ 31) ∧
      ∀ n, b.delay? factor x = some n → n = b.delay factor x := by
  rw [← overflows_iff]
  unfold delay?
  split
  · rename_i overflows
    exact ⟨iff_of_true rfl overflows, nofun⟩
  · rename_i fits
    exact ⟨iff_of_false nofun fits, fun n same => (Option.some.inj same).symm⟩

/-! ### Delays in nanoseconds -/

/-- The delay that is made of a number of nanoseconds: its whole part, as a word, unless this is too long. -/
def cut (longest : Nat) (q : ℚ) : Nat :=
  if (longest : ℚ) ≤ q then longest else min ⌊q⌋₊ (wordCount 64 - 1)

theorem cut_mono (longest : Nat) {p q : ℚ} (h : p ≤ q) : cut longest p ≤ cut longest q := by
  unfold cut
  split
  · rename_i long
    rw [if_pos (long.trans h)]
  · rename_i short
    have below : ⌊p⌋₊ ≤ longest := Nat.floor_le_of_le (not_le.mp short).le
    split
    · omega
    · have := Nat.floor_le_floor h
      omega

theorem le_cut {longest n : Nat} {q : ℚ} (bounded : n ≤ longest) (word : n < wordCount 64)
    (h : (n : ℚ) ≤ q) : n ≤ cut longest q := by
  unfold cut
  split
  · exact bounded
  · have := Nat.le_floor h
    omega

theorem cut_lt {longest n : Nat} {q : ℚ} (bounded : n ≤ longest) (positive : 0 < n) (h : q < n) :
    cut longest q < n := by
  have short : ¬ (longest : ℚ) ≤ q := fun long =>
    absurd (long.trans_lt h) (not_lt.mpr (Nat.cast_le.mpr bounded))
  rw [cut, if_neg short]
  exact (min_le_left _ _).trans_lt ((Nat.floor_lt' positive.ne').mpr h)

theorem plainDelay_le {β : Type u} [Quantity β] (b : Backoff β) (x : UInt32) : b.plainDelay x ≤ b.longest :=
  min_le_right _ _

theorem delay_of_plain {β : Type u} [Quantity β] {b : Backoff β} (plain : b.jitter = false) (factor : β)
    (x : UInt32) : b.delay factor x = b.plainDelay x := by
  rw [delay, plain]
  exact if_neg Bool.false_ne_true

variable {b : Backoff ℚ} {x y : UInt32}

theorem plainDelay_of_fixed (fixed : b.growth = .fixed) (first : 1 ≤ x.toNat) :
    b.plainDelay x = min b.initial b.longest := by
  have some : x ≠ 0 := by rintro rfl; cases first
  rw [plainDelay, growing, if_neg some, fixed]

theorem plainDelay_of_linear (linear : b.growth = .linear) (first : 1 ≤ x.toNat) :
    b.plainDelay x = min (min (b.initial * x.toNat) maxTime) b.longest := by
  have some : x ≠ 0 := by rintro rfl; cases first
  rw [plainDelay, growing, if_neg some, linear]

theorem plainDelay_of_exponential {base : ℚ} (exponential : b.growth = .exponential base)
    (first : 1 ≤ x.toNat) : b.plainDelay x = cut b.longest (b.initial * base ^ exponent x) := by
  have some : x ≠ 0 := by rintro rfl; cases first
  have nanoseconds : Quantity.mul (Quantity.ofNat b.initial) (base ^ exponent x) =
      (b.initial : ℚ) * base ^ exponent x := rfl
  have tested (q : ℚ) : (!Quantity.isFinite q || Quantity.atLeast q (Quantity.ofNat b.longest : ℚ)) =
      decide ((b.longest : ℚ) ≤ q) := Bool.false_or _
  have word (q : ℚ) : Quantity.toWord q = min ⌊q⌋₊ (wordCount 64 - 1) := rfl
  rw [plainDelay, growing, if_neg some, exponential]
  dsimp only
  rw [power_eq, nanoseconds, tested, word, cut]
  by_cases long : (b.longest : ℚ) ≤ b.initial * base ^ exponent x
  · rw [if_pos long, if_pos (decide_eq_true long), min_self]
  · rw [if_neg long, if_neg (by simpa using long)]
    exact min_eq_left ((min_le_left _ _).trans (Nat.floor_le_of_le (not_le.mp long).le))

/-! ### Delays grow -/

/-- An attempt that is early enough for its delay to grow. Only delays that grow exponentially shrink later. -/
def Early (b : Backoff ℚ) (x : UInt32) : Prop :=
  ∀ base, b.growth = .exponential base → base = 1 ∨ x.toNat ≤ 2 ^ 31

/-- The first delay fits into a word. Only delays that grow exponentially are cut. -/
def Brief (b : Backoff ℚ) : Prop := ∀ base, b.growth = .exponential base → b.initial < wordCount 64

theorem Early.mono (early : b.Early y) (later : x.toNat ≤ y.toNat) : b.Early x :=
  fun base exponential => (early base exponential).imp_right later.trans

theorem Valid.one_le (valid : b.Valid) {base : ℚ} (exponential : b.growth = .exponential base) : 1 ≤ base := by
  have grows : ((1 : Nat) : ℚ) ≤ base := of_decide_eq_true (valid.grows base exponential)
  rwa [Nat.cast_one] at grows

/-- Up to an early attempt powers grow. -/
theorem Early.power_mono (early : b.Early y) (valid : b.Valid) (first : 1 ≤ x.toNat)
    (later : x.toNat ≤ y.toNat) {base : ℚ} (exponential : b.growth = .exponential base) :
    base ^ exponent x ≤ base ^ exponent y := by
  rcases early base exponential with rfl | small
  · rw [one_zpow, one_zpow]
  · refine zpow_le_zpow_right₀ (valid.one_le exponential) ?_
    rw [exponent_eq first, exponent_eq (first.trans later), if_pos small, if_pos (later.trans small)]
    omega

/-- Up to an early attempt delays do not shrink. -/
theorem plainDelay_mono (valid : b.Valid) (first : 1 ≤ x.toNat) (later : x.toNat ≤ y.toNat)
    (early : b.Early y) : b.plainDelay x ≤ b.plainDelay y := by
  have first' := first.trans later
  cases growth : b.growth with
  | fixed => rw [plainDelay_of_fixed growth first, plainDelay_of_fixed growth first']
  | linear =>
    rw [plainDelay_of_linear growth first, plainDelay_of_linear growth first']
    have := Nat.mul_le_mul_left b.initial later
    omega
  | exponential base =>
    rw [plainDelay_of_exponential growth first, plainDelay_of_exponential growth first']
    refine cut_mono b.longest (mul_le_mul_of_nonneg_left ?_ (Nat.cast_nonneg _))
    exact early.power_mono valid first later growth

/-- At an early attempt a delay is as long as the first one, but it is a word if it grew exponentially. -/
theorem le_plainDelay (valid : b.Valid) (first : 1 ≤ x.toNat) (early : b.Early x) {n : Nat}
    (least : n ≤ b.initial) (word : ∀ base, b.growth = .exponential base → n < wordCount 64) :
    n ≤ b.plainDelay x := by
  have bounded := least.trans valid.ordered
  cases growth : b.growth with
  | fixed =>
    rw [plainDelay_of_fixed growth first]
    exact le_min least bounded
  | linear =>
    rw [plainDelay_of_linear growth first]
    have := Nat.le_mul_of_pos_right b.initial first
    exact le_min (le_min (least.trans this) (bounded.trans valid.told)) bounded
  | exponential base =>
    rw [plainDelay_of_exponential growth first]
    refine le_cut bounded (word base growth) ?_
    have later : (1 : UInt32).toNat ≤ x.toNat := first
    have grown := early.power_mono valid le_rfl later growth
    have one : base ^ exponent 1 = 1 := zpow_zero base
    calc
      (n : ℚ) ≤ b.initial := Nat.cast_le.mpr least
      _ = b.initial * base ^ exponent 1 := by rw [one, mul_one]
      _ ≤ b.initial * base ^ exponent x := mul_le_mul_of_nonneg_left grown (Nat.cast_nonneg _)

/-- After the early attempts delays are shorter than the first one. -/
theorem plainDelay_lt (valid : b.Valid) (first : 1 ≤ x.toNat) (late : ¬ b.Early x) :
    b.plainDelay x < b.initial := by
  simp only [Early, not_forall, not_or] at late
  obtain ⟨base, growth, more, large⟩ := late
  have grows : 1 < base := lt_of_le_of_ne (valid.one_le growth) (Ne.symm more)
  have word := x.toNat_lt
  have positive : 0 < b.initial := lt_of_lt_of_le (by decide) valid.positive
  rw [plainDelay_of_exponential growth first]
  refine cut_lt valid.ordered positive ?_
  have negative : exponent x < 0 := by
    rw [exponent_eq first, if_neg large]
    omega
  exact mul_lt_of_lt_one_right (Nat.cast_pos.mpr positive) (zpow_lt_one_of_neg₀ grows negative)

end Backoff

/-! ### A worker that finds nothing to do -/

namespace Pacer

variable {β : Type u} [Quantity β]

/-- The delays are those of the attempts one after another. -/
theorem delays_eq {p : Pacer β} {n : Nat} (counted : p.attempt = Worker.attempt n) (factors : List β) :
    p.delays factors =
      factors.mapIdx fun i factor => p.backoff.delay factor (Worker.attempt (n + 1 + i)) := by
  induction factors generalizing p n with
  | nil => rfl
  | cons factor factors ih =>
    have advanced := Worker.attempt_advance counted
    rw [delays, List.mapIdx_cons]
    congr 1
    · exact congrArg (p.backoff.delay factor) advanced
    · refine (ih advanced).trans (congrArg (List.mapIdx · factors) ?_)
      funext i factor
      rw [Nat.add_assoc (n + 1), Nat.add_comm 1 i]
      rfl

end Pacer

namespace Backoff

variable {b : Backoff ℚ}

theorem toNat_attempt (n : Nat) : (Worker.attempt n).toNat = min n (2 ^ 32 - 1) :=
  UInt32.toNat_ofNat_of_lt' (Nat.lt_of_le_of_lt (Nat.min_le_right _ _) (by decide))

/-- As long as its attempts are early, the delays of a worker do not shrink. -/
theorem pairwise_delays (valid : b.Valid) (plain : b.jitter = false) {p : Pacer ℚ} (same : p.backoff = b)
    (factors : List ℚ) (early : b.Early (Worker.attempt factors.length)) :
    (p.reset.delays factors).Pairwise (· ≤ ·) := by
  have counted : p.reset.attempt = Worker.attempt 0 := rfl
  rw [Pacer.delays_eq counted, List.pairwise_iff_getElem]
  intro i j hi hj earlier
  rw [List.length_mapIdx] at hj
  rw [List.getElem_mapIdx, List.getElem_mapIdx]
  show p.backoff.delay _ _ ≤ p.backoff.delay _ _
  rw [same, delay_of_plain plain, delay_of_plain plain]
  refine plainDelay_mono valid ?_ ?_ (early.mono ?_) <;> simp only [toNat_attempt] <;> omega

/-- **Delays grow and stay within bounds.** Let the settings of a worker be valid, and let there be no jitter. A delay
is never longer than the longest one. Up to an attempt that is early it does not shrink, so that the delays of a
worker that finds nothing to do do not either; and it is not shorter than the first one, which is a word or else
is cut to the greatest word. After that, it is shorter than the first one. -/
theorem delay_grows (s : WorkerSettings ℚ) (checked : s.check = .ok ()) (told : s.poll.maxDelay ≤ maxTime)
    (plain : s.poll.jitter = false) :
    let b := s.poll.backoff
    (∀ (factor factor' : ℚ) (x y : UInt32), 1 ≤ x → x ≤ y →
      b.delay factor' y ≤ b.longest ∧
      (b.Early y → b.delay factor x ≤ b.delay factor' y ∧
        (b.Brief → min b.initial b.longest ≤ b.delay factor x) ∧
        (¬ b.Brief → wordCount 64 - 1 ≤ b.delay factor x)) ∧
      (¬ b.Early y → b.delay factor' y < min b.initial b.longest)) ∧
    ∀ (p : Pacer ℚ) (factors : List ℚ), p.backoff = b → b.Early (Worker.attempt factors.length) →
      (p.reset.delays factors).Pairwise (· ≤ ·) := by
  intro b
  have valid : b.Valid := .of_check checked told
  have plain : b.jitter = false := plain
  refine ⟨fun factor factor' x y first later => ?_, fun p factors same early =>
    pairwise_delays valid plain same factors early⟩
  have first : 1 ≤ x.toNat := first
  have later : x.toNat ≤ y.toNat := later
  rw [delay_of_plain plain, delay_of_plain plain, min_eq_left valid.ordered]
  refine ⟨plainDelay_le b y, fun early => ⟨plainDelay_mono valid first later early, ?_, ?_⟩,
    plainDelay_lt valid (first.trans later)⟩
  · intro brief
    exact le_plainDelay valid first (early.mono later) le_rfl brief
  · intro long
    simp only [Brief, not_forall, not_lt] at long
    obtain ⟨base, growth, long⟩ := long
    exact le_plainDelay valid first (early.mono later) ((Nat.sub_le _ _).trans long) fun _ _ => by decide

/-- The usual settings, without jitter: the first delay is 50 milliseconds, it is doubled at every attempt, and the
longest one is two seconds. -/
def doubling : WorkerSettings ℚ := { poll := { jitter := false } }

theorem check_doubling : doubling.check = .ok () := by decide

theorem delay_doubling {x : UInt32} (first : 1 ≤ x.toNat) (factor : ℚ) :
    doubling.poll.backoff.delay factor x = cut 2000000000 (50000000 * 2 ^ exponent x) := by
  rw [delay_of_plain rfl, plainDelay_of_exponential rfl first]
  norm_num [doubling, PollSettings.backoff, millisecond, Quantity.ofNat]

/-- The third delay is four times the first one, and the last delay of all is a quarter of it. -/
theorem delay_grows_doubling :
    let b := doubling.poll.backoff
    doubling.check = .ok () ∧ b.Brief ∧ b.Early 3 ∧ ¬ b.Early 0xFFFFFFFF ∧
      b.delay 1 3 = 200000000 ∧ min b.initial b.longest ≤ b.delay 1 3 ∧
      b.delay 1 3 ≤ b.delay 1 7 ∧ b.delay 1 7 ≤ b.longest ∧
      b.delay 1 0xFFFFFFFF < min b.initial b.longest ∧
      (Pacer.delays ⟨b, 0⟩ [1, 1, 1, 1, 1, 1, 1]).Pairwise (· ≤ ·) := by
  intro b
  have early {x : UInt32} (small : x.toNat ≤ 2 ^ 31) : b.Early x := fun _ _ => .inr small
  have late : ¬ b.Early 0xFFFFFFFF := by
    intro early
    rcases early 2 rfl with one | small
    · norm_num at one
    · exact absurd small (by decide)
  have brief : b.Brief := fun _ _ => by decide
  have third : b.delay 1 3 = 200000000 := by
    rw [delay_doubling (by decide), show exponent 3 = 2 from rfl]
    norm_num [cut, wordCount]
  obtain ⟨upTo, pacer⟩ := delay_grows doubling check_doubling (by decide) rfl
  obtain ⟨bounded, grows, -⟩ := upTo 1 1 3 7 (by decide) (by decide)
  obtain ⟨-, -, shrinks⟩ := upTo 1 1 7 0xFFFFFFFF (by decide) (by decide)
  obtain ⟨grown, least, -⟩ := grows (early (by decide))
  exact ⟨check_doubling, brief, early (by decide), late, third, least brief, grown, bounded, shrinks late,
    pacer ⟨b, 0⟩ [1, 1, 1, 1, 1, 1, 1] rfl (early (by decide))⟩

/-- The delay is meant to be 20 billion seconds every time. -/
def lasting : WorkerSettings ℚ where
  poll := ⟨.exponential 1, 20000000000000000000, 30000000000000000000, false⟩

theorem check_lasting : lasting.check = .ok () := by decide

/-- **Delays shrink, and long ones are cut.** The last delay of a worker that finds nothing to do is a quarter of its
first one. A delay that is too long for a word is shorter than the first delay from the first attempt on. -/
theorem delay_shrinks :
    let b := doubling.poll.backoff
    let b' := lasting.poll.backoff
    doubling.check = .ok () ∧ b.delay 1 1 = 50000000 ∧ b.delay 1 0xFFFFFFFF = 12500000 ∧
      lasting.check = .ok () ∧ b'.delay 1 1 = 18446744073709551615 ∧
      b'.delay 1 1 < min b'.initial b'.longest := by
  intro b b'
  have first : b.delay 1 1 = 50000000 := by
    rw [delay_doubling (by decide), show exponent 1 = 0 from rfl]
    norm_num [cut, wordCount]
  have last : b.delay 1 0xFFFFFFFF = 12500000 := by
    rw [delay_doubling (by decide), show exponent 0xFFFFFFFF = -2 from rfl]
    norm_num [cut, wordCount]
  have long : b'.delay 1 1 = 18446744073709551615 := by
    rw [delay_of_plain rfl, plainDelay_of_exponential rfl (by decide), one_zpow]
    norm_num [cut, b', lasting, PollSettings.backoff, wordCount]
  exact ⟨check_doubling, first, last, check_lasting, long, by rw [long]; decide⟩

end Backoff

end WorkFarm
