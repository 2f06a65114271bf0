import WorkFarm.Decimal.Shortest
/-!
# Backoff

A worker that was told that there is nothing to do waits before it asks again, and longer every time.

## Main definitions

* `Quantity` — numbers in which a growing delay is computed
* `Growth` — how the delay grows
* `Backoff`, `Backoff.delay` — the delay before an attempt, in nanoseconds
* `Backoff.delay?` — the same, where arithmetic is checked
* `Pacer` — the attempts since work was last found

## Design

Attempts are words of 32 bits and are counted from one. A delay that grows exponentially is computed in a
type of numbers that is a parameter: floating-point numbers when a farm runs, and exact ones where its laws
are stated.

Words wrap around. Where arithmetic is checked instead, there is an attempt that has no delay, since its exponent
is computed past the least word.
-/

namespace WorkFarm

universe u

/-- Numbers in which a growing delay is computed. -/
class Quantity (β : Type u) where
  /-- A natural number, rounded if need be. -/
  ofNat : Nat → β
  /-- The product. -/
  mul : β → β → β
  /-- The reciprocal. -/
  reciprocal : β → β
  /-- Whether a number is neither infinite nor undefined. -/
  isFinite : β → Bool
  /-- Whether the first number is at least the second. -/
  atLeast : β → β → Bool
  /-- The whole part, brought between zero and the greatest word of 64 bits. -/
  toWord : β → Nat
  /-- How a number is written. -/
  shown : β → String

instance : Quantity Float where
  ofNat n := Float.ofScientific n false 0
  mul := (· * ·)
  reciprocal x := 1 / x
  isFinite x := !x.isNaN && !x.isInf
  atLeast x y := y ≤ x
  toWord x := x.toUInt64.toNat
  shown := Decimal.positional

/-- How a delay grows from one attempt to the next. -/
inductive Growth (β : Type u) where
  /-- It stays the same. -/
  | fixed
  /-- It is a multiple of the first delay. -/
  | linear
  /-- It is multiplied by `base`. -/
  | exponential (base : β)
deriving Repr

/-- When a worker that found nothing to do asks again. -/
structure Backoff (β : Type u) where
  growth : Growth β
  /-- The first delay, in nanoseconds. -/
  initial : Nat
  /-- The longest delay, in nanoseconds. -/
  longest : Nat
  /-- Whether delays are spread at random. -/
  jitter : Bool := false

namespace Backoff

variable {β : Type u} [Quantity β]

/-- A millisecond, in nanoseconds. -/
def millisecond : Nat := 1000000

/-- The longest time that can be told, in nanoseconds. -/
def maxTime : Nat := (wordCount 64 - 1) * 1000000000 + 999999999

/-- `r * a ^ n`, by squaring. -/
def powerFrom (r a : β) (n : Nat) : β :=
  let r := if n % 2 = 1 then Quantity.mul r a else r
  if n / 2 = 0 then r else powerFrom r (Quantity.mul a a) (n / 2)
termination_by n
decreasing_by omega

/-- `a ^ e`; a negative power is the reciprocal of a positive one. -/
def power (a : β) (e : Int) : β :=
  let r := powerFrom (Quantity.ofNat 1) a e.natAbs
  if e < 0 then Quantity.reciprocal r else r

/-- The exponent that belongs to an attempt, as a signed word of 32 bits. -/
def exponent (attempt : UInt32) : Int := (attempt.toInt32 - 1).toInt

/-- The delay before an attempt, with no regard to the longest delay but where it is needed. -/
def growing (b : Backoff β) (attempt : UInt32) : Nat :=
  if attempt = 0 then 0
  else match b.growth with
    | .fixed => b.initial
    | .linear => min (b.initial * attempt.toNat) maxTime
    | .exponential base =>
      let x := Quantity.mul (Quantity.ofNat b.initial) (power base (exponent attempt))
      if !Quantity.isFinite x || Quantity.atLeast x (Quantity.ofNat b.longest : β) then b.longest
      else Quantity.toWord x

/-- The delay before an attempt, without jitter. -/
def plainDelay (b : Backoff β) (attempt : UInt32) : Nat := min (b.growing attempt) b.longest

/-- A delay, spread by a factor. -/
def spread (factor : β) (delay : Nat) : Nat :=
  Quantity.toWord (Quantity.mul (Quantity.ofNat delay) factor)

/-- The delay before an attempt. With jitter it is multiplied by `factor`, which is chosen between 0.8
and 1.2. -/
def delay (b : Backoff β) (factor : β) (attempt : UInt32) : Nat :=
  let d := b.plainDelay attempt
  if b.jitter then min (spread factor d) b.longest else d

/-- Whether the exponent that belongs to an attempt is wanted, and is less than every signed word. -/
def overflows (b : Backoff β) (attempt : UInt32) : Bool :=
  match b.growth with
  | .exponential _ => attempt.toInt32.toBitVec.ssubOverflow 1
  | _ => false

/-- The delay before an attempt, if it can be computed without overflow. -/
def delay? (b : Backoff β) (factor : β) (attempt : UInt32) : Option Nat :=
  if b.overflows attempt then none else some (b.delay factor attempt)

end Backoff

/-- The attempts since work was last found. -/
structure Pacer (β : Type u) where
  backoff : Backoff β
  /-- The number of the last attempt; zero if work has just been found. -/
  attempt : UInt32 := 0

namespace Pacer

variable {β : Type u} [Quantity β]

/-- Counts one more attempt; the count stays at the greatest word. -/
def advance (p : Pacer β) : Pacer β :=
  { p with attempt := if p.attempt = 0xFFFFFFFF then p.attempt else p.attempt + 1 }

/-- The next delay. -/
def next (p : Pacer β) (factor : β) : Nat × Pacer β :=
  (p.backoff.delay factor p.advance.attempt, p.advance)

/-- Work has been found. -/
def reset (p : Pacer β) : Pacer β := { p with attempt := 0 }

/-- The next delays, for as many factors. -/
def delays (p : Pacer β) : List β → List Nat
  | [] => []
  | factor :: factors => (p.next factor).1 :: (p.next factor).2.delays factors

end Pacer

end WorkFarm
