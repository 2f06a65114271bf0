import WorkFarm.Word
/-!
# The shortest decimal of a binary number

A floating-point number stands for every real number that rounds to it. Its shortest decimal is the
one with the fewest digits among those reals, and of two with equally few digits the nearer one.

## Main definitions

* `Binary64` — a finite number as a mantissa times a power of two
* `Decimal` — a coefficient times a power of ten
* `Decimal.shortest` — the shortest decimal of a positive number
* `Decimal.positional` — a number written without an exponent

## Design

All comparisons are made between natural numbers. A number is scaled by four, so that the two ends of
the interval that rounds to it are natural numbers as well. If any number with `n` digits lies in
the interval, so does one of the two neighbours of the value among the numbers with `n` digits; only
these are tried.
-/

namespace WorkFarm

/-- A positive number `mantissa * 2 ^ exponent`. -/
structure Binary64 where
  /-- The mantissa, below 2^53. -/
  mantissa : Nat
  exponent : Int
  /-- Whether the next smaller number is only half as far away as the next greater one. -/
  halfBelow : Bool
deriving DecidableEq, Repr

/-- The magnitude of a finite number, from its 64 bits. -/
def Binary64.ofBits (bits : UInt64) : Binary64 :=
  let field : Nat := (bits.toNat / wordCount 52) % wordCount 11
  let fraction : Nat := bits.toNat % wordCount 52
  if field = 0 then ⟨fraction, -1074, false⟩
  else ⟨wordCount 52 + fraction, (field : Int) - 1075, fraction == 0 && field != 1⟩

/-- A number `coefficient * 10 ^ exponent`. -/
structure Decimal where
  /-- The digits, read as one number. -/
  coefficient : Nat
  exponent : Int
deriving DecidableEq, Repr

namespace Decimal

/-- Drops zeros at the end of the coefficient. -/
def trimmed (d : Decimal) : Decimal :=
  if h : d.coefficient ≠ 0 ∧ d.coefficient % 10 = 0 then
    trimmed ⟨d.coefficient / 10, d.exponent + 1⟩
  else d
termination_by d.coefficient
decreasing_by
  show d.coefficient / 10 < d.coefficient
  omega

/-- The power of ten of the leading digit of `num / den`, with at most `fuel` places looked at behind
the point. -/
def leadingPlace (num den : Nat) : Nat → Int
  | 0 => 0
  | fuel + 1 =>
    if den ≤ num then ((Nat.toDigits 10 (num / den)).length : Int) - 1
    else leadingPlace (10 * num) den fuel - 1

/-- Three fractions with one denominator: a value and the ends of the interval around it. -/
structure Interval where
  low : Nat
  mid : Nat
  high : Nat
  /-- The denominator of all three. -/
  den : Nat
  /-- Whether the ends belong to the interval. -/
  closed : Bool

/-- The reals that round to a number; the ends do exactly when the mantissa is even. -/
def Interval.around (b : Binary64) : Interval :=
  let m := 4 * b.mantissa
  let up := Nat.pow 2 (b.exponent - 2).toNat
  { low := (m - if b.halfBelow then 1 else 2) * up
    mid := m * up
    high := (m + 2) * up
    den := Nat.pow 2 (2 - b.exponent).toNat
    closed := b.mantissa % 2 = 0 }

/-- Whether `c` steps of `10 ^ place` lie in the interval. -/
def Interval.holds (i : Interval) (c : Nat) (place : Int) : Bool :=
  let x := c * Nat.pow 10 place.toNat * i.den
  let down := Nat.pow 10 (-place).toNat
  if i.closed then i.low * down ≤ x ∧ x ≤ i.high * down
  else i.low * down < x ∧ x < i.high * down

/-- The multiple of `10 ^ place` that lies in the interval and is nearest to its value, if one lies
in it; of two equally near the even one. -/
def Interval.pick (i : Interval) (place : Int) : Option Decimal :=
  let num := i.mid * Nat.pow 10 (-place).toNat
  let den := i.den * Nat.pow 10 place.toNat
  let below := num / den
  let rest := num % den
  let nearer := if 2 * rest < den ∨ (2 * rest = den ∧ below % 2 = 0) then below else below + 1
  let other := if nearer = below then below + 1 else below
  if i.holds nearer place then some ⟨nearer, place⟩
  else if i.holds other place then some ⟨other, place⟩
  else none

/-- The decimal with the fewest digits that rounds to the number; seventeen digits always suffice. -/
def shortest (b : Binary64) : Decimal :=
  if b.mantissa = 0 then ⟨0, 0⟩
  else
    let i := Interval.around b
    let lead := leadingPlace i.mid i.den 400
    let found := (List.range 17).findSome? fun (n : Nat) => i.pick (lead - n)
    (found.getD ⟨b.mantissa, 0⟩).trimmed

def digits (d : Decimal) : String := String.ofList (Nat.toDigits 10 d.coefficient)

def zeros (n : Nat) : String := String.ofList (List.replicate n '0')

/-- The decimal written out in full, without an exponent; a whole number has no point. -/
def written (d : Decimal) : String :=
  let ds := d.digits
  if d.coefficient = 0 then "0"
  else if 0 ≤ d.exponent then ds ++ zeros d.exponent.toNat
  else
    let places := (-d.exponent).toNat
    if places < ds.length then
      String.ofList (ds.toList.take (ds.length - places)) ++ "."
        ++ String.ofList (ds.toList.drop (ds.length - places))
    else "0." ++ zeros (places - ds.length) ++ ds

/-- The decimal written as JSON and YAML write numbers: a whole number ends in `.0`, and below
`0.00001` or from `10 ^ 16` on an exponent is used. -/
def writtenAsNumber (d : Decimal) : String :=
  let ds := d.digits
  let point : Int := ds.length + d.exponent
  if d.coefficient = 0 then "0.0"
  else if 0 ≤ d.exponent ∧ point ≤ 16 then d.written ++ ".0"
  else if -5 < point ∧ point ≤ 16 then d.written
  else
    let tail := if ds.length = 1 then "" else "." ++ String.ofList (ds.toList.drop 1)
    String.ofList (ds.toList.take 1) ++ tail ++ "e" ++ toString (point - 1)

end Decimal

def signBit (x : Float) : Bool := wordCount 63 ≤ x.toBits.toNat

/-- The shortest decimal of the magnitude of a finite number. -/
def shortestDecimal (x : Float) : Decimal := .shortest (.ofBits x.toBits)

/-- A number in full positional notation, as messages show it. -/
def Decimal.positional (x : Float) : String :=
  if x.isNaN then "NaN"
  else
    let magnitude := if x.isInf then "inf" else (shortestDecimal x).written
    if signBit x then "-" ++ magnitude else magnitude

end WorkFarm
