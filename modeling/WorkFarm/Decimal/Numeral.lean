import WorkFarm.Word
/-!
# Decimal numerals

A numeral is a row of digits with an optional point and an optional power of ten. This file reads
numerals from characters and turns them into floating-point numbers in two ways.

## Main definitions

* `Numeral` — the parts of a numeral
* `Numeral.ofChars?` — reading the longest form: `1`, `1.`, `.5`, `1e3`
* `Numeral.nearest` — the number nearest to the numeral
* `Numeral.scaled?` — the first digits, as far as they fit a word, scaled by a power of ten
* `natOfDigits?` — a natural number in any base from two to sixteen

## Design

`nearest` rounds once. `scaled?` rounds the digits and then the product or quotient, which is how
JSON numbers are read; the two agree whenever the digits and the power of ten are both exact.
-/

namespace WorkFarm

/-- The value of a digit of a base of at most sixteen. -/
def digitValue? (c : Char) : Option Nat :=
  if '0' ≤ c ∧ c ≤ '9' then some (c.toNat - '0'.toNat)
  else if 'a' ≤ c ∧ c ≤ 'f' then some (c.toNat - 'a'.toNat + 10)
  else if 'A' ≤ c ∧ c ≤ 'F' then some (c.toNat - 'A'.toNat + 10)
  else none

/-- The number that a non-empty row of digits stands for. -/
def natOfDigits? (base : Nat) (cs : List Char) : Option Nat :=
  if cs.isEmpty then none
  else cs.foldl (fun acc c => do
    let n ← acc
    let d ← digitValue? c
    if d < base then some (n * base + d) else none) (some 0)

/-- The number that a row of decimal digits stands for, other characters counting as zero. -/
def natOfDecimal (cs : List Char) : Nat :=
  cs.foldl (fun n c => n * 10 + (digitValue? c).getD 0) 0

/-- The parts of a decimal numeral. -/
structure Numeral where
  /-- Whether a minus sign stands in front. -/
  negative : Bool
  /-- The digits before the point. -/
  whole : List Char
  /-- The digits behind the point, if there is a point. -/
  fraction : Option (List Char)
  /-- The power of ten, if one is written. -/
  exponent : Option Int
deriving DecidableEq, Repr

namespace Numeral

/-- Takes the decimal digits from the front. -/
def splitDigits (cs : List Char) : List Char × List Char :=
  (cs.takeWhile Char.isDigit, cs.dropWhile Char.isDigit)

/-- Reads the rest of a numeral as its power of ten; the whole rest has to belong to it. -/
def exponentOf? : List Char → Option (Option Int)
  | [] => some none
  | e :: rest =>
    if e ≠ 'e' ∧ e ≠ 'E' then none
    else
      let (negative, digits) := match rest with
        | '-' :: r => (true, r)
        | '+' :: r => (false, r)
        | r => (false, r)
      if digits.isEmpty ∨ digits.any (fun c => !c.isDigit) then none
      else
        let n : Int := natOfDecimal digits
        some (some (if negative then -n else n))

/-- Reads digits with an optional point and an optional power of ten, where a digit stands on at
least one side of the point. -/
def ofUnsigned? (negative : Bool) (cs : List Char) : Option Numeral :=
  let (whole, rest) := splitDigits cs
  let (fraction, rest) := match rest with
    | '.' :: r => (some (splitDigits r).1, (splitDigits r).2)
    | r => (none, r)
  if whole.isEmpty ∧ (fraction.getD []).isEmpty then none
  else (exponentOf? rest).map fun e => ⟨negative, whole, fraction, e⟩

/-- Reads a numeral with an optional sign. -/
def ofChars? : List Char → Option Numeral
  | '-' :: rest => ofUnsigned? true rest
  | '+' :: rest => ofUnsigned? false rest
  | cs => ofUnsigned? false cs

/-- Reads a numeral as JSON writes them: no sign but a minus, no zero in front of another digit, and
a digit on either side of a point. -/
def ofJson? (cs : List Char) : Option Numeral :=
  let (negative, unsigned) := match cs with
    | '-' :: rest => (true, rest)
    | _ => (false, cs)
  match ofUnsigned? negative unsigned with
  | none => none
  | some n =>
    if n.whole.isEmpty ∨ n.fraction = some [] ∨ (1 < n.whole.length ∧ n.whole.head? = some '0')
    then none else some n

/-- Whether the numeral has neither point nor power of ten. -/
def isInteger (n : Numeral) : Bool := n.fraction.isNone && n.exponent.isNone

/-- Puts the sign in front of a magnitude. -/
def signed (n : Numeral) (x : Float) : Float := if n.negative then -x else x

/-- All digits, the point left out. -/
def allDigits (n : Numeral) : List Char := n.whole ++ n.fraction.getD []

/-- The floating-point number nearest to the numeral; beyond the greatest one it is infinite. -/
def nearest (n : Numeral) : Float :=
  let digits := n.allDigits.dropWhile (· == '0')
  let place := n.exponent.getD 0 - (n.fraction.getD []).length
  let top := place + digits.length
  n.signed <|
    if digits.isEmpty ∨ top < -400 then 0
    else if 400 < top then 1 / 0
    else Float.ofScientific (natOfDecimal digits) (place < 0) place.natAbs

/-- The greatest number of digits from the front whose value fits a word of 64 bits, as that value
and their count. -/
def leadingWord (n taken : Nat) : List Char → Nat × Nat
  | [] => (n, taken)
  | c :: rest =>
    let m := n * 10 + (digitValue? c).getD 0
    if m < wordCount 64 then leadingWord m (taken + 1) rest else (n, taken)

/-- Multiplies by a power of ten, or divides by one, in steps of at most `10 ^ 308`; `none` when the
product is beyond the greatest number. -/
def scale? (x : Float) (place : Int) : Nat → Option Float
  | 0 => some x
  | fuel + 1 =>
    if place.natAbs ≤ 308 then
      let power := Float.ofScientific 1 false place.natAbs
      if 0 ≤ place then
        let y := x * power
        if y.isInf then none else some y
      else some (x / power)
    else if x == 0 then some x
    else if 0 ≤ place then none
    else scale? (x / Float.ofScientific 1 false 308) (place + 308) fuel

/-- The leading digits that fit a word, rounded, times the power of ten, rounded; `none` when that is
beyond the greatest number. -/
def scaled? (n : Numeral) : Option Float :=
  let (significand, taken) := leadingWord 0 0 n.allDigits
  let place := n.exponent.getD 0 + (n.whole.length : Int) - taken
  let x := (UInt64.ofNat significand).toFloat
  if significand = 0 then some (n.signed 0)
  else if place < -1000 then some (n.signed 0)
  else (scale? x place 4).map n.signed

end Numeral

end WorkFarm
