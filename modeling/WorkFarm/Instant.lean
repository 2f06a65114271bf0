import WorkFarm.Decimal.Numeral
import WorkFarm.Text.Blank
/-!
# Instants

An instant is a moment in coordinated universal time, to the nanosecond. It is read from the date and
time of any zone, and written in the universal one.

## Main definitions

* `Date` — a day of the calendar, with `Date.number` and `Date.ofNumber` to count days
* `Instant` — a moment
* `Instant.ofText?` — reading `2024-02-29T23:59:60.5+01:00`
* `Instant.toText` — writing `2024-02-29T22:59:60.500Z`

## Design

Days are counted from the first of March of the year 0, so that the day that leap years add comes last in
a year. A leap second is the second 59 with a billion nanoseconds more.
-/

namespace WorkFarm

/-- A day of the calendar. -/
structure Date where
  year : Int
  /-- The month, from 1. -/
  month : Nat
  /-- The day of the month, from 1. -/
  day : Nat
deriving DecidableEq, Repr

namespace Date

def isLeap (year : Int) : Bool := year % 4 == 0 && (year % 100 != 0 || year % 400 == 0)

def daysInMonth (year : Int) (month : Nat) : Nat :=
  if month = 2 then (if isLeap year then 29 else 28)
  else if [4, 6, 9, 11].contains month then 30
  else 31

def isSupported (year : Int) : Bool := -262143 ≤ year && year ≤ 262142

def isValid (d : Date) : Bool :=
  isSupported d.year && 1 ≤ d.month && d.month ≤ 12
    && 1 ≤ d.day && d.day ≤ daysInMonth d.year d.month

/-- The number of days before the first of March of a year that begins in March. -/
def daysBeforeYear (year : Int) : Int := 365 * year + year / 4 - year / 100 + year / 400

/-- The number of days before a month, counted from March, in a year that begins in March. -/
def daysBeforeMonth (month : Nat) : Nat := (153 * month + 2) / 5

/-- The number of a day; the first of March of the year 0 has the number zero. -/
def number (d : Date) : Int :=
  let year := if d.month ≤ 2 then d.year - 1 else d.year
  let month := (d.month + 9) % 12
  daysBeforeYear year + daysBeforeMonth month + (d.day - 1 : Nat)

/-- The day with this number. -/
def ofNumber (n : Int) : Date :=
  let era := n / 146097
  let inEra := (n % 146097).toNat
  let yearOfEra := (inEra - inEra / 1460 + inEra / 36524 - inEra / 146096) / 365
  let inYear := inEra - (365 * yearOfEra + yearOfEra / 4 - yearOfEra / 100)
  let month := (5 * inYear + 2) / 153
  { year := (yearOfEra : Int) + era * 400 + (if 10 ≤ month then 1 else 0)
    month := if 10 ≤ month then month - 9 else month + 3
    day := inYear - daysBeforeMonth month + 1 }

end Date

/-- A moment in coordinated universal time. -/
structure Instant where
  date : Date
  /-- The second of the day. -/
  second : Nat
  /-- The nanosecond; from a billion on, that of the leap second behind `second`. -/
  nano : Nat
deriving DecidableEq, Repr

namespace Instant

/-! ### Reading -/

/-- The characters behind white space. -/
def trimmed (cs : List Char) : List Char := cs.dropWhile Text.isSpace

/-- Reads a number of one to `width` digits, and more if `width` is missing. -/
def number? (width : Option Nat) (cs : List Char) : Option (Nat × List Char) :=
  let digits := match width with
    | some w => (cs.take w).takeWhile Char.isDigit
    | none => cs.takeWhile Char.isDigit
  if digits.isEmpty then none else some (natOfDecimal digits, cs.drop digits.length)

/-- Reads the number of a year; one with a sign may have any number of digits. -/
def year? (cs : List Char) : Option (Int × List Char) :=
  match trimmed cs with
  | '-' :: rest => (number? none rest).map fun (n, r) => (-(n : Int), r)
  | '+' :: rest => (number? none rest).map fun (n, r) => ((n : Int), r)
  | cs => (number? (some 4) cs).map fun (n, r) => ((n : Int), r)

/-- Reads a number of at most two digits, white space in front of it. -/
def pair? (cs : List Char) : Option (Nat × List Char) := number? (some 2) (trimmed cs)

/-- Moves over white space and the mark `c`. -/
def mark? (c : Char) (cs : List Char) : Option (List Char) :=
  match trimmed cs with
  | d :: rest => if d = c then some rest else none
  | [] => none

def date? (cs : List Char) : Option (Date × List Char) := do
  let (year, cs) ← year? cs
  let (month, cs) ← pair? (← mark? '-' cs)
  let (day, cs) ← pair? (← mark? '-' cs)
  return (⟨year, month, day⟩, cs)

/-- Reads a fraction of a second in nanoseconds; digits behind the ninth are passed over. -/
def fraction? (cs : List Char) : Option (Nat × List Char) :=
  match cs with
  | '.' :: rest => do
    let (n, cs) ← number? (some 9) rest
    let digits := rest.length - cs.length
    return (n * Nat.pow 10 (9 - digits), cs.dropWhile Char.isDigit)
  | _ => some (0, cs)

/-- Reads two digits, no more and no fewer. -/
def twoDigits? : List Char → Option (Nat × List Char)
  | a :: b :: rest => if a.isDigit && b.isDigit then some (natOfDecimal [a, b], rest) else none
  | _ => none

/-- Reads the distance of a zone from universal time in seconds. -/
def zone? (cs : List Char) : Option (Int × List Char) :=
  match cs with
  | 'Z' :: rest => some (0, rest)
  | 'z' :: rest => some (0, rest)
  | c :: rest =>
    if (cs.take 3).map Char.toUpper == ['U', 'T', 'C'] then some (0, cs.drop 3)
    else if c != '+' && c != '-' && c != '\u2212' then none
    else do
      let (hours, cs) ← twoDigits? rest
      let (minutes, cs) ← twoDigits? (cs.dropWhile fun d => d == ':' || Text.isSpace d)
      if 60 ≤ minutes then none
      let distance : Int := hours * 3600 + minutes * 60
      return (if c == '+' then distance else -distance, cs)
  | [] => none

/-- Moves over the letter or blank between a date and a time. -/
def separator? : List Char → Option (List Char)
  | c :: rest => if c == 'T' || c == 't' || c == ' ' then some rest else none
  | [] => none

/-- The moment that a text names. -/
def ofText? (s : String) : Option Instant := do
  let (date, cs) ← date? s.toList
  let (hour, cs) ← pair? (← separator? cs)
  let (minute, cs) ← pair? (← mark? ':' cs)
  let (second, cs) ← pair? (← mark? ':' cs)
  let (nano, cs) ← fraction? cs
  let (distance, cs) ← zone? (trimmed cs)
  if !(trimmed cs).isEmpty || !date.isValid || 24 ≤ hour || 60 ≤ minute || 60 < second
      || 86400 ≤ distance.natAbs then none
  let (second, nano) := if second = 60 then (59, nano + 1000000000) else (second, nano)
  let inDay : Int := hour * 3600 + minute * 60 + second - distance
  let date := Date.ofNumber (date.number + inDay / 86400)
  if !Date.isSupported date.year then none
  return ⟨date, (inDay % 86400).toNat, nano⟩

/-! ### Writing -/

/-- A number with zeros in front, so that it has at least `width` digits. -/
def padded (width n : Nat) : String :=
  let digits := Nat.toDigits 10 n
  String.ofList (List.replicate (width - digits.length) '0' ++ digits)

/-- A year, with a sign unless it has at most four digits and is not negative. -/
def yearText (year : Int) : String :=
  if 0 ≤ year ∧ year ≤ 9999 then padded 4 year.toNat
  else (if year < 0 then "-" else "+") ++ padded 4 year.natAbs

/-- A fraction of a second, with three, six or nine digits, or none. -/
def fractionText (nano : Nat) : String :=
  if nano = 0 then ""
  else if nano % 1000000 = 0 then "." ++ padded 3 (nano / 1000000)
  else if nano % 1000 = 0 then "." ++ padded 6 (nano / 1000)
  else "." ++ padded 9 nano

def toText (i : Instant) : String :=
  let leap := 1000000000 ≤ i.nano
  yearText i.date.year ++ "-" ++ padded 2 i.date.month ++ "-" ++ padded 2 i.date.day
    ++ "T" ++ padded 2 (i.second / 3600) ++ ":" ++ padded 2 (i.second / 60 % 60)
    ++ ":" ++ padded 2 (i.second % 60 + if leap then 1 else 0)
    ++ fractionText (i.nano % 1000000000) ++ "Z"

end Instant

end WorkFarm
