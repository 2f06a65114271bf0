import WorkFarm.Decimal.Numeral
/-!
# What plain texts look like

A text without quotes may look like null, a truth value, an integer or a floating-point number. This
file says which texts do, and what they then stand for.

## Main definitions

* `isNull`, `boolOf?` — null and truth values
* `wholeOf?` — an integer without a minus sign, in any of four bases
* `integerOf?` — an integer
* `floatOf?` — a floating-point number
-/

namespace WorkFarm.Yaml

/-- Whether a text looks like null. -/
def isNull (s : String) : Bool := ["null", "Null", "NULL", "~"].contains s

/-- The truth value that a text looks like. -/
def boolOf? (s : String) : Option Bool :=
  if ["true", "True", "TRUE"].contains s then some true
  else if ["false", "False", "FALSE"].contains s then some false
  else none

/-- Whether a sign begins these characters. -/
def startsSigned (cs : List Char) : Bool := cs.head?.any fun c => c == '+' || c == '-'

/-- Whether digits follow a zero. Such a text is no number, whatever sign it has. -/
def hasLeadingZero (cs : List Char) : Bool :=
  let digits := if startsSigned cs then cs.drop 1 else cs
  match digits with
  | '0' :: rest => !rest.isEmpty && rest.all Char.isDigit
  | _ => false

/-- The base that a letter behind a zero stands for. -/
def baseOf? : Char → Option Nat
  | 'x' => some 16
  | 'o' => some 8
  | 'b' => some 2
  | _ => none

/-- The natural number that characters without a sign look like: decimal, or in the base that the first
two name. -/
def naturalOf? (cs : List Char) : Option Nat :=
  let inBase := match cs with
    | '0' :: letter :: digits => (baseOf? letter).bind fun base => natOfDigits? base digits
    | _ => none
  inBase.or (if hasLeadingZero cs then none else natOfDigits? 10 cs)

/-- The natural number that a text looks like, with or without a plus sign. -/
def wholeOf? (s : String) : Option Nat :=
  match s.toList with
  | '+' :: rest => naturalOf? rest
  | cs => naturalOf? cs

/-- The integer that a text looks like. -/
def integerOf? (s : String) : Option Int :=
  match s.toList with
  | '-' :: rest => (naturalOf? rest).map fun n => -(n : Int)
  | _ => (wholeOf? s).map Int.ofNat

/-- Whether a number is neither infinite nor not-a-number. -/
def isFinite (x : Float) : Bool := !x.isNaN && !x.isInf

/-- The floating-point number that a text looks like. A numeral beyond the greatest number is none. -/
def floatOf? (s : String) : Option Float :=
  let cs := s.toList
  let unsigned := match cs with
    | '+' :: rest => rest
    | _ => cs
  if cs.head? = some '+' && startsSigned unsigned then none
  else if [".inf", ".Inf", ".INF"].contains (String.ofList unsigned) then some (1 / 0)
  else if ["-.inf", "-.Inf", "-.INF"].contains s then some (-1 / 0)
  else if [".nan", ".NaN", ".NAN"].contains s then some (0 / 0)
  else ((Numeral.ofChars? unsigned).map Numeral.nearest).filter isFinite

end WorkFarm.Yaml
