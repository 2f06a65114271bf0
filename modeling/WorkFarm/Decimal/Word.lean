import WorkFarm.Decimal.Numeral
import WorkFarm.Word
/-!
# Words in decimal

A word is a natural number below 2^64. It is read from decimal digits, with or without a plus sign.

## Main definitions

* `wordOfText` — reading a word
* `WordError` — why a text is no word
-/

namespace WorkFarm

/-- Why a text is no word. -/
inductive WordError where
  | empty
  /-- It has a character that is no digit. -/
  | badDigit
  /-- Its number is too large. -/
  | tooLarge
deriving DecidableEq, Repr

def WordError.message : WordError → String
  | .empty => "cannot parse integer from empty string"
  | .badDigit => "invalid digit found in string"
  | .tooLarge => "number too large to fit in target type"

/-- Reads digits from the left; the first one that is wrong decides about the error. -/
def wordOfDigits (n : Nat) : List Char → Except WordError Nat
  | [] => .ok n
  | c :: rest =>
    if !c.isDigit then .error .badDigit
    else
      let m := n * 10 + natOfDecimal [c]
      if m < wordCount 64 then wordOfDigits m rest else .error .tooLarge

/-- The word that a text stands for. -/
def wordOfText (s : String) : Except WordError Nat :=
  match s.toList with
  | [] => .error .empty
  | ['+'] => .error .badDigit
  | '+' :: rest => wordOfDigits 0 rest
  | cs => wordOfDigits 0 cs

end WorkFarm
