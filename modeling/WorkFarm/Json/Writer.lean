import WorkFarm.Json.Basic
import WorkFarm.Decimal.Shortest
/-!
# Writing JSON text

A value is written on one line without blanks. A floating-point number is written as the shortest
decimal that reads back; one that is not finite is written as null.

A reader that goes only so deep stops in front of the first bracket that stands deeper. Where this is
can be told from the value (`Json.beyond?`), and there is such a bracket just if the value is deeper
(`Json.beyond?_eq_none_iff`).

## Main definitions

* `Json.quote` — a text in quotes
* `Json.toText` — a value
* `Json.beyond?` — where in its text a value is nested too deep
-/

namespace WorkFarm.Json

/-- A digit below sixteen. -/
def hexDigit (n : Nat) : Char := (Nat.digitChar n)

/-- The characters that stand for `c` inside quotes: quotes and backslashes are escaped, and so are
the control characters below the blank. -/
def quoteChar (c : Char) : List Char :=
  match c with
  | '"' => ['\\', '"']
  | '\\' => ['\\', '\\']
  | '\n' => ['\\', 'n']
  | '\r' => ['\\', 'r']
  | '\t' => ['\\', 't']
  | '\x08' => ['\\', 'b']
  | '\x0c' => ['\\', 'f']
  | _ =>
    if c.toNat < 0x20 then ['\\', 'u', '0', '0', hexDigit (c.toNat / 16), hexDigit (c.toNat % 16)]
    else [c]

def quote (s : String) : String := String.ofList ('"' :: s.toList.flatMap quoteChar ++ ['"'])

/-- A number as it is written; `null` if it is not finite. -/
def floatText (x : Float) : String :=
  if x.isNaN || x.isInf then "null"
  else (if signBit x then "-" else "") ++ (shortestDecimal x).writtenAsNumber

mutual

def toText : Json → String
  | .null => "null"
  | .bool true => "true"
  | .bool false => "false"
  | .int n => toString n
  | .float x => floatText x
  | .str s => quote s
  | .arr items => "[" ++ itemsText items ++ "]"
  | .obj members => "\x7b" ++ membersText members ++ "\x7d"

/-- The texts of the values of an array, with commas between them. -/
def itemsText : List Json → String
  | [] => ""
  | [v] => toText v
  | v :: rest => toText v ++ "," ++ itemsText rest

/-- The members of an object, with commas between them. -/
def membersText : List (String × Json) → String
  | [] => ""
  | [(k, v)] => quote k ++ ":" ++ toText v
  | (k, v) :: rest => quote k ++ ":" ++ toText v ++ "," ++ membersText rest

end

mutual

/-- How many bytes of the text stand in front of the first bracket with more than `limit` brackets around
it, if there is one. -/
def beyond? : Json → Nat → Option Nat
  | .arr _, 0 | .obj _, 0 => some 0
  | .arr items, limit + 1 => (beyondInItems? items limit).map (1 + ·)
  | .obj members, limit + 1 => (beyondInMembers? members limit).map (1 + ·)
  | _, _ => none

/-- The same for the values of an array. -/
def beyondInItems? : List Json → Nat → Option Nat
  | [], _ => none
  | v :: rest, limit =>
    match v.beyond? limit with
    | some n => some n
    | none => (beyondInItems? rest limit).map (v.toText.utf8ByteSize + 1 + ·)

/-- The same for the members of an object. -/
def beyondInMembers? : List (String × Json) → Nat → Option Nat
  | [], _ => none
  | (k, v) :: rest, limit =>
    let key := (quote k).utf8ByteSize + 1
    match v.beyond? limit with
    | some n => some (key + n)
    | none => (beyondInMembers? rest limit).map (key + v.toText.utf8ByteSize + 1 + ·)

end

mutual

theorem beyond?_eq_none_iff : (v : Json) → (limit : Nat) → (v.beyond? limit = none ↔ v.depth ≤ limit)
  | .arr items, 0 => by simp [beyond?, depth]
  | .obj members, 0 => by simp [beyond?, depth]
  | .arr items, limit + 1 => by
    rw [beyond?, depth, Option.map_eq_none_iff, beyondInItems?_eq_none_iff items limit]
    exact Nat.succ_le_succ_iff.symm
  | .obj members, limit + 1 => by
    rw [beyond?, depth, Option.map_eq_none_iff, beyondInMembers?_eq_none_iff members limit]
    exact Nat.succ_le_succ_iff.symm
  | .null, _ | .bool _, _ | .int _, _ | .float _, _ | .str _, _ => by simp [beyond?, depth]

theorem beyondInItems?_eq_none_iff : (items : List Json) → (limit : Nat) →
    (beyondInItems? items limit = none ↔ depthOfItems items ≤ limit)
  | [], limit => by simp [beyondInItems?, depthOfItems]
  | v :: rest, limit => by
    rw [depthOfItems, Nat.max_le, ← v.beyond?_eq_none_iff limit, ← beyondInItems?_eq_none_iff rest limit,
      beyondInItems?]
    cases v.beyond? limit <;> simp

theorem beyondInMembers?_eq_none_iff : (members : List (String × Json)) → (limit : Nat) →
    (beyondInMembers? members limit = none ↔ depthOfMembers members ≤ limit)
  | [], limit => by simp [beyondInMembers?, depthOfMembers]
  | (k, v) :: rest, limit => by
    rw [depthOfMembers, Nat.max_le, ← v.beyond?_eq_none_iff limit, ← beyondInMembers?_eq_none_iff rest limit,
      beyondInMembers?]
    cases v.beyond? limit <;> simp

end

end WorkFarm.Json
