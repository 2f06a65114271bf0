import WorkFarm.Word
/-!
# JSON values

Payloads, outputs and failure details are JSON values, and the farm hands them on without looking
inside. Integers and floating-point numbers are told apart: `2` and `2.0` are different values.

## Main definitions

* `Json` — a value
* `Json.object` — an object from its members, with sorted keys
* `Json.get?` — a member of an object
* `Json.depth` — how many arrays and objects stand inside each other
* `Json.same` — equality of values

## Design

The members of an object are kept sorted by key, and of two members with one key the later one
stays. `Json.object` is the way to build such an object; nothing else in the library orders members.
-/

namespace WorkFarm

/-- A JSON value. -/
inductive Json where
  | null
  | bool (b : Bool)
  /-- An integer, between the least signed and the greatest unsigned number of 64 bits. -/
  | int (n : Int)
  /-- A number written with a fraction or an exponent. -/
  | float (x : Float)
  /-- A text. -/
  | str (s : String)
  /-- A sequence of values. -/
  | arr (items : List Json)
  /-- Values under keys. -/
  | obj (members : List (String × Json))
deriving Inhabited

namespace Json

/-- Writes one member into a list sorted by key, over an earlier member with that key. -/
def insertMember (key : String) (value : Json) : List (String × Json) → List (String × Json)
  | [] => [(key, value)]
  | m :: rest =>
    if key = m.1 then (key, value) :: rest
    else if key < m.1 then (key, value) :: m :: rest
    else m :: insertMember key value rest

/-- The object with these members, of which the last one with a key stays. -/
def object (members : List (String × Json)) : Json :=
  .obj (members.foldl (fun acc m => insertMember m.1 m.2 acc) [])

/-- The value under `key`, if this is an object that has one. -/
def get? (key : String) : Json → Option Json
  | .obj members => (members.find? (fun m => m.1 == key)).map Prod.snd
  | _ => none

/-- A natural number as a JSON integer. -/
def nat (n : Nat) : Json := .int n

/-- The integer from zero below 2^64 that this value is, if it is one. -/
def asWord? : Json → Option Nat
  | .int n => if 0 ≤ n ∧ n < wordCount 64 then some n.toNat else none
  | _ => none

/-- The text that this value is, if it is one. -/
def asText? : Json → Option String
  | .str s => some s
  | _ => none

mutual

/-- How many arrays and objects stand inside each other at the deepest place. -/
def depth : Json → Nat
  | .arr items => depthOfItems items + 1
  | .obj members => depthOfMembers members + 1
  | _ => 0

/-- The greatest depth among the values of an array. -/
def depthOfItems : List Json → Nat
  | [] => 0
  | v :: rest => max v.depth (depthOfItems rest)

/-- The greatest depth among the values of an object. -/
def depthOfMembers : List (String × Json) → Nat
  | [] => 0
  | (_, v) :: rest => max v.depth (depthOfMembers rest)

end

mutual

/-- Equality of values. Floating-point numbers are compared as numbers, so that not-a-number differs
from itself; an integer is never equal to a floating-point number. -/
def same : Json → Json → Bool
  | .null, .null => true
  | .bool a, .bool b => a == b
  | .int a, .int b => a == b
  | .float a, .float b => a == b
  | .str a, .str b => a == b
  | .arr a, .arr b => sameItems a b
  | .obj a, .obj b => sameMembers a b
  | _, _ => false

/-- Equality of the values of two arrays, place by place. -/
def sameItems : List Json → List Json → Bool
  | [], [] => true
  | a :: as, b :: bs => same a b && sameItems as bs
  | _, _ => false

/-- Equality of the members of two objects, which are sorted by key. -/
def sameMembers : List (String × Json) → List (String × Json) → Bool
  | [], [] => true
  | (k, a) :: as, (j, b) :: bs => k == j && same a b && sameMembers as bs
  | _, _ => false

end

instance : BEq Json := ⟨same⟩

end Json

end WorkFarm
