import WorkFarm.Json.Basic
import WorkFarm.Decimal.Numeral
/-!
# Reading JSON text

Text is cut into tokens, and the tokens are put together on a stack of unfinished arrays and objects.

## Main definitions

* `Json.Token` — a piece of JSON text
* `Json.tokens?` — the tokens of a text
* `Json.Partial.step?` — one token, taken into the unfinished value
* `Json.ofText?` — the value that a text stands for
* `Json.nestingLimit` — how deep a value may be that is read back from its text

## Design

Both passes run over a list from the front, so they end without a bound on their steps, and the
depth of a value costs no depth of recursion.
-/

namespace WorkFarm.Json

/-- How many arrays and objects may stand inside each other in a text that is read back. -/
def nestingLimit : Nat := 127

/-- A piece of JSON text. -/
inductive Token where
  /-- One of the marks `[ ] { } , :`. -/
  | mark (c : Char)
  /-- A text in quotes, with its escapes resolved. -/
  | text (s : String)
  /-- A value written as a word: a number, a truth value or null. -/
  | word (v : Json)

/-- What the characters read last belong to. -/
inductive Scan where
  /-- Nothing is open. -/
  | between
  /-- A word; its characters stand in reverse. -/
  | word (chars : List Char)
  /-- A text; its characters stand in reverse. -/
  | text (chars : List Char)
  /-- A text, behind a backslash. -/
  | escape (chars : List Char)
  /-- A text, inside a character code; `digits` are still to come, and a first half of a pair may
  wait for its second. -/
  | code (chars : List Char) (first : Option Nat) (digits : Nat) (value : Nat)
  /-- A text, behind the first half of a pair, where a backslash has to come. -/
  | pair (chars : List Char) (first : Nat)
  /-- A text, behind the first half of a pair and a backslash. -/
  | pairEscape (chars : List Char) (first : Nat)

def ofWord? (chars : List Char) : Option Json :=
  match String.ofList chars with
  | "null" => some .null
  | "true" => some (.bool true)
  | "false" => some (.bool false)
  | _ => do
    let n ← Numeral.ofJson? chars
    let magnitude := natOfDecimal n.whole
    if n.isInteger ∧ magnitude < wordCount 64 ∧ ¬ (n.negative ∧ (magnitude = 0 ∨ wordCount 63 < magnitude)) then
      some (.int (if n.negative then -magnitude else magnitude))
    else n.scaled?.map .float

/-- The character behind a backslash, for the escapes of one letter. -/
def escaped? : Char → Option Char
  | '"' => some '"'
  | '\\' => some '\\'
  | '/' => some '/'
  | 'b' => some '\x08'
  | 'f' => some '\x0c'
  | 'n' => some '\n'
  | 'r' => some '\r'
  | 't' => some '\t'
  | _ => none

/-- What a finished character code does: a whole character, the first half of a pair, or, behind a
first half, its second. -/
def codeDone? (chars : List Char) (first : Option Nat) (value : Nat) : Option Scan :=
  let high := 0xD800 ≤ value ∧ value < 0xDC00
  let low := 0xDC00 ≤ value ∧ value < 0xE000
  match first with
  | none =>
    if high then some (.pair chars value)
    else if low then none
    else some (.text (Char.ofNat value :: chars))
  | some h =>
    if low then
      some (.text (Char.ofNat (0x10000 + (h - 0xD800) * 0x400 + (value - 0xDC00)) :: chars))
    else none

/-- Whether a character can stand in a word. -/
def isWordChar (c : Char) : Bool := c.isAlphanum || c == '+' || c == '-' || c == '.'

/-- One character where nothing is open: the token it is, if it is one, and what it opens. -/
def opened? (c : Char) : Option (Option Token × Scan) :=
  if c == ' ' || c == '\t' || c == '\n' || c == '\r' then some (none, .between)
  else if c == '"' then some (none, .text [])
  else if isWordChar c then some (none, .word [c])
  else if ['[', ']', '\x7b', '\x7d', ',', ':'].contains c then some (some (.mark c), .between)
  else none

/-- One character: the tokens it completes, and what is open behind it. -/
def scanChar? (scan : Scan) (c : Char) : Option (List Token × Scan) :=
  match scan with
  | .between => (opened? c).map fun (t, s) => (t.toList, s)
  | .word chars =>
    if isWordChar c then some ([], .word (c :: chars))
    else do
      let v ← ofWord? chars.reverse
      let (t, s) ← opened? c
      some (.word v :: t.toList, s)
  | .text chars =>
    if c == '"' then some ([.text (String.ofList chars.reverse)], .between)
    else if c == '\\' then some ([], .escape chars)
    else if c.toNat < 0x20 then none
    else some ([], .text (c :: chars))
  | .escape chars =>
    if c == 'u' then some ([], .code chars none 4 0)
    else (escaped? c).map fun e => ([], .text (e :: chars))
  | .code chars first digits value => do
    let d ← digitValue? c
    let value := value * 16 + d
    if digits ≤ 1 then (codeDone? chars first value).map ([], ·)
    else some ([], .code chars first (digits - 1) value)
  | .pair chars first => if c == '\\' then some ([], .pairEscape chars first) else none
  | .pairEscape chars first => if c == 'u' then some ([], .code chars (some first) 4 0) else none

/-- The tokens of the rest of a text, the first one last in front of those found before. -/
def tokensFrom? (scan : Scan) (found : List Token) : List Char → Option (List Token)
  | [] =>
    match scan with
    | .between => some found.reverse
    | .word chars => (ofWord? chars.reverse).map fun v => (.word v :: found).reverse
    | _ => none
  | c :: rest => do
    let (ts, scan) ← scanChar? scan c
    tokensFrom? scan (ts.reverse ++ found) rest

def tokens? (s : String) : Option (List Token) := tokensFrom? .between [] s.toList

/-- An array or object that is not finished; what it holds stands in reverse. -/
inductive Frame where
  | arr (items : List Json)
  /-- An object, and the key whose value is being read. -/
  | obj (members : List (String × Json)) (key : String)

/-- What may come next. -/
inductive Expect where
  | value
  /-- A value, or the end of an array that has just begun. -/
  | valueOrEnd
  /-- A key, or the end of an object that has just begun. -/
  | keyOrEnd
  | key
  /-- The colon behind a key. -/
  | colon
  /-- A comma, or the end of what is open. -/
  | commaOrEnd
deriving DecidableEq

/-- A value being read. -/
structure Partial where
  /-- The unfinished arrays and objects, the innermost first. -/
  frames : List Frame
  /-- What may come next. -/
  expect : Expect
  /-- The whole value, once nothing is unfinished. -/
  done : Option Json

/-- Puts a finished value into the innermost unfinished one. -/
def Partial.put (v : Json) : List Frame → Partial
  | [] => ⟨[], .commaOrEnd, some v⟩
  | .arr items :: rest => ⟨.arr (v :: items) :: rest, .commaOrEnd, none⟩
  | .obj members key :: rest => ⟨.obj ((key, v) :: members) key :: rest, .commaOrEnd, none⟩

/-- Ends the innermost unfinished array or object. -/
def Partial.close? (p : Partial) (c : Char) : Option Partial :=
  match p.frames with
  | .arr items :: rest => if c = ']' then some (Partial.put (.arr items.reverse) rest) else none
  | .obj members _ :: rest =>
    if c = '\x7d' then some (Partial.put (.object members.reverse) rest) else none
  | [] => none

/-- Takes one token in, if it may stand here. -/
def Partial.step? (p : Partial) (t : Token) : Option Partial :=
  let wantsValue := p.expect = .value ∨ p.expect = .valueOrEnd
  let wantsKey := p.expect = .key ∨ p.expect = .keyOrEnd
  if p.done.isSome then none
  else match t with
  | .word v => if wantsValue then some (Partial.put v p.frames) else none
  | .text s =>
    if wantsValue then some (Partial.put (.str s) p.frames)
    else if wantsKey then
      match p.frames with
      | .obj members _ :: rest => some ⟨.obj members s :: rest, .colon, none⟩
      | _ => none
    else none
  | .mark c =>
    if c = '[' ∨ c = '\x7b' then
      if ¬ wantsValue ∨ nestingLimit ≤ p.frames.length then none
      else if c = '[' then some ⟨.arr [] :: p.frames, .valueOrEnd, none⟩
      else some ⟨.obj [] "" :: p.frames, .keyOrEnd, none⟩
    else if c = ']' then
      if p.expect = .valueOrEnd ∨ p.expect = .commaOrEnd then p.close? c else none
    else if c = '\x7d' then
      if p.expect = .keyOrEnd ∨ p.expect = .commaOrEnd then p.close? c else none
    else if c = ':' then
      if p.expect = .colon then some { p with expect := .value } else none
    else
      if p.expect = .commaOrEnd then
        match p.frames with
        | .arr _ :: _ => some { p with expect := .value }
        | .obj _ _ :: _ => some { p with expect := .key }
        | [] => none
      else none

/-- The value that a text stands for, if the text is well formed and not nested too deep. -/
def ofText? (s : String) : Option Json := do
  let ts ← tokens? s
  let p ← ts.foldlM Partial.step? ⟨[], .value, none⟩
  p.done

end WorkFarm.Json
