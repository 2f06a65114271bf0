import WorkFarm.Yaml.Cursor
import WorkFarm.Decimal.Numeral
/-!
# Texts in YAML

A text is written plain, in one of two kinds of quotes, or as an indented block. Each function reads
one text from a cursor, folds its lines, and resolves its escapes.

## Main definitions

* `plain` — a text without quotes
* `singleQuoted`, `doubleQuoted` — texts in quotes
* `block` — an indented block, whose lines are kept or folded
-/

namespace WorkFarm.Yaml

/-! ### Plain texts -/

/-- Whether a character ends a plain text inside brackets. -/
def endsFlowWord (c : Char) : Bool :=
  c == ',' || c == '[' || c == ']' || c == '\x7b' || c == '\x7d'

/-- Moves over one word of a plain text. A colon ends it before a boundary; inside brackets a bracket
or comma ends it, and a colon right before one is an error. -/
def plainWord (flow : Bool) : Nat → Cursor → List Char → Except YamlError (List Char × Cursor)
  | 0, c, word => .ok (word, c)
  | fuel + 1, c, word =>
    match c.head? with
    | none => .ok (word, c)
    | some ch =>
      if c.atBoundary then .ok (word, c)
      else if flow && ch == ':' && c.second?.any (fun d => endsFlowWord d || d == '?') then
        .error .misplacedMark
      else if ch == ':' && Cursor.isBoundary c.second? then .ok (word, c)
      else if flow && endsFlowWord ch then .ok (word, c)
      else plainWord flow fuel (c.skip 1) (word ++ [ch])

/-- A plain text: words with gaps between them. It ends at a comment, at the mark of a document, at a
line that is not indented, and where a word ends that is not followed by a gap. The last component says
whether the text was followed by a line break. -/
def plainFrom (flow : Bool) (indent : Nat) :
    Nat → Cursor → List Char → Cursor.Gap → Except YamlError (List Char × Cursor × Bool)
  | 0, c, text, g => .ok (text, c, g.broken)
  | fuel + 1, c, text, g => do
    if c.documentMark || c.at? '#' then return (text, c, g.broken)
    let (word, c) ← plainWord flow c.rest.length c []
    let (text, g) :=
      if word.isEmpty then (text, g) else (text ++ g.folded ++ word, ({} : Cursor.Gap))
    if c.atEnd || !c.atBoundary then return (text, c, g.broken)
    let (g, c) ← c.gap indent c.rest.length g
    if !flow && c.column < indent then return (text, c, g.broken)
    plainFrom flow indent fuel c text g

/-- Reads a plain text that is indented by at least `indent` columns. -/
def plain (flow : Bool) (indent : Nat) (c : Cursor) :
    Except YamlError (String × Cursor × Bool) := do
  let (text, c, broken) ← plainFrom flow indent (c.rest.length + 1) c [] {}
  return (String.ofList text, c, broken)

/-! ### Quoted texts -/

/-- The character that a backslash and a letter stand for. -/
def escapedChar? : Char → Option Char
  | '0' => some '\x00'
  | 'a' => some '\x07'
  | 'b' => some '\x08'
  | 't' => some '\t'
  | '\t' => some '\t'
  | 'n' => some '\n'
  | 'v' => some '\x0b'
  | 'f' => some '\x0c'
  | 'r' => some '\r'
  | 'e' => some '\x1b'
  | ' ' => some ' '
  | '"' => some '"'
  | '/' => some '/'
  | '\\' => some '\\'
  | 'N' => some '\u0085'
  | '_' => some '\u00a0'
  | 'L' => some '\u2028'
  | 'P' => some '\u2029'
  | _ => none

/-- The number of digits of a character code behind a backslash and a letter. -/
def codeLength? : Char → Option Nat
  | 'x' => some 2
  | 'u' => some 4
  | 'U' => some 8
  | _ => none

/-- Reads an escape; the cursor stands at the backslash. -/
def escape (c : Cursor) : Except YamlError (Char × Cursor) :=
  match c.second? with
  | none => .error .unknownEscape
  | some e =>
    match escapedChar? e with
    | some ch => .ok (ch, c.skip 2)
    | none =>
      match codeLength? e with
      | none => .error .unknownEscape
      | some n =>
        match natOfDigits? 16 ((c.rest.drop 2).take n) with
        | none => .error .unknownEscape
        | some code =>
          if c.rest.length < 2 + n ∨ 0x110000 ≤ code ∨ (0xD800 ≤ code ∧ code < 0xE000) then
            .error .unknownEscape
          else .ok (Char.ofNat code, c.skip (2 + n))

/-- Moves over the characters of a quoted text up to a boundary or the closing quote. A backslash at
the end of a line joins the next line without a space; the gap in the answer is then a broken one. -/
def quotedWord (quote : Char) :
    Nat → Cursor → List Char → Except YamlError (List Char × Cursor × Cursor.Gap)
  | 0, c, word => .ok (word, c, {})
  | fuel + 1, c, word =>
    if c.atBoundary then .ok (word, c, {})
    else if quote == '\'' && c.at? '\'' && c.second? == some '\'' then
      quotedWord quote fuel (c.skip 2) (word ++ ['\''])
    else if c.at? quote then .ok (word, c, {})
    else if quote == '"' && c.at? '\\' then
      match (c.skip 1).line? with
      | some (_, c) => .ok (word, c, { broken := true })
      | none => do
        let (ch, c) ← escape c
        quotedWord quote fuel c (word ++ [ch])
    else quotedWord quote fuel (c.skip 1) (word ++ c.head?.toList)

/-- The rest of a quoted text, to its closing quote. -/
def quotedFrom (quote : Char) :
    Nat → Cursor → List Char → Except YamlError (List Char × Cursor)
  | 0, _, _ => .error .unclosedQuote
  | fuel + 1, c, text => do
    if c.documentMark || c.atEnd then throw .unclosedQuote
    let (word, c, g) ← quotedWord quote c.rest.length c []
    let text := text ++ word
    if !g.broken && c.at? quote then return (text, c.skip 1)
    let (g, c) ← c.gap 0 c.rest.length g
    quotedFrom quote fuel c (text ++ g.folded)

/-- Reads a text in quotes; the cursor stands at the opening quote. -/
def quoted (quote : Char) (c : Cursor) : Except YamlError (String × Cursor) := do
  let (text, c) ← quotedFrom quote (c.rest.length + 1) (c.skip 1) []
  return (String.ofList text, c)

/-! ### Blocks -/

/-- What becomes of the line breaks at the end of a block. -/
inductive Chomping where
  /-- All are dropped. -/
  | strip
  /-- One is kept. -/
  | clip
  /-- All are kept. -/
  | keep
deriving DecidableEq, Repr

/-- The head of a block. -/
structure BlockHead where
  /-- What becomes of the line breaks at the end. -/
  chomping : Chomping := .clip
  /-- How much deeper than its surroundings the block is indented, if the head says so. -/
  increment : Option Nat := none

/-- Reads a sign that says what becomes of the line breaks at the end. -/
def chomping? (c : Cursor) : Option (Chomping × Cursor) :=
  if c.at? '+' then some (.keep, c.skip 1)
  else if c.at? '-' then some (.strip, c.skip 1)
  else none

/-- Reads a digit that says how deep the block is indented; zero is an error. -/
def increment? (c : Cursor) : Except YamlError (Option Nat × Cursor) :=
  match c.head? with
  | some ch =>
    if ch == '0' then .error .malformedBlock
    else if ch.isDigit then .ok (digitValue? ch, c.skip 1)
    else .ok (none, c)
  | none => .ok (none, c)

/-- Reads the head of a block: a sign and a digit in either order, and perhaps a comment. -/
def blockHead (c : Cursor) : Except YamlError (BlockHead × Cursor) := do
  let (head, c) ← match chomping? c with
    | some (chomping, c) => do
      let (increment, c) ← increment? c
      pure (({ chomping, increment } : BlockHead), c)
    | none => do
      let (increment, c) ← increment? c
      match increment, chomping? c with
      | some n, some (chomping, c) => pure ({ chomping, increment := some n }, c)
      | _, _ => pure ({ increment }, c)
  let (_, c) := c.takeWhile isBlank
  let (_, c) := if c.at? '#' then c.takeWhile (fun ch => !isBreak ch) else ([], c)
  if c.atEnd then return (head, c)
  match c.line? with
  | some (_, c) => return (head, c)
  | none => throw .malformedBlock

/-- Moves over the indentation of lines and over empty lines, up to `indent` columns, or as far as it
goes if `indent` is not known yet. The answer holds the breaks of the empty lines and the greatest
column that was reached. -/
def blockBreaks (indent : Option Nat) :
    Nat → Cursor → List Char → Nat → Except YamlError (List Char × Nat × Cursor)
  | 0, c, breaks, deepest => .ok (breaks, deepest, c)
  | fuel + 1, c, breaks, deepest =>
    let inside := indent.all (c.column < ·)
    if inside && c.at? ' ' then blockBreaks indent fuel (c.skip 1) breaks deepest
    else if inside && c.at? '\t' then .error .tabInIndentation
    else
      let deepest := max deepest c.column
      match c.line? with
      | some (b, c) => blockBreaks indent fuel c (breaks ++ [b]) deepest
      | none => .ok (breaks, deepest, c)

/-- The lines of a block. In a folded block a single line break between two lines that do not begin
with a blank becomes a space. -/
def blockLines (folds : Bool) (indent : Nat) :
    Nat → Cursor → List Char → List Char → List Char → Bool →
      Except YamlError (List Char × List Char × List Char × Cursor)
  | 0, c, text, last, breaks, _ => .ok (text, last, breaks, c)
  | fuel + 1, c, text, last, breaks, leadingBlank => do
    if c.column != indent || c.atEnd then return (text, last, breaks, c)
    let blank := c.headIs isBlank
    let joint :=
      if folds && last == ['\n'] && !leadingBlank && !blank then
        if breaks.isEmpty then [' '] else []
      else last
    let (lineText, c) := c.takeWhile (fun ch => !isBreak ch)
    let (last, c) := match c.line? with
      | some (b, c) => ([b], c)
      | none => ([], c)
    let text := text ++ joint ++ breaks ++ lineText
    let (breaks, _, c) ← blockBreaks (some indent) (c.rest.length + 1) c [] 0
    blockLines folds indent fuel c text last breaks blank

/-- Reads a block inside surroundings indented by `outer`; the cursor stands at its mark. -/
def block (folds : Bool) (outer : Int) (c : Cursor) : Except YamlError (String × Cursor) := do
  let (head, c) ← blockHead (c.skip 1)
  let given := head.increment.map fun n => (max outer 0).toNat + n
  let (breaks, deepest, c) ← blockBreaks given (c.rest.length + 1) c [] 0
  let indent := given.getD (max (max deepest (outer + 1).toNat) 1)
  let (text, last, breaks, c) ← blockLines folds indent (c.rest.length + 1) c [] [] breaks false
  let tail := match head.chomping with
    | .strip => []
    | .clip => last
    | .keep => last ++ breaks
  return (String.ofList (text ++ tail), c)

end WorkFarm.Yaml
