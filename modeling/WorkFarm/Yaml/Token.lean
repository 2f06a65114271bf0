import WorkFarm.Yaml.Scalar
/-!
# The tokens of a YAML text

A text is cut into tokens. Indentation becomes tokens of its own, which open and close blocks, and a
key is marked once its colon is found: until then, every place where a key could have begun is kept in
mind.

## Main definitions

* `Token` — a piece of a YAML text
* `Scanner` — what has been read, the open blocks and brackets, and the places of possible keys
* `Scanner.step` — one token or a few, or the end
* `tokens` — the tokens of a text

## Design

Blocks are told apart from brackets by the stack of possible keys, which has one place for the block
and one for every open bracket.
-/

namespace WorkFarm.Yaml

/-- How a text is written. -/
inductive Style where
  /-- Without quotes. -/
  | plain
  /-- In quotes. -/
  | quoted
  /-- As a block whose lines are kept. -/
  | literal
  /-- As a block whose lines are folded. -/
  | folded
deriving DecidableEq, Repr

/-- A piece of a YAML text. -/
inductive Token where
  /-- The directive that names the version of YAML. -/
  | version
  /-- The directive that gives a tag handle its meaning. -/
  | tagPrefix (handle expansion : String)
  /-- The mark in front of a document. -/
  | documentStart
  /-- The mark behind a document. -/
  | documentEnd
  /-- The indentation of a sequence begins. -/
  | blockSequence
  /-- The indentation of a mapping begins. -/
  | blockMapping
  | blockEnd
  /-- A bracket that opens a sequence. -/
  | flowSequence
  /-- A bracket that closes a sequence. -/
  | flowSequenceEnd
  /-- A brace that opens a mapping. -/
  | flowMapping
  /-- A brace that closes a mapping. -/
  | flowMappingEnd
  /-- A dash in front of an item. -/
  | blockEntry
  | flowEntry
  /-- A key follows. -/
  | key
  /-- A value follows. -/
  | value
  | reference (name : String)
  /-- The name of the node that follows. -/
  | anchor (name : String)
  /-- The tag of the node that follows. -/
  | tag (handle suffix : String)
  /-- A text. -/
  | scalar (text : String) (style : Style)
deriving DecidableEq, Repr

/-- A place where a key may have begun. -/
structure KeyPlace where
  /-- Whether a key has to begin there, for the indentation says so. -/
  required : Bool
  /-- The number of tokens in front of it. -/
  position : Nat
  cursor : Cursor

/-- What has been read, and what is open. -/
structure Scanner where
  /-- The rest of the text. -/
  cursor : Cursor
  /-- The tokens found so far. -/
  tokens : Array Token := #[]
  /-- The column of the innermost block; `-1` outside of all blocks. -/
  indent : Int := -1
  /-- The columns of the blocks around it. -/
  outer : List Int := []
  /-- Whether a key may begin here. -/
  keyAllowed : Bool := true
  /-- The possible keys: one place for the block, and in front of it one for every open bracket. -/
  keys : List (Option KeyPlace) := [none]

namespace Scanner

/-- Whether a bracket is open. -/
def inFlow (s : Scanner) : Bool := 1 < s.keys.length

def put (s : Scanner) (t : Token) : Scanner := { s with tokens := s.tokens.push t }

/-- Adds a token of one character, and moves over it. -/
def putMark (s : Scanner) (t : Token) : Scanner := { s.put t with cursor := s.cursor.skip 1 }

/-- The possible key of the innermost bracket, or of the block. -/
def key? (s : Scanner) : Option KeyPlace := s.keys.head?.join

/-- Gives up a possible key, unless it is required. -/
def dropKey (s : Scanner) : Except YamlError Scanner :=
  if s.key?.any (·.required) then .error .keyWithoutColon
  else .ok { s with keys := none :: s.keys.drop 1 }

/-- Notes that a key may begin here. -/
def noteKey (s : Scanner) : Except YamlError Scanner := do
  if !s.keyAllowed then return s
  let place : KeyPlace :=
    { required := !s.inFlow && s.indent == (s.cursor.column : Int)
      position := s.tokens.size
      cursor := s.cursor }
  let s ← s.dropKey
  return { s with keys := some place :: s.keys.drop 1 }

/-- Whether a key that begins at `place` can still end here: keys stand on one line and have at most
1024 characters. -/
def inReach (s : Scanner) (place : KeyPlace) : Bool :=
  place.cursor.line == s.cursor.line && s.cursor.index ≤ place.cursor.index + 1024

/-- Gives up the possible keys that are out of reach; it is an error if one of them is required. -/
def dropStale (s : Scanner) : Except YamlError Scanner :=
  if s.keys.any (fun k => k.any fun p => !s.inReach p && p.required) then .error .keyWithoutColon
  else .ok { s with keys := s.keys.map (·.filter s.inReach) }

/-- Opens a block at `column`, if that is deeper than the open ones; its token goes to `position`. -/
def openBlock (s : Scanner) (column : Nat) (position : Nat) (t : Token) : Scanner :=
  if s.inFlow || (column : Int) ≤ s.indent then s
  else { s with
    indent := column
    outer := s.indent :: s.outer
    tokens := s.tokens.insertIdxIfInBounds position t }

/-- Closes blocks, the innermost first, up to the one that `column` belongs to. -/
def closeBlocksFrom (column indent : Int) : List Int → Array Token → Int × List Int × Array Token
  | [], ts => (indent, [], ts)
  | o :: rest, ts =>
    if column < indent then closeBlocksFrom column o rest (ts.push .blockEnd)
    else (indent, o :: rest, ts)

/-- Closes the blocks that are deeper than `column`. -/
def closeBlocks (s : Scanner) (column : Int) : Scanner :=
  if s.inFlow then s
  else
    let (indent, outer, tokens) := closeBlocksFrom column s.indent s.outer s.tokens
    { s with indent, outer, tokens }

/-- Moves to the next token, over blanks, comments and line breaks. A tab counts as a blank where no
key can begin. -/
def skipGap : Nat → Scanner → Scanner
  | 0, s => s
  | fuel + 1, s =>
    let tabs := s.inFlow || !s.keyAllowed
    let (_, c) := s.cursor.takeWhile fun ch => ch == ' ' || (tabs && ch == '\t')
    let (_, c) := if c.at? '#' then c.takeWhile (fun ch => !isBreak ch) else ([], c)
    match c.line? with
    | some (_, c) =>
      skipGap fuel { s with cursor := c, keyAllowed := s.keyAllowed || !s.inFlow }
    | none => { s with cursor := c }

/-! ### Directives, names and tags -/

/-- Whether a character may occur in a name. -/
def isNameChar (ch : Char) : Bool := ch.isAlphanum || ch == '_' || ch == '-'

/-- Whether a character may occur in a tag; commas and brackets only where `wide` is set. -/
def isTagChar (wide : Bool) (ch : Char) : Bool :=
  isNameChar ch || (";/?:@&=+$.!~*'()%".toList.contains ch) || (wide && ",[]".toList.contains ch)

/-- Replaces percent signs with two digits by the octets that they stand for. -/
def unescapeTag : List Char → Option (List UInt8)
  | [] => some []
  | '%' :: a :: b :: rest => do
    let n ← natOfDigits? 16 [a, b]
    return UInt8.ofNat n :: (← unescapeTag rest)
  | '%' :: _ => none
  | ch :: rest => do
    return (String.singleton ch).toUTF8.toList ++ (← unescapeTag rest)

/-- Reads the text of a tag behind `start`, which counts as a part of it. -/
def tagText (wide : Bool) (start : String) (c : Cursor) : Except YamlError (String × Cursor) :=
  let (chars, c) := c.takeWhile (isTagChar wide)
  match (unescapeTag chars).bind fun octets => String.fromUTF8? ⟨octets.toArray⟩ with
  | none => .error .malformedProperty
  | some text => if (start ++ text).isEmpty then .error .malformedProperty else .ok (start ++ text, c)

/-- Reads a tag handle: an exclamation mark, or a name between two of them. A handle that does not end
in an exclamation mark is the beginning of a tag. -/
def tagHandle (c : Cursor) : Except YamlError (String × Cursor) :=
  if !c.at? '!' then .error .malformedProperty
  else
    let (name, c) := (c.skip 1).takeWhile isNameChar
    if c.at? '!' then .ok (String.ofList ('!' :: name ++ ['!']), c.skip 1)
    else .ok (String.ofList ('!' :: name), c)

def tag (flow : Bool) (c : Cursor) : Except YamlError (Token × Cursor) := do
  let (t, c) ←
    if c.second? == some '<' then do
      let (text, c) ← tagText true "" (c.skip 2)
      if !c.at? '>' then throw .malformedProperty
      pure (Token.tag "" text, c.skip 1)
    else do
      let (handle, c) ← tagHandle c
      if 1 < handle.length && handle.endsWith "!" then do
        let (text, c) ← tagText false "" c
        pure (Token.tag handle text, c)
      else do
        let (text, c) ← tagText false handle c
        if text == "!" then pure (Token.tag "" "!", c)
        else pure (Token.tag "!" (String.ofList (text.toList.drop 1)), c)
  if c.atBoundary || (flow && c.at? ',') then return (t, c)
  throw .malformedProperty

/-- Reads the name of an anchor or a reference. -/
def name (c : Cursor) : Except YamlError (String × Cursor) :=
  let (chars, c) := (c.skip 1).takeWhile isNameChar
  if chars.isEmpty then .error .malformedProperty
  else if c.atBoundary || c.headIs (fun ch => "?:,]\x7d%@`".toList.contains ch) then
    .ok (String.ofList chars, c)
  else .error .malformedProperty

/-- Reads a number of the version of YAML. -/
def versionNumber (c : Cursor) : Except YamlError (Nat × Cursor) :=
  let (digits, c) := c.takeWhile Char.isDigit
  if digits.isEmpty || 9 < digits.length then .error .malformedProperty
  else .ok (natOfDecimal digits, c)

/-- Reads what follows the name of a directive. -/
def directiveBody (name : String) (c : Cursor) : Except YamlError (Token × Cursor) := do
  let (_, c) := c.takeWhile isBlank
  match name with
  | "YAML" =>
    let (major, c) ← versionNumber c
    if !c.at? '.' then throw .malformedProperty
    let (minor, c) ← versionNumber (c.skip 1)
    if major == 1 && (minor == 1 || minor == 2) then return (.version, c)
    throw .malformedProperty
  | "TAG" =>
    let (handle, c) ← tagHandle c
    if 1 < handle.length && !handle.endsWith "!" then throw .malformedProperty
    if !c.headIs isBlank then throw .malformedProperty
    let (_, c) := c.takeWhile isBlank
    let (expansion, c) ← tagText true "" c
    if !c.atBoundary then throw .malformedProperty
    return (.tagPrefix handle expansion, c)
  | _ => throw .malformedProperty

/-- Reads a directive to the end of its line. -/
def directive (c : Cursor) : Except YamlError (Token × Cursor) := do
  let (name, c) := (c.skip 1).takeWhile isNameChar
  if name.isEmpty || !c.atBoundary then throw .malformedProperty
  let (t, c) ← directiveBody (String.ofList name) c
  let (_, c) := c.takeWhile isBlank
  let (_, c) := if c.at? '#' then c.takeWhile (fun ch => !isBreak ch) else ([], c)
  if c.atEnd then return (t, c)
  match c.line? with
  | some (_, c) => return (t, c)
  | none => throw .malformedProperty

/-! ### One token after another -/

/-- Leaves all blocks; no key may begin here. -/
def leaveBlocks (s : Scanner) : Except YamlError Scanner := do
  let s ← (s.closeBlocks (-1)).dropKey
  return { s with keyAllowed := false }

def openFlow (s : Scanner) (t : Token) : Except YamlError Scanner := do
  let s ← s.noteKey
  return { s.putMark t with keys := none :: s.keys, keyAllowed := true }

def closeFlow (s : Scanner) (t : Token) : Except YamlError Scanner := do
  let s ← s.dropKey
  return { s.putMark t with
    keys := if s.inFlow then s.keys.drop 1 else s.keys
    keyAllowed := false }

/-- A mark that opens a block, unless a bracket is open: a dash or a question mark. -/
def blockMark (s : Scanner) (opens mark : Token) (keyAllowed : Bool) : Except YamlError Scanner := do
  if !s.inFlow && !s.keyAllowed then throw .misplacedMark
  let s := s.openBlock s.cursor.column s.tokens.size opens
  let s ← s.dropKey
  return { s.putMark mark with keyAllowed }

/-- A colon: the key in front of it is marked, and opens a mapping if it is the first one. -/
def valueMark (s : Scanner) : Except YamlError Scanner := do
  match s.key? with
  | some place =>
    let s := { s with
      tokens := s.tokens.insertIdxIfInBounds place.position .key
      keys := none :: s.keys.drop 1 }
    let s := s.openBlock place.cursor.column place.position .blockMapping
    return { s.putMark .value with keyAllowed := false }
  | none =>
    if !s.inFlow && !s.keyAllowed then throw .misplacedMark
    let s := s.openBlock s.cursor.column s.tokens.size .blockMapping
    return { s.putMark .value with keyAllowed := !s.inFlow }

/-- A token that may be a key, or a property of one. -/
def keyToken (s : Scanner) (read : Cursor → Except YamlError (Token × Cursor)) :
    Except YamlError Scanner := do
  let s ← s.noteKey
  let (t, cursor) ← read s.cursor
  return { s.put t with cursor, keyAllowed := false }

/-- A plain text. A key may begin behind it if a line ended. -/
def plainToken (s : Scanner) : Except YamlError Scanner := do
  let s ← s.noteKey
  let (text, cursor, broken) ← plain s.inFlow (s.indent + 1).toNat s.cursor
  return { s.put (.scalar text .plain) with cursor, keyAllowed := broken }

def blockToken (s : Scanner) (style : Style) : Except YamlError Scanner := do
  let s ← s.dropKey
  let (text, cursor) ← block (style = .folded) s.indent s.cursor
  return { s.put (.scalar text style) with cursor, keyAllowed := true }

/-- Whether a plain text begins here. -/
def startsPlain (s : Scanner) (ch : Char) : Bool :=
  let next := s.cursor.second?
  !(isBlank ch || isBreak ch || "-?:,[]\x7b\x7d#&*!|>'\"%@`".toList.contains ch)
    || (ch == '-' && !next.any isBlank)
    || (!s.inFlow && (ch == '?' || ch == ':') && !Cursor.isBoundary next)

/-- The tokens that begin with `ch`. -/
def token (s : Scanner) (ch : Char) : Except YamlError Scanner :=
  let flow := s.inFlow
  let boundary := Cursor.isBoundary s.cursor.second?
  match ch with
  | '[' => s.openFlow .flowSequence
  | '\x7b' => s.openFlow .flowMapping
  | ']' => s.closeFlow .flowSequenceEnd
  | '\x7d' => s.closeFlow .flowMappingEnd
  | ',' => do
    let s ← s.dropKey
    return { s.putMark .flowEntry with keyAllowed := true }
  | '*' => s.keyToken fun c => (name c).map fun (n, c) => (.reference n, c)
  | '&' => s.keyToken fun c => (name c).map fun (n, c) => (.anchor n, c)
  | '!' => s.keyToken (tag flow)
  | '\'' | '"' => s.keyToken fun c => (quoted ch c).map fun (t, c) => (.scalar t .quoted, c)
  | _ =>
    if ch == '-' && boundary then s.blockMark .blockSequence .blockEntry true
    else if ch == '?' && (flow || boundary) then s.blockMark .blockMapping .key (!flow)
    else if ch == ':' && (flow || boundary) then s.valueMark
    else if ch == '|' && !flow then s.blockToken .literal
    else if ch == '>' && !flow then s.blockToken .folded
    else if s.startsPlain ch then s.plainToken
    else .error .unexpectedChar

/-- Reads the next token with the blocks that it opens or closes. The answer says whether there was
one. -/
def step (s : Scanner) : Except YamlError (Bool × Scanner) := do
  let s := skipGap (s.cursor.rest.length + 1) s
  let s := (← s.dropStale).closeBlocks s.cursor.column
  match s.cursor.head? with
  | none => return (false, ← s.leaveBlocks)
  | some ch =>
    if s.cursor.column == 0 && ch == '%' then
      let s ← s.leaveBlocks
      let (t, cursor) ← directive s.cursor
      return (true, { s.put t with cursor })
    else if s.cursor.documentMark then
      let s ← s.leaveBlocks
      let t := if ch == '-' then Token.documentStart else .documentEnd
      return (true, { s.put t with cursor := s.cursor.skip 3 })
    else return (true, ← s.token ch)

/-- Reads tokens to the end of the text. Every step but the last moves on, so their number is bounded
by the length of the text. -/
def run : Nat → Scanner → Except YamlError (Array Token)
  | 0, s => .ok s.tokens
  | fuel + 1, s => do
    let (more, s) ← s.step
    if more then run fuel s else return s.tokens

end Scanner

/-- The tokens of a text. A mark that tells the order of its bytes may stand in front. -/
def tokens (s : String) : Except YamlError (List Token) := do
  let chars := match s.toList with
    | '\uFEFF' :: rest => rest
    | chars => chars
  match chars.find? (fun ch => !isAllowed ch) with
  | some ch => throw (.forbiddenChar ch)
  | none =>
    let ts ← Scanner.run (chars.length + 2) { cursor := { rest := chars } }
    return ts.toList

end WorkFarm.Yaml
