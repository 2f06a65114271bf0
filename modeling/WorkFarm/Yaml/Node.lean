import WorkFarm.Table
import WorkFarm.Yaml.Token
/-!
# The document of a YAML text

A document is a tree of texts, sequences and mappings. References are replaced by the nodes that they
name.

## Main definitions

* `Node` — a document, or a part of one
* `Composer` — the tokens that are left, and the nodes that have names
* `Composer.node` — the node that begins at the next token
* `document` — the document of a text, if the text has exactly one or none

## Design

Every function that reads a node has one unit of fuel less for the functions it calls. A node takes at
most three calls for every token, so the fuel that `document` gives is never used up.
-/

namespace WorkFarm.Yaml

/-- A document, or a part of one. -/
inductive Node where
  /-- No document at all. -/
  | void
  /-- A text. -/
  | scalar (tag : Option String) (style : Style) (text : String)
  | seq (tag : Option String) (items : List Node)
  | map (tag : Option String) (members : List (Node × Node))
  /-- A reference from inside the node that it names. -/
  | loop
deriving Inhabited

/-- The node where nothing is written. -/
def Node.empty (tag : Option String) : Node := .scalar tag .plain ""

/-- The tokens that are left, and the nodes that have names. -/
structure Composer where
  tokens : List Token
  /-- What the handles of tags stand for. -/
  handles : Table String String := ∅
  /-- The nodes that have names. -/
  anchors : Table String Node := ∅

namespace Composer

/-- A reader of a part of a document. -/
abbrev Reader := StateT Composer (Except YamlError)

def peek : Reader (Option Token) := do return (← get).tokens.head?

/-- Moves over the next token. -/
def skip : Reader Unit := modify fun c => { c with tokens := c.tokens.drop 1 }

/-- Whether the next token is one of these. -/
def at? (ts : List Token) : Reader Bool := do return (← peek).any ts.contains

/-- Moves over the next token if it is `t`. -/
def take? (t : Token) : Reader Bool := do
  if ← at? [t] then
    skip
    return true
  return false

/-- Moves over the next token, which has to be `t`. -/
def expect (t : Token) : Reader Unit := do
  if !(← take? t) then throw .unexpectedToken

/-- The name of a node, if the next token is one. -/
def anchor? : Reader (Option String) := do
  match ← peek with
  | some (.anchor name) => skip; return some name
  | _ => return none

/-- The tag of a node, if the next token is one. -/
def tag? : Reader (Option String) := do
  match ← peek with
  | some (.tag handle suffix) =>
    skip
    if handle.isEmpty then return some suffix
    match (← get).handles.get? handle with
    | some expansion => return some (expansion ++ suffix)
    | none => throw .malformedProperty
  | _ => return none

/-- The name and the tag of a node, in either order. -/
def properties : Reader (Option String × Option String) := do
  match ← anchor? with
  | some name => return (some name, ← tag?)
  | none =>
    let tag ← tag?
    return (← anchor?, tag)

/-- Gives a node its name. -/
def setAnchor (name : Option String) (n : Node) : Reader Unit :=
  match name with
  | some name => modify fun c => { c with anchors := c.anchors.insert name n }
  | none => pure ()

/-- Reads items as long as `item` finds one. -/
def many {α : Type} (item : Reader (Option α)) : Nat → Reader (List α)
  | 0 => return []
  | fuel + 1 => do
    match ← item with
    | none => return []
    | some a => return a :: (← many item fuel)

/-- Reads a node, or the empty node before one of the tokens `ends`. -/
def nodeUnless (ends : List Token) (read : Reader Node) : Reader Node := do
  match ← peek with
  | some t => if ends.contains t then return .empty none else read
  | none => read

/-- Reads a value behind its mark, if there is one; `ends` are the tokens that end an empty value. -/
def valueOr (ends : List Token) (read : Reader Node) : Reader Node := do
  if ← take? .value then nodeUnless ends read else return .empty none

/-- Reads the next item of a sequence that is written with dashes. -/
def dashItem (ends : List Token) (read : Reader Node) : Reader (Option Node) := do
  if ← take? .blockEntry then return some (← nodeUnless ends read) else return none

/-- Reads the next member of a mapping that is written by indentation. -/
def blockMember (read : Reader Node) : Reader (Option (Node × Node)) := do
  if ← take? .key then
    let k ← nodeUnless [.key, .value, .blockEnd] read
    return some (k, ← valueOr [.key, .value, .blockEnd] read)
  return none

/-- Reads the comma before an item that is not the first one; whether an item follows. -/
def flowNext (first : Bool) (close : Token) : Reader Bool := do
  if ← at? [close] then return false
  if !first then
    expect .flowEntry
    if ← at? [close] then return false
  return true

/-- Reads a member behind a question mark or a key inside brackets, as an item of a sequence. Where the
key is missing, the token in its place is passed over. -/
def flowPair (read : Reader Node) : Reader Node := do
  let ends : List Token := [.value, .flowEntry, .flowSequenceEnd]
  let k ← if ← at? ends then skip; pure (.empty none) else read
  let v ← valueOr [.flowEntry, .flowSequenceEnd] read
  return .map none [(k, v)]

/-- Reads an item of a sequence in brackets. -/
def flowItem (read : Reader Node) : Reader Node := do
  if ← take? .key then flowPair read else read

/-- Reads a member of a mapping in braces. -/
def flowMember (read : Reader Node) : Reader (Node × Node) := do
  if ← take? .key then
    let k ← nodeUnless [.value, .flowEntry, .flowMappingEnd] read
    return (k, ← valueOr [.flowEntry, .flowMappingEnd] read)
  return (← read, .empty none)

/-- Reads what stands between brackets, separated by commas. -/
def flowList {α : Type} (close : Token) (item : Reader α) : Bool → Nat → Reader (List α)
  | _, 0 => return []
  | first, fuel + 1 => do
    if ← flowNext first close then
      let a ← item
      return a :: (← flowList close item false fuel)
    return []

/-- What may begin a node. -/
structure Place where
  /-- Whether indentation may open a sequence or mapping. -/
  block : Bool
  /-- Whether dashes may open a sequence without indentation. -/
  dashes : Bool

/-- Reads the node that begins at the next token. -/
def node : Nat → Place → Reader Node
  | 0, _ => throw .unexpectedToken
  | fuel + 1, place => do
    if let some (.reference name) ← peek then
      skip
      match (← get).anchors.get? name with
      | some n => return n
      | none => throw .unknownAnchor
    let (name, tag) ← properties
    setAnchor name .loop
    let inside : Reader Node := node fuel ⟨false, false⟩
    let below : Reader Node := node fuel ⟨true, false⟩
    let beside : Reader Node := node fuel ⟨true, true⟩
    let n ← match ← peek with
      | some (.scalar text style) =>
        skip
        pure (.scalar (tag.filter (· != "!")) style text)
      | some .flowSequence =>
        skip
        let items ← flowList .flowSequenceEnd (flowItem inside) true fuel
        expect .flowSequenceEnd
        pure (.seq tag items)
      | some .flowMapping =>
        skip
        let members ← flowList .flowMappingEnd (flowMember inside) true fuel
        expect .flowMappingEnd
        pure (.map tag members)
      | some .blockEntry =>
        if place.dashes then
          let items ← many (dashItem [.blockEntry, .key, .value, .blockEnd] below) fuel
          pure (.seq tag items)
        else if name.isSome || tag.isSome then pure (.empty tag)
        else throw .unexpectedToken
      | some .blockSequence =>
        if !place.block then throw .unexpectedToken
        skip
        let items ← many (dashItem [.blockEntry, .blockEnd] below) fuel
        expect .blockEnd
        pure (.seq tag items)
      | some .blockMapping =>
        if !place.block then throw .unexpectedToken
        skip
        let members ← many (blockMember beside) fuel
        expect .blockEnd
        pure (.map tag members)
      | _ =>
        if name.isSome || tag.isSome then pure (.empty tag) else throw .unexpectedToken
    setAnchor name n
    return n

/-- Reads the directives in front of a document; whether there were any. -/
def directives : Nat → Bool → Bool → Reader Bool
  | 0, _, found => return found
  | fuel + 1, versioned, found => do
    match ← peek with
    | some .version =>
      if versioned then throw .malformedProperty
      skip
      directives fuel true true
    | some (.tagPrefix handle expansion) =>
      if (← get).handles.contains handle then throw .malformedProperty
      modify fun c => { c with handles := c.handles.insert handle expansion }
      skip
      directives fuel versioned true
    | _ => return found

/-- Gives a handle its usual meaning, unless a directive has given it another one. -/
def defaultHandle (handle expansion : String) : Reader Unit :=
  modify fun c =>
    if c.handles.contains handle then c
    else { c with handles := c.handles.insert handle expansion }

/-- Reads the only document of a text. The mark in front of it may be missing if there is no directive
either. -/
def only (fuel : Nat) : Reader Node := do
  if (← peek).isNone then return .void
  let directed ← directives fuel false false
  defaultHandle "!" "!"
  defaultHandle "!!" "tag:yaml.org,2002:"
  let marked ← take? .documentStart
  if directed && !marked then throw .unexpectedToken
  let content : Reader Node := node fuel ⟨true, false⟩
  let n ←
    if !marked then content
    else match ← peek with
      | none | some .version | some (.tagPrefix _ _) | some .documentStart | some .documentEnd =>
        pure (.empty none)
      | _ => content
  let _ ← many (do if ← take? .documentEnd then return some () else return none) fuel
  if (← peek).isSome then throw .severalDocuments
  return n

end Composer

/-- The document of a text, if the text has exactly one or none. -/
def document (s : String) : Except YamlError Node := do
  let ts ← tokens s
  let (n, _) ← (Composer.only (3 * ts.length + 3)).run { tokens := ts }
  return n

end WorkFarm.Yaml
