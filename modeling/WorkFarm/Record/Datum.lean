import WorkFarm.Json.Basic
import WorkFarm.Yaml.Node
import WorkFarm.Yaml.Plain
/-!
# Data from a document

A datum is a value as a document gives it, before anyone has said what it should be. Data from JSON are
settled: a text is a text, and a number is a number. A text from YAML may be open: `12` is a number where
a number is wanted, and a text where a text is wanted.

## Main definitions

* `Datum` — a value of a document
* `Datum.ofJson`, `Datum.ofYaml` — the two sources
* `Datum.settled?` — an open datum, as what it looks like
* `Datum.toJson?` — a datum as a JSON value
-/

namespace WorkFarm

/-- A value of a document. -/
inductive Datum where
  | null
  | bool (b : Bool)
  | int (n : Int)
  | float (x : Float)
  /-- A text, and nothing else. -/
  | text (s : String)
  /-- A text from YAML, which may be something else. -/
  | openText (tag : Option String) (style : Yaml.Style) (s : String)
  | seq (tag : Option String) (items : List Datum)
  | map (tag : Option String) (members : List (Datum × Datum))
  /-- A reference from inside of what it refers to. -/
  | loop
deriving Inhabited

namespace Datum

/-! ### Sources -/

mutual

def ofJson : Json → Datum
  | .null => .null
  | .bool b => .bool b
  | .int n => .int n
  | .float x => .float x
  | .str s => .text s
  | .arr items => .seq none (ofJsonItems items)
  | .obj members => .map none (ofJsonMembers members)

def ofJsonItems : List Json → List Datum
  | [] => []
  | v :: rest => ofJson v :: ofJsonItems rest

def ofJsonMembers : List (String × Json) → List (Datum × Datum)
  | [] => []
  | (k, v) :: rest => (.text k, ofJson v) :: ofJsonMembers rest

end

mutual

def ofYaml : Yaml.Node → Datum
  | .void => .openText none .plain ""
  | .scalar tag style s => .openText tag style s
  | .seq tag items => .seq tag (ofYamlItems items)
  | .map tag members => .map tag (ofYamlMembers members)
  | .loop => .loop

def ofYamlItems : List Yaml.Node → List Datum
  | [] => []
  | n :: rest => ofYaml n :: ofYamlItems rest

def ofYamlMembers : List (Yaml.Node × Yaml.Node) → List (Datum × Datum)
  | [] => []
  | (k, v) :: rest => (ofYaml k, ofYaml v) :: ofYamlMembers rest

end

/-! ### What open texts look like -/

/-- The local name in a tag, which follows an exclamation mark. -/
def localTag? (tag : Option String) : Option String :=
  match tag.map String.toList with
  | some ('!' :: c :: rest) => some (String.ofList (c :: rest))
  | _ => none

/-- An integer that fits a word of 64 bits. A greater one is refused unless it has more than 128 bits;
those are no integers. -/
def ofInteger? (n : Int) : Option (Option Datum) :=
  if -wordCount 63 ≤ n ∧ n < wordCount 64 then some (some (.int n))
  else if -wordCount 127 ≤ n ∧ n < wordCount 128 then some none
  else none

/-- What a text without quotes looks like. -/
def ofPlain? (s : String) : Option Datum :=
  if s.isEmpty || Yaml.isNull s then some .null
  else match Yaml.boolOf? s with
    | some b => some (.bool b)
    | none =>
      match (Yaml.integerOf? s).bind ofInteger? with
      | some d => d
      | none =>
        if Yaml.hasLeadingZero s.toList then some (.text s)
        else some (((Yaml.floatOf? s).map .float).getD (.text s))

/-- What the tags of the core of YAML begin with. -/
def coreTag : String := "tag:yaml.org,2002:"

/-- A text from YAML, as what its tag says or as what it looks like. -/
def settledText? (tag : Option String) (style : Yaml.Style) (s : String) : Option Datum :=
  match tag with
  | none => if style = .plain then ofPlain? s else some (.text s)
  | some t =>
    if (localTag? tag).isSome then none
    else if t = coreTag ++ "bool" then (Yaml.boolOf? s).map .bool
    else if t = coreTag ++ "int" then ((Yaml.integerOf? s).bind ofInteger?).join
    else if t = coreTag ++ "float" then (Yaml.floatOf? s).map .float
    else if t = coreTag ++ "null" then (if Yaml.isNull s then some .null else none)
    else some (.text s)

mutual

/-- A datum with every open text settled, of at most `depth` sequences and mappings inside each other.
Local tags, loops and integers beyond 64 bits are refused. -/
def settled? (depth : Nat) : Datum → Option Datum
  | .openText tag style s => settledText? tag style s
  | .seq tag items =>
    if depth = 0 ∨ (localTag? tag).isSome then none
    else (settledItems? (depth - 1) items).map (.seq none)
  | .map tag members =>
    if depth = 0 ∨ (localTag? tag).isSome then none
    else (settledMembers? (depth - 1) members).map (.map none)
  | .loop => none
  | d => some d

/-- The items of a sequence, settled. -/
def settledItems? (depth : Nat) : List Datum → Option (List Datum)
  | [] => some []
  | d :: rest => do
    let d ← settled? depth d
    return d :: (← settledItems? depth rest)

/-- The members of a mapping, settled. -/
def settledMembers? (depth : Nat) : List (Datum × Datum) → Option (List (Datum × Datum))
  | [] => some []
  | (k, v) :: rest => do
    let k ← settled? depth k
    let v ← settled? depth v
    return (k, v) :: (← settledMembers? depth rest)

end

/-! ### JSON values -/

/-- The text that a datum is, where a text is wanted. -/
def text? : Datum → Option String
  | .text s => some s
  | .openText _ _ s => some s
  | _ => none

mutual

/-- A datum as a JSON value, of at most `depth` sequences and mappings inside each other. Of two
members with one key the last one stays, and a number that is not finite becomes null. -/
def toJson? (depth : Nat) : Datum → Option Json
  | .null => some .null
  | .bool b => some (.bool b)
  | .int n => some (.int n)
  | .float x => some (if Yaml.isFinite x then .float x else .null)
  | .text s => some (.str s)
  | .openText tag style s =>
    match settledText? tag style s with
    | some .null => some .null
    | some (.bool b) => some (.bool b)
    | some (.int n) => some (.int n)
    | some (.float x) => some (if Yaml.isFinite x then .float x else .null)
    | some (.text s) => some (.str s)
    | _ => none
  | .seq tag items =>
    if depth = 0 ∨ (localTag? tag).isSome then none
    else (itemsToJson? (depth - 1) items).map .arr
  | .map tag members =>
    if depth = 0 ∨ (localTag? tag).isSome then none
    else (membersToJson? (depth - 1) members).map .object
  | .loop => none

/-- The items of a sequence, as JSON values. -/
def itemsToJson? (depth : Nat) : List Datum → Option (List Json)
  | [] => some []
  | d :: rest => do
    let v ← toJson? depth d
    return v :: (← itemsToJson? depth rest)

/-- The members of a mapping, as those of a JSON object; their keys have to be texts. -/
def membersToJson? (depth : Nat) : List (Datum × Datum) → Option (List (String × Json))
  | [] => some []
  | (k, v) :: rest => do
    let k ← text? k
    let v ← toJson? depth v
    return (k, v) :: (← membersToJson? depth rest)

end

end Datum

end WorkFarm
