import WorkFarm.Record.Datum
import WorkFarm.Table
/-!
# Reading records

A decoder turns a datum into a value of a type of this library, or refuses it. What a decoder accepts
depends on the mode: JSON allows a record to be written as the list of its fields, and YAML does not.

## Main definitions

* `Decode.Mode` — what the source of the data allows
* `Decoder` — a reader of one type
* `Decode.text`, `Decode.word`, `Decode.truth`, `Decode.json` — single values
* `Decode.fields?` — the fields of a record
* `Decode.tagged?` — a record whose kind stands in its field `type`
* `Decode.choice?` — the name of an alternative
-/

namespace WorkFarm

namespace Decode

/-- What the source of the data allows. -/
structure Mode where
  /-- A record may be the list of its fields, and a name may be a mapping from the name to null. -/
  positional : Bool
  /-- How many sequences and mappings may stand inside each other here. -/
  depth : Nat := 128
deriving DecidableEq, Repr

def Mode.json : Mode := { positional := true }

def Mode.yaml : Mode := { positional := false }

/-- The mode inside of a sequence or mapping. -/
def Mode.inside (m : Mode) : Mode := { m with depth := m.depth - 1 }

end Decode

/-- A reader of values of one type. -/
abbrev Decoder (α : Type) := Decode.Mode → Datum → Option α

namespace Decode

/-! ### Single values -/

/-- A text. -/
def text : Decoder String := fun _ d => d.text?

/-- The open text that may stand for a value of another type: one without quotes, or a block that has
the tag of that type. -/
def open? (name : String) : Datum → Option String
  | .openText tag style s =>
    if style = .plain ∨ (style = .literal ∧ tag = some (Datum.coreTag ++ name)) then some s else none
  | _ => none

/-- A natural number below 2^64. -/
def word : Decoder Nat := fun _ d =>
  match d with
  | .int n => if 0 ≤ n ∧ n < wordCount 64 then some n.toNat else none
  | d => ((open? "int" d).bind Yaml.wholeOf?).filter (· < wordCount 64)

def truth : Decoder Bool := fun _ d =>
  match d with
  | .bool b => some b
  | d => (open? "bool" d).bind Yaml.boolOf?

/-- A floating-point number; an integer is rounded to one. -/
def float : Decoder Float := fun _ d =>
  match d with
  | .float x => some x
  | .int n => some (Float.ofInt n)
  | d => (open? "float" d).bind Yaml.floatOf?

/-- Any JSON value. -/
def json : Decoder Json := fun m d => d.toJson? m.depth

/-- A value that may be missing; null counts as missing. -/
def optional {α : Type} (decode : Decoder α) : Decoder (Option α) := fun m d =>
  match d with
  | .null => some none
  | d => (decode m d).map some

def list {α : Type} (decode : Decoder α) : Decoder (List α) := fun m d =>
  match d with
  | .seq _ items => items.mapM (decode m.inside)
  | _ => none

/-- Whether nothing is written, which is an empty record in YAML. -/
def isNothing (m : Mode) : Datum → Bool
  | .openText _ style s => !m.positional && style = .plain && s.isEmpty
  | _ => false

/-- JSON values under keys, of which the last one under each key stays. -/
def members : Decoder (List (String × Json)) := fun m d =>
  match d with
  | .map _ entries => entries.mapM fun (k, v) => do
    return (← k.text?, ← json m.inside v)
  | d => if isNothing m d then some [] else none

/-! ### Records -/

/-- The field that a key names, by its name or by its number; `none` inside if it names none. -/
def fieldOf? (names : List String) (key : Datum) : Option (Option String) :=
  match key with
  | .int n => if 0 ≤ n then some names[n.toNat]? else none
  | key => key.text?.map fun s => names.find? (· == s)

/-- The data of the fields in a mapping. Keys that name no field are passed over, and no field may
occur twice. -/
def fieldsOf? (names : List String) :
    List (Datum × Datum) → Table String Datum → Option (Table String Datum)
  | [], found => some found
  | (k, v) :: rest, found => do
    match ← fieldOf? names k with
    | none => fieldsOf? names rest found
    | some name =>
      if found.contains name then none else fieldsOf? names rest (found.insert name v)

/-- The data of the fields of a record. -/
def fields? (names : List String) (m : Mode) : Datum → Option (Table String Datum)
  | .map _ entries => fieldsOf? names entries ∅
  | .seq _ items =>
    if m.positional ∧ items.length ≤ names.length then some (.ofList (names.zip items)) else none
  | d => if isNothing m d then some ∅ else none

/-- The value of a field that has to be there. -/
def required {α : Type} (decode : Decoder α) (m : Mode) (t : Table String Datum) (name : String) :
    Option α :=
  (t.get? name).bind (decode m.inside)

/-- The value of a field, or `default` if it is not there. -/
def field {α : Type} (decode : Decoder α) (default : α) (m : Mode) (t : Table String Datum)
    (name : String) : Option α :=
  match t.get? name with
  | some d => decode m.inside d
  | none => some default

/-! ### Alternatives -/

/-- The name of an alternative that has no fields. In JSON it may also be a mapping from the name to
null, and in YAML a local tag of nothing. -/
def choice? (m : Mode) : Datum → Option String
  | .text s => some s
  | .openText tag style s =>
    match Datum.localTag? tag with
    | none => some s
    | some name => if style = .plain ∧ (s.isEmpty ∨ Yaml.isNull s) then some name else none
  | .map _ [(k, .null)] => if m.positional then k.text? else none
  | _ => none

/-- One of the alternatives `all`, by its name. -/
def oneOf {α : Type} (all : List α) (name : α → String) : Decoder α := fun m d =>
  (choice? m d).bind fun s => all.find? (name · == s)

/-- The kind of a record, and the rest of its members; the kind stands under the key `type`. -/
def typeOf? (depth : Nat) : List (Datum × Datum) → Option String → List (Datum × Datum) →
    Option (String × Datum)
  | [], kind, found => kind.map fun k => (k, .map none found.reverse)
  | (k, v) :: rest, kind, found => do
    let k ← k.settled? depth
    match k with
    | .text "type" => if kind.isSome then none else typeOf? depth rest (some (← v.text?)) found
    | k => typeOf? depth rest kind ((k, ← v.settled? depth) :: found)

/-- A record that names its kind: under the key `type`, or as the first item of a list. The rest of it
is settled, and may be a list of fields whatever the source. -/
def tagged? (m : Mode) : Datum → Option (String × Datum)
  | .map tag entries =>
    if (Datum.localTag? tag).isSome then none else typeOf? (m.depth - 1) entries none []
  | .seq tag (kind :: rest) =>
    if (Datum.localTag? tag).isSome then none
    else do
      let kind ← kind.text?
      return (kind, .seq none (← Datum.settledItems? (m.depth - 1) rest))
  | _ => none

/-- Whether the rest of a record may be that of a kind without fields: a list has to be empty. -/
def isBare : Datum → Bool
  | .seq _ items => items.isEmpty
  | _ => true

/-- The fields of a record behind its kind, of which a list has to hold exactly all. -/
def kindFields? (names : List String) (d : Datum) : Option (Table String Datum) :=
  fields? names .json d

end Decode

end WorkFarm
