import WorkFarm.Log.Level
import WorkFarm.Text.Blank
/-!
# Filters of the log

A filter is a list of directives with commas between them. A directive names a level, a part of the
program, or a part with a level of its own; it may be narrowed to spans by brackets.

## Main definitions

* `LogBound` — the most that is logged, perhaps nothing
* `LogFilter.Directive` — one directive, with its reader `LogFilter.directive?`
* `LogFilter.ofText?` — a filter
* `LogFilter.maxLevel` — the most that a filter lets through
* `LogFilter.build` — the first filter that is well formed, or the usual one
-/

namespace WorkFarm

/-- The most that is logged; `none` is nothing. -/
abbrev LogBound := Option LogLevel

namespace LogFilter

/-- One directive. -/
structure Directive where
  level : LogBound
  /-- Whether the values of fields decide. -/
  byValue : Bool := false
deriving DecidableEq, Repr

/-- The bound that a word names: a level in any case, `off`, or a number. A plus sign may stand in front
of a number. -/
def bound? (cs : List Char) : Option LogBound :=
  let digits := match cs with
    | '+' :: rest => rest
    | cs => cs
  if !digits.isEmpty && digits.all Char.isDigit then
    match digits.dropWhile (· == '0') with
    | [] => some none
    | ['1'] => some (some .error)
    | ['2'] => some (some .warn)
    | ['3'] => some (some .info)
    | ['4'] => some (some .debug)
    | ['5'] => some (some .trace)
    | _ => none
  else
    let word := String.ofList (cs.map Char.toLower)
    if word == "off" then some none else (LogLevel.all.find? (word == ·.name)).map some

/-- Reads what follows an equals sign. -/
def levelBehind? (byValue : Bool) : List Char → Option Directive
  | [] => some ⟨some .trace, byValue⟩
  | cs => (bound? cs).map (⟨·, byValue⟩)

/-- Reads what follows the bracket that closes a span. -/
def behindSpan? (byValue : Bool) : List Char → Option Directive
  | [] => some ⟨some .trace, byValue⟩
  | '=' :: rest => levelBehind? byValue rest
  | _ => none

/-- Reads a span behind its opening bracket: a name, and perhaps a field in braces, which may have a
value. -/
def span? (cs : List Char) : Option Directive :=
  let rest := cs.dropWhile fun c => c != ']' && c != '\x7b'
  match rest with
  | ']' :: rest => behindSpan? false rest
  | '\x7b' :: rest =>
    let field := rest.takeWhile (· != '\x7d')
    match rest.drop field.length with
    | '\x7d' :: ']' :: behind =>
      if field.isEmpty then none else behindSpan? (field.contains '=') behind
    | _ => none
  | _ => none

/-- Whether a character may begin the name of a part of the program. -/
def startsTarget (c : Char) : Bool := c.isAlphanum || 128 ≤ c.toNat || "-:_".toList.contains c

/-- Reads a directive. A word that names no level is a part of the program, of which everything is
logged. -/
def directive? (s : String) : Option Directive :=
  let cs := (s.toList.dropWhile Text.isSpace).reverse.dropWhile Text.isSpace |>.reverse
  match cs with
  | [] => none
  | '[' :: rest => span? rest
  | c :: _ =>
    if !startsTarget c then none
    else match cs.dropWhile fun c => c != '=' && c != '[' with
      | '=' :: rest => levelBehind? false rest
      | '[' :: rest => span? rest
      | _ => some ⟨(bound? cs).getD (some .trace), false⟩

/-- The directives of a filter, if all are well formed. Nothing stands between two commas for nothing. -/
def ofText? (s : String) : Option (List Directive) :=
  ((s.splitOn ",").filter (!·.isEmpty)).mapM directive?

/-- How much a bound lets through, as a number. -/
def rank : LogBound → Nat
  | none => 0
  | some l => LogLevel.all.idxOf l + 1

/-- The greater one of two bounds. -/
def maxBound (a b : LogBound) : LogBound := if rank a ≤ rank b then b else a

/-- The most that a filter lets through. Where values decide, everything may have to be looked at; a
filter without directives lets nothing through. -/
def maxLevel (ds : List Directive) : LogBound :=
  if ds.any (·.byValue) then some .trace else ds.foldl (fun b d => maxBound b d.level) none

/-- The filter that is used if no other is well formed. -/
def usual : List Directive := [⟨some .info, false⟩]

/-- The filter of a text, or else of the environment, or else the usual one. -/
def build (text : String) (fromEnvironment : Option String) : List Directive :=
  ((ofText? text).or (fromEnvironment.bind ofText?)).getD usual

end LogFilter

end WorkFarm
