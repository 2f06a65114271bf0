import WorkFarm.Config.Error
import WorkFarm.Farm.Error
/-!
# Reports of failure

A report says what the program was doing when it failed, and lists what caused the failure, from the
outermost cause to the innermost.

## Main definitions

* `Report`, `Report.text` — a report, and its text
* `ConfigError.causes`, `FarmError.causes` — an error and what is behind it
-/

namespace WorkFarm

/-- What the program was doing when it failed, and the causes. -/
structure Report where
  /-- What the program was doing, or what went wrong. -/
  headline : String
  /-- The causes, the outermost one first. -/
  causes : List String := []
deriving DecidableEq, Repr

namespace Report

def linesOf (s : String) : List String := s.splitOn "\n"

/-- A text behind a label; the lines after the first are indented as far as the label reaches. -/
def labelled (label : String) (s : String) : String :=
  let indent := String.ofList (List.replicate label.length ' ')
  label ++ ("\n" ++ indent).intercalate (linesOf s)

/-- The label of a numbered cause. -/
def numberLabel (i : Nat) : String :=
  let digits := toString i
  String.ofList (List.replicate (5 - digits.length) ' ') ++ digits ++ ": "

/-- The causes, numbered if there are several. -/
def causeLines : List String → List String
  | [cause] => [labelled "    " cause]
  | causes => causes.zipIdx.map fun (cause, i) => labelled (numberLabel i) cause

def text (r : Report) : String :=
  let causes := if r.causes.isEmpty then []
    else ["", "Caused by:"] ++ causeLines r.causes
  String.join ((("Error: " ++ r.headline) :: causes).map (· ++ "\n"))

end Report

/-- An error and what is behind it. -/
def ConfigError.causes (e : ConfigError) : List String :=
  match e with
  | .file inner => [e.message, inner.message]
  | .malformed reason => [e.message, reason]
  | _ => [e.message]

/-- A refusal and what is behind it. -/
def Refusal.causes (e : Refusal) : List String :=
  match e with
  | .store inner => [e.message, inner.message]
  | .provision inner => [e.message, inner.message]
  | _ => [e.message]

/-- An error and what is behind it. -/
def FarmError.causes (e : FarmError) : List String :=
  match e with
  | .config inner => e.message :: inner.causes
  | .provision inner => [e.message, inner.message]
  | .refused inner => e.message :: inner.causes
  | .crashed reason => [e.message, reason]

end WorkFarm
