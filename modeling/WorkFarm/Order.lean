/-!
# Order of delivery

Results are delivered as they come in, or in the order in which their tasks were submitted.

## Main definitions

* `DeliveryOrder` — the two orders
* `DeliveryOrder.ofText` — reading the name of an order
* `foldCase` — folding of case for the keywords of this library
-/

namespace WorkFarm

/-- Folds upper case to lower case for comparison with a keyword. No keyword of this library has the
letter k, which is the only letter with a lower case in ASCII and an upper case outside of it; so
folding ASCII letters alone decides the same comparisons as folding all letters. -/
def foldCase (s : String) : String := s.map Char.toLower

/-- The order in which results are handed to the client. -/
inductive DeliveryOrder where
  /-- A result is available as soon as it is accepted. -/
  | completion
  /-- A result is available once all tasks submitted before have completed. -/
  | submission
deriving DecidableEq, Repr, Inhabited

/-- A text that names no order of delivery. -/
structure UnknownOrder where
  text : String
deriving DecidableEq, Repr

def UnknownOrder.message (e : UnknownOrder) : String :=
  "Invalid ordering mode: '" ++ e.text ++ "'. Supported modes are: completion, submission"

namespace DeliveryOrder

/-- The short name of an order. -/
def name : DeliveryOrder → String
  | .completion => "completion"
  | .submission => "submission"

/-- The name of an order in a configuration. -/
def key : DeliveryOrder → String
  | .completion => "completion_order"
  | .submission => "submission_order"

def all : List DeliveryOrder := [.completion, .submission]

/-- The order with this name, short or long, in any case. -/
def ofText (s : String) : Except UnknownOrder DeliveryOrder :=
  let folded := foldCase s
  match all.find? fun o => folded == o.name || folded == o.key with
  | some o => .ok o
  | none => .error ⟨s⟩

end DeliveryOrder

end WorkFarm
