/-!
# Resources

A resource describes where workers are to come from. Whoever provides workers decides which kinds it
honours.

## Main definitions

* `Resource` — the description
* `Resource.kind` — the name of its kind
* `ProvisionError` — why no worker was started
-/

namespace WorkFarm

/-- Where workers are to come from. -/
inductive Resource where
  /-- Workers inside this process. -/
  | local (count : Nat)
  /-- Nodes that are running elsewhere, by address. -/
  | nodes (urls : List String)
  /-- A file that describes a deployment, and perhaps one of its virtual nodes. -/
  | descriptor (path : String) (virtualNode : Option String)
deriving DecidableEq, Repr, Inhabited

def Resource.kind : Resource → String
  | .local _ => "local"
  | .nodes _ => "nodes"
  | .descriptor _ _ => "descriptor"

/-- Why no worker was started. -/
inductive ProvisionError where
  /-- The resource is of a kind that is not honoured. -/
  | unsupported (reason : String)
  /-- A worker could not be started. -/
  | failed (reason : String)
  /-- No worker is started any more. -/
  | shutDown
deriving DecidableEq, Repr

def ProvisionError.message : ProvisionError → String
  | .unsupported reason => "Unsupported resource descriptor: " ++ reason
  | .failed reason => "Failed to start worker: " ++ reason
  | .shutDown => "Provisioner has been shut down"

end WorkFarm
