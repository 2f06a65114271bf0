import WorkFarm.Config.Error
import WorkFarm.Dispatcher.Request
/-!
# Errors of a farm

## Main definitions

* `FarmError` — why a farm could not be started or stopped
-/

namespace WorkFarm

/-- Why a farm could not be started or stopped. -/
inductive FarmError where
  /-- Its configuration is not valid. -/
  | config (e : ConfigError)
  /-- Its workers could not be started. -/
  | provision (e : ProvisionError)
  /-- The dispatcher refused. -/
  | refused (e : Refusal)
  /-- The dispatcher failed. -/
  | crashed (reason : String)
deriving DecidableEq, Repr

def FarmError.message : FarmError → String
  | .config e => "Configuration error: " ++ e.message
  | .provision e => "Provisioning error: " ++ e.message
  | .refused e => "Master error: " ++ e.message
  | .crashed reason => "Coordinator task failed: " ++ reason

end WorkFarm
