import WorkFarm.Order
/-!
# Configuration errors

## Main definitions

* `ConfigError` — why there is no configuration
* `FileError` — why a file could not be read
* `DomainError` — what is wrong with one part of a configuration
-/

namespace WorkFarm

/-- Why a file could not be read. -/
inductive FileError where
  | missing
  | directory
  /-- Its bytes are not text in UTF-8. -/
  | notText
deriving DecidableEq, Repr

def FileError.message : FileError → String
  | .missing => "No such file or directory (os error 2)"
  | .directory => "Is a directory (os error 21)"
  | .notText => "stream did not contain valid UTF-8"

/-- What is wrong with one part of a configuration. -/
structure DomainError where
  domain : String
  message : String
deriving DecidableEq, Repr

def DomainError.text (e : DomainError) : String :=
  "Domain configuration error in " ++ e.domain ++ ": " ++ e.message

/-- Why there is no configuration. -/
inductive ConfigError where
  /-- The file could not be read. -/
  | file (e : FileError)
  /-- The text is not a configuration. -/
  | malformed (reason : String)
  /-- A variable of the environment has an improper value. -/
  | environment (reason : String)
  /-- A part of the configuration is not valid. -/
  | invalid (e : DomainError)
deriving DecidableEq, Repr

def ConfigError.message : ConfigError → String
  | .file e => "Failed to read config file: " ++ e.message
  | .malformed reason => "Failed to parse config: " ++ reason
  | .environment reason => "Environment variable error: " ++ reason
  | .invalid e => e.text

end WorkFarm
