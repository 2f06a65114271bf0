import WorkFarm.Dispatcher.Basic
/-!
# Collaborators around a vault

The simplest collaborators keep payloads in a vault and take every other errand without doing
anything. Any collaborators can be made to fail at chosen errands.

## Main definitions

* `Vault.fetching`, `Vault.staging`, `Vault.evicting` — the errands of a vault
* `Collaborators.ofVault` — payloads in a vault, and nothing else
* `Collaborators.failing` — some errands fail, and then do nothing
* `Vault.storeAll` — payloads stored under new ids, for a client that will submit them
-/

namespace WorkFarm

universe u

namespace Vault

/-- Reads a payload; the vault stays as it is. -/
def fetching (id : TaskId) (v : Vault) : Except StoreError Task × Vault := (v.fetch id, v)

/-- Keeps the new vault of an operation, or the old one if it failed. -/
def settle (v : Vault) : Except StoreError Vault → Except StoreError Unit × Vault
  | .ok v' => (.ok (), v')
  | .error e => (.error e, v)

def staging (id : TaskId) (v : Vault) : Except StoreError Unit × Vault := v.settle (v.stage id)

def evicting (id : TaskId) (v : Vault) : Except StoreError Unit × Vault := v.settle (v.evict id)

/-- Stores payloads, one after another, under new ids. -/
def storeAll (v : Vault) : List Json → List TaskId × Vault
  | [] => ([], v)
  | p :: rest =>
    let (id, v) := v.store p
    let (ids, v) := v.storeAll rest
    (id :: ids, v)

end Vault

/-- Payloads in a vault; every other errand goes well and does nothing. -/
def Collaborators.ofVault : Collaborators Vault where
  fetch := Vault.fetching
  stage := Vault.staging
  evict := Vault.evicting
  watch _ v := (.ok (), v)
  unwatch _ v := (.ok (), v)
  stopWatching v := (.ok (), v)
  addResources _ v := (.ok (), v)
  release _ v := (.ok (), v)
  stopProvisioning _ v := (.ok (), v)
  wake _ v := v

/-- The errands for which `broken` holds fail for the given reason, and leave the collaborators as
they were. Waking cannot fail. -/
def Collaborators.failing {σ : Type u} (c : Collaborators σ) (broken : Errand → Bool)
    (reason : String) : Collaborators σ where
  fetch id w := if broken (.fetch id) then (.error (.backend reason), w) else c.fetch id w
  stage id w := if broken (.stage id) then (.error (.backend reason), w) else c.stage id w
  evict id w := if broken (.evict id) then (.error (.backend reason), w) else c.evict id w
  watch h w := if broken (.watch h) then (.error (.failed reason), w) else c.watch h w
  unwatch h w := if broken (.unwatch h) then (.error (.failed reason), w) else c.unwatch h w
  stopWatching w :=
    if broken .stopWatching then (.error (.failed reason), w) else c.stopWatching w
  addResources r w :=
    if broken (.addResources r) then (.error (.failed reason), w) else c.addResources r w
  release hs w := if broken (.release hs) then (.error (.failed reason), w) else c.release hs w
  stopProvisioning free w :=
    if broken (.stopProvisioning free) then (.error (.failed reason), w)
    else c.stopProvisioning free w
  wake := c.wake

end WorkFarm
