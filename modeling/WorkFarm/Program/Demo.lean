import WorkFarm.Farm.Basic
import WorkFarm.Program.Arguments
import WorkFarm.Program.Report
/-!
# A demonstration

A farm is run on a few tasks, each of which squares a number. While it runs, one worker may be ended by
force; the results are complete all the same.

## Main definitions

* `Runner.squares` — the tasks
* `Demo.run` — the whole demonstration

## Design

The demonstration runs on the clock of the farm, so it takes no time of its own. The pauses of the tasks are
spread over a range by their ids.
-/

namespace WorkFarm

/-- Squares a number, after a pause. -/
def square (payload : Json) : Outcome :=
  match payload.get? "n" with
  | some (.int n) =>
    if -wordCount 63 ≤ n ∧ n < wordCount 63 then
      .ok (.object [("n", .int n), ("square", .int (Int.bmod (n * n) (wordCount 64)))])
    else .error ⟨"payload has no integer 'n'", none⟩
  | _ => .error ⟨"payload has no integer 'n'", none⟩

/-- Tasks that square numbers. -/
def Runner.squares : Runner where
  perform t m := (square t.payload, m)
  pause t _ := 1 + 7 * t.id.toNat % 25

namespace Demo

def payloads (n : Nat) : List Json := (List.range n).map fun i => .object [("n", .nat i)]

/-- Ends a worker by force when its time has come, and waits for all results. -/
def collect (o : RunOptions) (t : Farm.Line) : Option Answer :=
  let (caller, f) := t.state.ask
  let t := Farm.call [⟨caller, .wait .all⟩] { t with state := f }
  let t := t.post (o.kill.toList.map fun name => (o.killAfter, .kill name))
  let t := t.runUntil Farm.react fun f => f.answers.any (·.1 == caller)
  (t.state.answers.find? (·.1 == caller)).map (·.2)

/-- Runs a farm on squares; the answer lists the results in order of delivery. -/
def run (s : Settings) (o : RunOptions) : Except Report (List TaskResult) :=
  match Farm.start .squares s with
  | .error e => .error ⟨"Failed to start local farm", e.causes⟩
  | .ok t =>
    let (ids, f) := t.state.store (payloads o.tasks)
    match Farm.callOne (.submit ids) { t with state := f } with
    | (some (.refused e), _) => .error ⟨"Failed to submit tasks", e.causes⟩
    | (_, t) =>
      if ids.isEmpty then .ok []
      else match collect o t with
        | some (.results rs) => .ok rs
        | some (.refused e) => .error ⟨"Waiting for results failed", e.causes⟩
        | _ => .error ⟨"Waiting for results failed", []⟩

end Demo

end WorkFarm
