import WorkFarm.Worker.Basic
/-!
# Scripted tasks

A scripted task says in its payload what running it does: how long it takes, what it reads from the
memory of the worker and writes to it, and what comes of it. Farms are tried out with such tasks.

## Main definitions

* `Runner.plain` — tasks that wait, and then fail or give an output
* `Runner.scripted` — tasks that use the memory, too

## Design

A payload is an object with these members, all of them optional; they take effect in this order.

* `sleep` — how many milliseconds the task takes
* `set` — an object whose members are written to the memory
* `incr` — a key; the number under it is counted up, and is the output
* `get` — a key; what stands under it is the output
* `remove` — a key; what stood under it is the output
* `fail`, with `details` — the task fails with this message
* `out` — the output, if nothing above gave one; without it, the payload itself
-/

namespace WorkFarm

namespace Script

/-- The text under a key of a payload. -/
def text? (payload : Json) (key : String) : Option String := (payload.get? key).bind Json.asText?

/-- How long a task takes, in milliseconds. -/
def sleep (payload : Json) : Nat := ((payload.get? "sleep").bind Json.asWord?).getD 0

/-- What comes of a task, if `given` is the output that its memory gave. -/
def outcome (payload : Json) (given : Option Json) : Outcome :=
  match text? payload "fail" with
  | some message => .error ⟨message, payload.get? "details"⟩
  | none => .ok (given.getD ((payload.get? "out").getD payload))

/-- Writes the members of an object to a memory. -/
def writeAll (m : Memory) : Option Json → Memory
  | some (.obj members) => members.foldl (fun m e => m.insert e.1 e.2) m
  | _ => m

/-- Counts up the number under a key; anything else counts as zero. -/
def increase (m : Memory) (key : String) : Json × Memory :=
  let n := ((m.get? key).bind Json.asWord?).getD 0
  let v := Json.nat ((n + 1) % wordCount 64)
  (v, m.insert key v)

/-- Uses the memory as a payload says; the output is the last that the memory gave. -/
def useMemory (payload : Json) (m : Memory) : Option Json × Memory :=
  let m := writeAll m (payload.get? "set")
  let (given, m) := match text? payload "incr" with
    | some key => let (v, m) := increase m key; (some v, m)
    | none => (none, m)
  let given := match text? payload "get" with
    | some key => some ((m.get? key).getD .null)
    | none => given
  match text? payload "remove" with
  | some key => (some ((m.get? key).getD .null), m.erase key)
  | none => (given, m)

end Script

/-- Runs scripted tasks that do not use the memory. -/
def Runner.plain : Runner where
  perform t m := (Script.outcome t.payload none, m)
  pause t _ := Script.sleep t.payload

/-- Runs scripted tasks. -/
def Runner.scripted : Runner where
  perform t m :=
    let (given, m) := Script.useMemory t.payload m
    (Script.outcome t.payload given, m)
  pause t _ := Script.sleep t.payload

end WorkFarm
