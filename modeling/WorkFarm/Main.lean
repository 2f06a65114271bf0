import WorkFarm.Program.Basic
/-!
# The command line

Reads the environment and at most one file, runs the program, and prints what it has to say.
-/

namespace WorkFarm

/-- The variables that are set, of those that change settings. -/
def readEnvironment : IO Environment := do
  let names := Settings.variableNames.map fun name => Settings.usualPrefix ++ "_" ++ name
  let found ← names.filterMapM fun name => do
    return (← IO.getEnv name).map fun value => (name, value)
  return .ofList found

def readFileText (path : String) : IO (Except FileError String) := do
  try
    let bytes ← IO.FS.readBinFile path
    match String.fromUTF8? bytes with
    | some text => return .ok text
    | none => return .error .notText
  catch e =>
    match e with
    | .noFileOrDirectory .. => return .error .missing
    | _ => return .error .directory

/-- Reads the file that arguments ask for, if they ask for one. -/
def readSurroundings (args : List String) : IO Surroundings := do
  let environment ← readEnvironment
  match (Arguments.ofTexts args).toOption.bind Arguments.file? with
  | none => return ⟨fun _ => .error .missing, environment⟩
  | some path =>
    let content ← readFileText path
    return ⟨fun _ => content, environment⟩

end WorkFarm

def main (args : List String) : IO UInt32 := do
  let ending := WorkFarm.Program.run args (← WorkFarm.readSurroundings args)
  (← IO.getStdout).putStr ending.output
  (← IO.getStderr).putStr ending.complaint
  return ending.exitCode.toUInt32
