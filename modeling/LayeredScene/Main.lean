import LayeredScene.CommandLine.Program

/-! # The command line

The program on a real machine.  Failures are told on standard error. -/

namespace LayeredScene

def attempt {α : Type} (action : IO α) : IO (Option α) := do
  try
    return some (← action)
  catch _ =>
    return none

def works (action : IO Unit) : IO Bool := do
  return (← attempt action).isSome

def preferencesFolder : IO (Option String) := do
  match ← IO.getEnv "XDG_CONFIG_HOME" with
  | some folder =>
    if folder.startsWith "/" then return some (folder ++ "/genec")
  | none => pure ()
  return (← IO.getEnv "HOME").map (· ++ "/.config/genec")

def machine : Host IO where
  readFile path := attempt do
    return (← IO.FS.readBinFile path.text).toList
  writeFile path bytes := works <| IO.FS.writeBinFile path.text ⟨bytes.toArray⟩
  makeFolders path :=
    if path.text.isEmpty then return true else works <| IO.FS.createDirAll path.text
  readInput := attempt do
    return (← (← IO.getStdin).readBinToEnd).toList
  print bytes := works do
    let stream ← IO.getStdout
    stream.write ⟨bytes.toArray⟩
    stream.flush
  readPreferences := do
    match ← preferencesFolder with
    | none => return none
    | some folder => attempt do
      return (← IO.FS.readBinFile (folder ++ "/settings.json")).toList
  writePreferences bytes := do
    match ← preferencesFolder with
    | none => return true
    | some folder => works do
      IO.FS.createDirAll folder
      IO.FS.writeBinFile (folder ++ "/settings.json") ⟨bytes.toArray⟩

end LayeredScene

open LayeredScene in
def main (words : List String) : IO UInt32 := do
  let outcome ← Program.run machine words
  match outcome with
  | .done => pure ()
  | .failed failure => IO.eprintln failure.message
  | .misused failure =>
    IO.eprintln failure.message
    IO.eprintln usage
  | .overflowed => IO.eprintln "the range of a blob's offsets overflows"
  | .unprinted => IO.eprintln "failed printing to stdout"
  return outcome.exitCode
