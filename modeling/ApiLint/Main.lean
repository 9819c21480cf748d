import ApiLint.Child.Machine
import ApiLint.CommandLine.Needed

/-! The program. It reads the files that the command looks at, performs the command, and prints what
comes of it. A linter that is a script is run by the shell of this library. -/

namespace ApiLint

/-- The bytes of a file, unless it cannot be read. -/
def readBytes? (path : Path) : IO (Option (List UInt8)) := do
  try
    let bytes ← IO.FS.readBinFile path.toString
    return some bytes.toList
  catch _ => return none

def addFile (executable : Bool) (tree : Tree) (path : Path) : IO Tree := do
  match ← readBytes? path with
  | some bytes => return tree.put path.parts (.file bytes executable)
  | none => return tree

def readEnvironment : IO (List (String × String)) := do
  let names := ["PATH", "HOME", "LANG"] ++ Settings.environmentNames.map Prod.fst
  let found ← names.filterMapM fun name => do
    return (← IO.getEnv name).map fun value => (name, value)
  return found

def workspaceOf (tree : Tree) (directory : Path) (environment : List (String × String)) :
    CommandLine.Workspace where
  tree := tree
  directory := directory
  environment := environment
  system := "Linux"
  runner := Child.runner ⟨tree, directory, environment⟩ Child.Times.steady Child.usualInterval
  temporary := ⟨Path.ofString "/tmp", none, []⟩
  terminal := ⟨80, id⟩

/-- Performs the command that the arguments ask for, and gives its exit code. -/
def runArguments (arguments : List String) : IO UInt32 := do
  let words := arguments.map String.toList
  let directory := Path.ofString (toString (← IO.currentDir))
  let environment ← readEnvironment
  let places := (CommandLine.neededDirectories directory words).foldl
    (fun (tree : Tree) path => tree.put path.parts .directory) Tree.system
  let files ← (CommandLine.neededFiles directory words).foldlM (addFile false) places
  let linter := CommandLine.linterFile? (workspaceOf files directory environment) words
  let tree ← linter.toList.foldlM (addFile true) files
  let outcome := CommandLine.perform (workspaceOf tree directory environment) words
  IO.print (String.ofList outcome.printed)
  for record in outcome.records do
    IO.eprintln (record.level.name ++ " " ++ record.message)
  match outcome.ending with
  | .usage _ => IO.eprintln "usage: lint PATH [OPTIONS] | included PATH [OPTIONS]"
  | _ => pure ()
  return UInt32.ofNat outcome.ending.code

end ApiLint

def main (arguments : List String) : IO UInt32 :=
  ApiLint.runArguments arguments
