import ApiLint.CommandLine.Request
import ApiLint.Console.Message
import ApiLint.Files.Tree
import ApiLint.Report.Table
import ApiLint.Run.Basic
import ApiLint.Settings.Sources

/-! What comes of a command: how it ends, what it prints, and which commands it started. -/

namespace ApiLint.CommandLine

/-- How a command that was understood ends. -/
inductive Exit where
  | ok
  | findings
  | lintError
  | excluded
  | notIncluded
  deriving DecidableEq, Repr

def Exit.code : Exit → Nat
  | ok => 0
  | findings => 1
  | lintError => 2
  | excluded => 3
  | notIncluded => 1

/-- A fault that no command has an answer to. -/
inductive Crash where
  | run (fault : RunFault)
  | report (fault : Report.Fault)
  | settings (fault : Settings.LoadFault)
  /-- A name of a file with a null character. -/
  | nullCharacter

inductive Ending where
  | exit (e : Exit)
  | usage (fault : UsageFault)
  | help
  | crash (c : Crash)

def Ending.code : Ending → Nat
  | exit e => e.code
  | usage _ => 2
  | help => 0
  | crash _ => 1

/-- Where a command works: the files around it, the directory that it is started in, the variables of
the environment, the system, the one who starts the linter, the directory for documents, and the terminal
for tables. -/
structure Workspace where
  tree : Tree
  directory : Path
  environment : List (String × String)
  system : String
  runner : Runner
  temporary : TempDirectory
  terminal : Console.Terminal

structure Outcome where
  ending : Ending
  printed : List Char
  calls : List Call
  records : List LogRecord
  temporary : TempDirectory

namespace Workspace

/-- The end of a command that started nothing. -/
def ended (w : Workspace) (ending : Ending) (printed : List Char) (records : List LogRecord) : Outcome :=
  ⟨ending, printed, [], records, w.temporary⟩

def settingsFile (w : Workspace) (path : Path) : Settings.Found :=
  match w.tree.locate w.directory path.chars with
  | .error obstacle => if obstacle.meansNone then .missing else .unseen (obstacle.fault path.toString)
  | .ok (_, .directory) => .missing
  | .ok (_, .closed) => .missing
  | .ok _ =>
    match w.tree.read w.directory path.chars with
    | .ok bytes => .bytes bytes
    | .error fault => .unread fault

def loops (w : Workspace) (place : Path) : Bool :=
  match w.tree.locate w.directory place.chars with
  | .error .loop => true
  | _ => false

/-- What the settings of a project are loaded from. -/
def sources (w : Workspace) (root : Path) (overrides : Fields) : Settings.Sources :=
  ⟨w.settingsFile (root.child Settings.projectFileName), w.settingsFile (root.child Settings.ownFileName),
    ⟨.ok w.directory, w.loops⟩, w.environment, overrides⟩

/-- The settings of a project; its root must not be lost in a loop itself. -/
def settings (w : Workspace) (root : Path) (overrides : Fields) : Except Settings.LoadFault Settings :=
  if w.loops root then .error (.looped root) else Settings.load root (w.sources root overrides)

end Workspace

/-- A message as it is printed; the terminal is never one. -/
def said (tone : Console.Tone) (emoji : Bool) (colour : Option Bool) (message : String) : List Char :=
  Console.ended (Console.messageLines tone ⟨emoji, colour, false⟩ message)

/-- The first line of what the user is told about settings that are refused. -/
def refusedText (faults : Schema.Faults) : String :=
  let n := faults.toList.length
  "invalid speclint configuration: " ++ toString n ++ " validation error" ++ (if n = 1 then "" else "s") ++
    " for SpectralSettings"

/-- The end of a command whose settings cannot be loaded. -/
def Workspace.withoutSettings (w : Workspace) (fault : Settings.LoadFault) : Outcome :=
  match fault with
  | .invalid faults => w.ended (.exit .lintError) (said .fail false none (refusedText faults)) []
  | fault =>
    if fault.isReported then w.ended (.exit .lintError) (said .fail false none fault.message) []
    else w.ended (.crash (.settings fault)) [] []

end ApiLint.CommandLine
