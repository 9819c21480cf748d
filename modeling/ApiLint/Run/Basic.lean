import ApiLint.Files.TempDirectory
import ApiLint.Issue.Batch
import ApiLint.Log
import ApiLint.Run.Command

/-! A run of the linter on the content of one document: the content is put into a file of its own, the
linter is started on it at most once, what it answers is checked and read, and the file is discarded
whatever happened. -/

namespace ApiLint

/-- What a process leaves when it has ended. -/
structure ProcessResult where
  exitCode : Int
  stdout : String
  stderr : String
  deriving DecidableEq, Repr

/-- Why a run gives no issues: one of the failures of a run, a command that cannot be handed to the
system, a whole number that the reader gives up on, or a fault of the one who starts processes. -/
inductive RunFault where
  | failure (f : Failure)
  | command (f : CommandFault)
  | longInteger (digits : Nat)
  | other (message : String)
  deriving DecidableEq

/-- What comes of starting a command: its result, the directory after it, and records. -/
structure Reply where
  result : Except RunFault ProcessResult
  directory : TempDirectory
  records : List LogRecord

/-- One who starts commands, each with the seconds it may take. -/
abbrev Runner := Command → Float → TempDirectory → Reply

/-- A command that was started, and the bytes of its input then. -/
structure Call where
  command : Command
  timeout : Float
  content : Option (List UInt8)

structure RunReport where
  outcome : Except RunFault (List Issue)
  directory : TempDirectory
  calls : List Call
  records : List LogRecord

/-- The exit codes of a linter that did its work. -/
def acceptedExitCodes : List Int := [0, 1, 2]

/-- The issues that a result reports. The exit code goes before the error output, and that before the
output. -/
def ProcessResult.issues (r : ProcessResult) : Except RunFault (List Issue) :=
  if r.exitCode ∉ acceptedExitCodes then
    .error (.failure (.exitCode r.exitCode r.stderr acceptedExitCodes))
  else if !Text.blank r.stderr.toList then .error (.failure (.stderr r.stderr))
  else
    match Issue.listOfOutput r.stdout.toList with
    | .ok issues => .ok issues
    | .error (.refused reason) =>
      .error (.failure (.unreadable (String.ofList reason.shown) r.stdout))
    | .error (.longInteger n) => .error (.longInteger n)

def countRecord (issues : List Issue) : LogRecord :=
  ⟨.debug, .run, "Spectral reported " ++ toString issues.length ++ " issue(s)"⟩

structure RunPlan where
  settings : Settings
  system : String
  timeout : Float
  /-- The ruleset for this run; an empty one is that of the settings. -/
  ruleset : Text

def RunPlan.activeRuleset (plan : RunPlan) : Text :=
  if plan.ruleset.isEmpty then plan.settings.ruleset else plan.ruleset

/-- The command that lints the file with a number. -/
def RunPlan.command (plan : RunPlan) (directory : TempDirectory) (serial : Nat) : Command :=
  Command.lint plan.settings plan.system plan.activeRuleset (directory.filePath serial)

/-- What a reply to the command for the file with a number makes of a run. -/
def conclude (plan : RunPlan) (directory : TempDirectory) (serial : Nat) (reply : Reply) : RunReport :=
  let outcome := reply.result >>= ProcessResult.issues
  let counted := match outcome with
    | .ok issues => [countRecord issues]
    | .error _ => []
  ⟨outcome, reply.directory.discard serial,
    [⟨plan.command directory serial, plan.timeout, directory.read? serial⟩], reply.records ++ counted⟩

/-- Lints the file with a number. -/
def runOn (runner : Runner) (plan : RunPlan) (directory : TempDirectory) (serial : Nat) : RunReport :=
  conclude plan directory serial (runner (plan.command directory serial) plan.timeout directory)

/-- The report of a run that starts no command. -/
def notStarted (directory : TempDirectory) (fault : TempFileFault) : RunReport :=
  ⟨.error (.failure (.tempFile fault)), directory, [], []⟩

/-- Lints the content of a document. -/
def run (runner : Runner) (plan : RunPlan) (directory : TempDirectory) (content : Text) : RunReport :=
  match directory.materialize .utf8 content with
  | (.error fault, directory) => notStarted directory fault
  | (.ok serial, directory) => runOn runner plan directory serial

/-- A run whose commands may never be answered. -/
def run? (answer : Command → Float → TempDirectory → Option Reply) (plan : RunPlan)
    (directory : TempDirectory) (content : Text) : Option RunReport :=
  match directory.materialize .utf8 content with
  | (.error fault, directory) => some (notStarted directory fault)
  | (.ok serial, directory) =>
    (answer (plan.command directory serial) plan.timeout directory).map (conclude plan directory serial)

/-- A run whose failures are told as such; other faults still go to the caller. -/
inductive Attempt where
  | done (issues : List Issue)
  | failed (f : Failure)
  deriving DecidableEq

def failureRecord (f : Failure) : LogRecord :=
  ⟨.warning, .run, "Spectral run failed (" ++ f.kind.name ++ "): " ++ f.message⟩

/-- The outcome of a run as an attempt, and the record of a failure. -/
def attempt : Except RunFault (List Issue) → Except RunFault Attempt × List LogRecord
  | .ok issues => (.ok (.done issues), [])
  | .error (.failure f) => (.ok (.failed f), [failureRecord f])
  | .error fault => (.error fault, [])

end ApiLint
