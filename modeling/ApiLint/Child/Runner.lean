import ApiLint.Child.Launch
import ApiLint.Child.Wait
import ApiLint.Run.Basic

/-! The runner that starts a child for a command, waits for it, and reads what it wrote. -/

namespace ApiLint.Child

/-- How long a slice of a wait may be without any other wish. -/
def usualInterval : Float := 0.1

/-- Only a positive time can lie between two looks at the signal to cancel. -/
def isInterval (x : Float) : Bool := !(x ≤ 0)

def intervalMessage : String := "poll_interval must be positive"

/-- The text of what a child wrote. -/
def outputText (bytes : List UInt8) : String :=
  String.ofList (Text.unifyNewlines (Text.decodeLossy bytes))

def Exited.result (child : Exited) : ProcessResult :=
  ⟨child.exitCode, outputText child.output, outputText child.errors⟩

def LaunchFault.runFault (argv : List Text) : LaunchFault → RunFault
  | .system fault => .failure (.launch argv fault)
  | .command fault => .command fault

def startRecord (command : Command) (timeout : Float) : LogRecord :=
  let directory := (command.workingDirectory.map Path.toString).getD "None"
  ⟨.debug, .process, "Executing command=" ++ Text.quotedList command.argv ++ " cwd=" ++ directory ++
    " timeout=" ++ tenths timeout⟩

def killRecord : LogRecord :=
  ⟨.debug, .process, "Killing process pid=" ++ childNumber⟩

section

variable {τ : Type}

def Execution.result (timeout : Float) (e : Execution τ Empty Exited) : Except RunFault ProcessResult :=
  match e.waited.ending with
  | .finished child => .ok child.result
  | .cancelled => .error (.failure .cancelled)
  | .timedOut => .error (.failure (.timeout timeout))

def Execution.records (e : Execution τ Empty Exited) : List LogRecord :=
  let killing := if e.child.killed then [killRecord] else []
  match e.waited.ending with
  | .finished child =>
    killing ++ [⟨.debug, .process, "Command finished exit_code=" ++ toString child.exitCode⟩]
  | _ => killing

variable [Add τ] [Sub τ] [LT τ] [LE τ] [OfNat τ 0] [DecidableLT τ] [DecidableLE τ]

def Host.runCommand (host : Host (Surroundings τ Empty Exited)) (interval : τ) (most : Nat)
    (command : Command) (timeout : τ) : Except LaunchFault (Option (Execution τ Empty Exited)) := do
  let child ← host.launch command
  return settle child interval timeout most

/-- The runner of a host that sees the files of the directory; `time` is what seconds are there. There is
no reply to a command that does not come back in its rounds. -/
def hostRunner (host : TempDirectory → Host (Surroundings τ Empty Exited)) (time : Float → τ)
    (interval : τ) (most : Nat) : Command → Float → TempDirectory → Option Reply :=
  fun command timeout directory =>
    match (host directory).runCommand interval most command (time timeout) with
    | .error fault =>
      some ⟨.error (fault.runFault command.argv), directory, [startRecord command timeout]⟩
    | .ok execution =>
      execution.map fun e => ⟨e.result timeout, directory, startRecord command timeout :: e.records⟩

end

end ApiLint.Child
