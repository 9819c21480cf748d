import ApiLint.Decimal.Basic
import ApiLint.Text.Encoding

/-! Why a run of the linter fails. Every failure has a kind, a message and a description for the user;
the description of an output that cannot be read shows the beginning of that output. -/

namespace ApiLint

/-- A fault that the operating system reports. -/
inductive SystemFault where
  | numbered (number : Int) (text : String) (file : Option String)
  | told (text : String)
  | silent
  deriving DecidableEq, Repr

namespace SystemFault

def message : SystemFault → String
  | numbered number text file =>
    "[Errno " ++ toString number ++ "] " ++ text ++
      (file.map fun f => ": " ++ Text.quotedString f).getD ""
  | told text => text
  | silent => ""

def noSuchFile (file : String) : SystemFault :=
  numbered 2 "No such file or directory" (some file)

def permissionDenied (file : String) : SystemFault :=
  numbered 13 "Permission denied" (some file)

end SystemFault

/-- Why the content of a document cannot be put into a file. -/
inductive TempFileFault where
  | system (fault : SystemFault)
  | encoding (fault : Text.EncodingFault)
  deriving DecidableEq, Repr

def TempFileFault.message : TempFileFault → String
  | system fault => fault.message
  | encoding fault => fault.message

inductive FailureKind where
  | launch
  | timeout
  | cancelled
  | exitCode
  | stderr
  | parse
  | materialize
  deriving DecidableEq, Repr

def FailureKind.name : FailureKind → String
  | launch => "launch"
  | timeout => "timeout"
  | cancelled => "cancelled"
  | exitCode => "exit_code"
  | stderr => "stderr"
  | parse => "parse"
  | materialize => "materialize"

inductive Failure where
  | launch (argv : List Text) (fault : SystemFault)
  | timeout (seconds : Float)
  | cancelled
  | exitCode (code : Int) (stderr : String) (accepted : List Int)
  | stderr (text : String)
  | unreadable (reason output : String)
  | tempFile (fault : TempFileFault)
  deriving DecidableEq

namespace Failure

def kind : Failure → FailureKind
  | launch _ _ => .launch
  | timeout _ => .timeout
  | cancelled => .cancelled
  | exitCode _ _ _ => .exitCode
  | stderr _ => .stderr
  | unreadable _ _ => .parse
  | tempFile _ => .materialize

/-- Each exit code once, the least first. -/
def sortedCodes (codes : List Int) : List Int :=
  (codes.mergeSort fun a b => a ≤ b).eraseDups

def message : Failure → String
  | launch argv fault =>
    "Failed to execute command '" ++ String.ofList (Text.shown (argv.head?.getD "<empty>")) ++ "': " ++
      fault.message
  | timeout seconds => "Spectral did not finish within " ++ tenths seconds ++ "s"
  | cancelled => "Spectral run was cancelled"
  | exitCode code report accepted =>
    "Spectral finished with exit code " ++ toString code ++ " but expected one of [" ++
      ", ".intercalate ((sortedCodes accepted).map toString) ++ "]\n" ++ report
  | stderr text => "An unexpected error occurred:\n" ++ text
  | unreadable reason _ => "Failed to parse output: " ++ reason
  | tempFile fault => "Failed to create temporary file: " ++ fault.message

/-- How much of an output is shown. -/
def previewLimit : Nat := 200

def preview (output : String) : String :=
  String.ofList (output.toList.take previewLimit)

def exceedsPreview (output : String) : Bool :=
  previewLimit < output.length

/-- What the user is told. -/
def describe : Failure → String
  | unreadable reason output =>
    message (unreadable reason output) ++ "\n" ++ preview output ++
      (if exceedsPreview output then "..." else "")
  | f => f.message

end Failure

end ApiLint
