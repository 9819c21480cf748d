import ApiLint.Files.Tree
import ApiLint.Log
import ApiLint.Shell.Script
import ApiLint.Text.Encoding

/-! What a script works on: its parameters and variables, the files around it, among them the tools of the
system, and what it reads and writes. -/

namespace ApiLint

def systemTools : List String :=
  ["sh", "sleep", "echo", "cat", "true", "false", "printf", "pwd", "head", "wc", "seq", "env",
    "printenv", "test", "["]

def stepsOf (path : String) : List (List Char) :=
  (Path.ofString path).parts

/-- The directories, tools and files of a system. -/
def Tree.system : Tree :=
  let tools (directory : String) : List (List (List Char) × Node) :=
    systemTools.map fun name =>
      (stepsOf (directory ++ "/" ++ name), .tool (if name = "[" then "test" else name))
  let shells := ["/bin/bash", "/bin/dash", "/usr/bin/bash", "/usr/bin/dash"].map fun path =>
    (stepsOf path, Node.tool "sh")
  let files := ["/etc/passwd", "/etc/hosts", "/etc/hostname", "/etc/group", "/etc/resolv.conf",
    "/etc/shadow", "/etc/profile", "/etc/os-release", "/etc/shells", "/etc/issue", "/etc/nsswitch.conf",
    "/dev/null"].map fun path => (stepsOf path, Node.file [] false)
  let directories := ["/tmp", "/var", "/var/tmp", "/usr/local", "/usr/local/bin", "/usr/lib", "/usr/share",
    "/sbin", "/lib", "/proc", "/root", "/home", "/opt", "/mnt", "/run", "/sys", "/srv"].map fun path =>
      (stepsOf path, Node.directory)
  ⟨tools "/bin" ++ tools "/usr/bin" ++ shells ++ files ++ directories⟩

namespace Shell

/-- Where written bytes go. -/
inductive Sink where
  | output
  | errors
  | captured
  | nothing
  | file (steps : List (List Char))
  deriving DecidableEq, Repr

structure Variable where
  name : Bytes
  value : Bytes
  exported : Bool
  deriving DecidableEq, Repr

structure Session where
  /-- The name that faults are told under. -/
  name : Bytes
  parameters : List Bytes
  bindings : List Variable
  status : Nat
  line : Nat
  /-- Whether the first command that fails ends the script. -/
  strict : Bool
  tree : Tree
  directory : Path
  input : Bytes
  sinks : Sink × Sink
  /-- What was written to each sink, the last part first. -/
  output : List Bytes
  errors : List Bytes
  captured : List Bytes
  /-- How many seconds the script slept. -/
  slept : Float

/-- The number of the process that runs a script. -/
def processNumber : Bytes := childNumber.toList

/-- How a part of a script ends. -/
inductive Flow where
  | next
  | leave
  | again
  | exit
  | killed (signal : Nat)
  deriving DecidableEq, Repr

def bytesOf (cs : List Char) : Bytes :=
  (cs.flatMap fun c => Text.utf8Bytes c.toNat).map fun b => Char.ofNat b.toNat

def toUInt8s (bytes : Bytes) : List UInt8 :=
  bytes.map fun c => UInt8.ofNat c.toNat

/-- The text of a name, which is told in faults. -/
def shown (bytes : Bytes) : List Char :=
  Text.decodeLossy (toUInt8s bytes)

namespace Session

def write (s : Session) (sink : Sink) (bytes : Bytes) : Session :=
  match sink with
  | .output => { s with output := bytes :: s.output }
  | .errors => { s with errors := bytes :: s.errors }
  | .captured => { s with captured := bytes :: s.captured }
  | .nothing => s
  | .file steps =>
    let before := match s.tree.at? steps with
      | some (.file old _) => old
      | _ => []
    { s with tree := s.tree.put steps (.file (before ++ toUInt8s bytes) false) }

def print (s : Session) (bytes : Bytes) : Session :=
  s.write s.sinks.1 bytes

def complain (s : Session) (message : Bytes) : Session :=
  s.write s.sinks.2 (message ++ ['\n'])

/-- Tells a fault with the name of the script and the line. -/
def fault (s : Session) (message : Bytes) : Session :=
  s.complain (s.name ++ ": ".toList ++ (toString s.line).toList ++ ": ".toList ++ message)

def withStatus (s : Session) (status : Nat) : Session := { s with status := status }

def lookup? (s : Session) (name : Bytes) : Option Bytes :=
  (s.bindings.find? fun v => v.name = name).map Variable.value

def assign (s : Session) (name value : Bytes) : Session :=
  let exported := (s.bindings.find? fun v => v.name = name).any Variable.exported
  { s with bindings := ⟨name, value, exported⟩ :: s.bindings.filter fun v => v.name != name }

def exportName (s : Session) (name : Bytes) : Session :=
  let value := (s.lookup? name).getD []
  { s with bindings := ⟨name, value, true⟩ :: s.bindings.filter fun v => v.name != name }

/-- The value of a parameter of any kind. -/
def parameter? (s : Session) (name : Bytes) : Option Bytes :=
  match name with
  | ['#'] => some (toString s.parameters.length).toList
  | ['?'] => some (toString s.status).toList
  | ['$'] => some processNumber
  | ['0'] => some s.name
  | ['*'] => some (s.parameters.intersperse [' ']).flatten
  | ['@'] => some (s.parameters.intersperse [' ']).flatten
  | name =>
    if name.all Char.isDigit then
      s.parameters[(name.foldl (fun n d => 10 * n + (d.toNat - 48)) 0) - 1]?
    else s.lookup? name

/-- What a command reads of files, or of its input without any. -/
def readFile (s : Session) (name : Bytes) : Except SystemFault Bytes :=
  (s.tree.read s.directory (shown name)).map fun bytes => bytes.map fun b => Char.ofNat b.toNat

end Session

def faultText : SystemFault → String
  | .numbered _ text _ => text
  | .told text => text
  | .silent => ""

end Shell

end ApiLint
