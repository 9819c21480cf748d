import ApiLint.Child.Runner
import ApiLint.Shell.Run

/-! A machine is a host whose programs are those of its tree: tools, and scripts that the shell of this
library runs. It stands in the outer layer, for the programs that a command may name there; what is proved
of runs and of waits is proved for every host. -/

namespace ApiLint.Child

/-- Where programs are started: the files there, the directory of the one who starts them, and the
variables that they find. -/
structure Machine where
  tree : Tree
  directory : Path
  environment : List (String × String)

/-- How long it takes to start a program. -/
def startingTime : Float := 0.004

/-- How deep a script may go. -/
def scriptFuel : Nat := 200000

/-- The directory that a program starts in. -/
def enterDirectory (m : Machine) (directory : Option Path) : Except SystemFault Path :=
  match directory with
  | none => .ok m.directory
  | some d =>
    match m.tree.find m.directory d.chars with
    | .ok (steps, .directory) => .ok ⟨.root, steps⟩
    | .ok (_, .closed) => .error (.permissionDenied d.toString)
    | .ok _ => .error (.notADirectory d.toString)
    | .error fault => .error fault

/-- Where a program without a directory in its name may stand. -/
def candidates (m : Machine) (name : String) : List (List Char) :=
  if name.toList.contains '/' then [name.toList]
  else
    let path := ((m.environment.find? fun v => v.1 = "PATH").map Prod.snd).getD "/bin:/usr/bin"
    (Text.splitAt ':' path.toList).map fun d => d ++ '/' :: name.toList

/-- The interpreter that the first line of a script names, with its argument. -/
def interpreter? (bytes : List UInt8) : Option (List Char) :=
  match Shell.scriptOf bytes with
  | '#' :: '!' :: rest => some (rest.takeWhile (· ≠ '\n'))
  | _ => none

/-- A program that was found: a tool, or a script for a tool. -/
inductive Program where
  | tool (name : String)
  | script (path : List Char)

def Program.ofNode (m : Machine) (directory : Path) (name : String) (path : List Char) :
    Node → Except SystemFault Program
  | .tool named => .ok (.tool named)
  | .file bytes true =>
    match interpreter? bytes with
    | some line =>
      match (Text.splitAt ' ' line).filter fun part => !part.isEmpty with
      | [] => .error (.numbered 8 "Exec format error" (some name))
      | first :: _ =>
        match m.tree.find directory first with
        | .ok (_, .tool _) => .ok (.script path)
        | .ok _ => .error (.permissionDenied name)
        | .error _ => .error (.noSuchFile name)
    | none => .error (.numbered 8 "Exec format error" (some name))
  | _ => .error (.permissionDenied name)

/-- The first program among the candidates; a file that is no program counts when there is none. -/
def findProgram (m : Machine) (directory : Path) (name : String) : List (List Char) →
    Except SystemFault Program
  | [] => .error (.noSuchFile name)
  | path :: rest =>
    match m.tree.find directory path with
    | .ok (_, node) =>
      match Program.ofNode m directory name path node with
      | .ok program => .ok program
      | .error fault =>
        match findProgram m directory name rest with
        | .ok program => .ok program
        | .error _ => .error fault
    | .error (.numbered 20 text _) =>
      if rest.isEmpty then .error (.numbered 20 text (some name)) else findProgram m directory name rest
    | .error (.numbered 2 _ _) => findProgram m directory name rest
    | .error (.numbered number text _) =>
      match findProgram m directory name rest with
      | .ok program => .ok program
      | .error _ => .error (.numbered number text (some name))
    | .error _ => findProgram m directory name rest

/-- The bytes of a word, where a half stands for a byte that was no text. -/
def wordBytes (word : Text) : Shell.Bytes :=
  word.flatMap fun
    | .scalar c => Shell.bytesOf [c]
    | .half offset => [Char.ofNat (offset.val % 256)]

/-- A session of a program that starts. -/
def session (m : Machine) (directory : Path) (input : List UInt8) (name : List Char) : Shell.Session :=
  let binding (name value : List Char) : Shell.Variable :=
    ⟨Shell.bytesOf name, Shell.bytesOf value, true⟩
  let bindings := m.environment.map fun v => binding v.1.toList v.2.toList
  { name := Shell.bytesOf name, parameters := [], bindings := bindings, status := 0, line := 1,
    strict := false, tree := m.tree, directory := directory, input := Shell.scriptOf input,
    sinks := (.output, .errors), output := [], errors := [], captured := [], slept := startingTime }

def Exited.ofSession (s : Shell.Session) (flow : Shell.Flow) : Exited :=
  let code : Int := match flow with
    | .killed signal => -(signal : Int)
    | _ => s.status
  ⟨code, Shell.toUInt8s s.output.reverse.flatten, Shell.toUInt8s s.errors.reverse.flatten, s.slept⟩

def runProgram (s : Shell.Session) (program : Program) (arguments : List Shell.Bytes) : Exited :=
  let evaluate (s : Shell.Session) (text : Shell.Bytes) : Exited :=
    match Shell.read text with
    | .ok script =>
      let (s, flow) := Shell.eval scriptFuel script s
      Exited.ofSession s flow
    | .error fault =>
      let s := { s with line := fault.line }.fault fault.message.toList
      Exited.ofSession (s.withStatus 2) .exit
  match program with
  | .script path =>
    match s.readFile (Shell.bytesOf path) with
    | .ok text => evaluate { s with parameters := arguments, name := Shell.bytesOf path } text
    | .error _ => Exited.ofSession (s.withStatus 127) .exit
  | .tool "sh" =>
    match Shell.shellArguments s s.name arguments with
    | .ok (name, parameters, text) =>
      let s := if arguments.isEmpty then { s with input := [] } else s
      evaluate (s.enter name parameters) text
    | .error message =>
      Exited.ofSession ((s.complain (s.name ++ ": 0: ".toList ++ message)).withStatus 2) .exit
  | .tool "echo" => Exited.ofSession ((s.print (Shell.plainEcho arguments)).withStatus 0) .exit
  | .tool "sleep" => Exited.ofSession (s.runSleep s.name arguments) .exit
  | .tool tool => Exited.ofSession ((s.tool? tool arguments).getD (s.withStatus 1)) .exit

/-- Starts words in a directory and runs the program to its end. -/
def Machine.start (m : Machine) (argv : List Text) (directory : Option Path) (input : List UInt8) :
    Except SystemFault Exited := do
  let inside ← enterDirectory m directory
  let name := String.ofList (Shell.shown (wordBytes (argv.head?.getD [])))
  let program ← findProgram m inside name (candidates m name)
  return runProgram (session m inside input name.toList) program (argv.tail.map wordBytes)

def Machine.host (m : Machine) : Host Exited where
  environment := m.environment.map fun v => (Text.ofString v.1, Text.ofString v.2)
  read input := m.tree.read m.directory input.chars
  start := m.start

/-- How many rounds a wait may go on for. -/
def mostRounds : Nat := 100000

/-- How much time slices take together. -/
def elapsed (slices : List Float) : Float := slices.foldr (fun slice sum => sum + slice) 0

/-- Where time comes from in a wait: the first reading of the clock, its readings behind the slices
waited so far, and the signal to cancel. -/
structure Times where
  start : Float
  clock : List Float → Float
  cancel : Option (List Float → Bool)

/-- The clock that goes on with the slices waited, without a signal to cancel. -/
def Times.steady : Times := ⟨0, elapsed, none⟩

/-- What a wait for a child meets that ends by itself. -/
def surroundings (times : Times) (child : Exited) : Surroundings Float Empty Exited where
  start := .ok times.start
  clock := fun slices => .ok (times.clock slices)
  cancel := times.cancel.map fun signal slices => .ok (signal slices)
  communicate := fun slices slice =>
    if child.seconds ≤ elapsed slices + slice then some child else none
  running := fun slices => !(child.seconds ≤ elapsed slices)
  held := fun _ => false

/-- The host of a machine, with what a wait for its programs meets. -/
def Machine.timedHost (m : Machine) (times : Times) : Host (Surroundings Float Empty Exited) :=
  m.host.map (surroundings times)

/-- Starts a command and waits for it. -/
def runCommand (m : Machine) (times : Times) (interval : Float) (command : Command) (timeout : Float) :
    Except LaunchFault (Option (Execution Float Empty Exited)) :=
  (m.timedHost times).runCommand interval mostRounds command timeout

def Machine.withFiles (m : Machine) (directory : TempDirectory) : Machine :=
  let put (t : Tree) (f : TempFile) : Tree :=
    t.put (directory.filePath f.serial).parts (.file f.bytes false)
  { m with tree := directory.files.foldl put m.tree }

/-- The runner of a machine. A runner has to reply, so that one whose child is not back in its rounds
gives the child up as at its timeout. -/
def runner (m : Machine) (times : Times) (interval : Float) : Runner :=
  fun command timeout directory =>
    let host (directory : TempDirectory) := (m.withFiles directory).timedHost times
    (hostRunner host id interval mostRounds command timeout directory).getD
      ⟨.error (.failure (.timeout timeout)), directory, [startRecord command timeout, killRecord]⟩

end ApiLint.Child
