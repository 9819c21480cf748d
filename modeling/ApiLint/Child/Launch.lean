import ApiLint.Failure
import ApiLint.Run.Command

/-! Starting a program in a directory, with its input in a file. The input is opened first; then the
variables, the words of the command, the directory and the program are looked at in this order. A host
says what comes of this for any commands. -/

namespace ApiLint

namespace Child

/-- One that takes commands: the variables that are set for them, how inputs are read, and what comes of
starting words in a directory with an input. -/
structure Host (ω : Type) where
  environment : List (Text × Text)
  read : Path → Except SystemFault (List UInt8)
  start : List Text → Option Path → List UInt8 → Except SystemFault ω

/-- What a program leaves that ended by itself after so many seconds. -/
structure Exited where
  exitCode : Int
  output : List UInt8
  errors : List UInt8
  seconds : Float

inductive LaunchFault where
  | system (fault : SystemFault)
  | command (fault : CommandFault)
  deriving DecidableEq

def hasNull (t : Text) : Bool := t.contains (.scalar '\x00')

/-- Why a variable cannot be set. Null characters in it are looked for later on. -/
def variableFault? (v : Text × Text) : Option CommandFault :=
  match Text.nameFault? v.1 with
  | some fault => some (.encoding fault)
  | none => if v.1.contains (.scalar '=') then some .variableName else (Text.nameFault? v.2).map .encoding

/-- Why a word cannot be handed to the system. -/
def wordFault? (word : Text) : Option CommandFault :=
  match Text.nameFault? word with
  | some fault => some (.encoding fault)
  | none => if hasNull word then some .nullByte else none

def environmentNull? (environment : List (Text × Text)) : Option CommandFault :=
  if environment.any fun v => hasNull v.1 || hasNull v.2 then some .nullByte else none

end Child

namespace Command

open Child

/-- Why the system cannot be told the working directory. -/
def placeFault? (c : Command) : Option CommandFault :=
  match c.directoryFault with
  | some fault => some (.encoding fault)
  | none => if c.workingDirectory.any fun d => d.chars.contains '\x00' then some .nullByte else none

/-- Why a command cannot be handed to the system with these variables. -/
def fault? (c : Command) (environment : List (Text × Text)) : Option CommandFault :=
  if c.argv.isEmpty then some .noWords
  else
    (environment.findSome? variableFault?).or <| (c.argv.findSome? wordFault?).or <|
      (environmentNull? environment).or c.placeFault?

end Command

namespace Child

namespace Host

variable {ω : Type}

def openInput (host : Host ω) (input : Path) : Except LaunchFault (List UInt8) :=
  if input.chars.contains '\x00' then .error (.command .nullByte)
  else (host.read input).mapError .system

/-- Starts a command, whose input is a file. -/
def launch (host : Host ω) (command : Command) : Except LaunchFault ω := do
  let bytes ← host.openInput command.input
  match command.fault? host.environment with
  | some fault => .error (.command fault)
  | none => (host.start command.argv command.workingDirectory bytes).mapError .system

/-- A host that tells more, or less, of what was started. -/
def map {ψ : Type} (f : ω → ψ) (host : Host ω) : Host ψ :=
  { host with start := fun argv directory bytes => (host.start argv directory bytes).map f }

end Host

end Child

end ApiLint
