import ApiLint.Settings.Basic

/-! The command that lints one file. On Windows the linter is started through the command
interpreter, elsewhere directly. -/

namespace ApiLint

structure Command where
  executable : List Text
  arguments : List Text
  input : Path
  workingDirectory : Option Path
  /-- Why the working directory, as it was given, cannot be handed to the system. -/
  directoryFault : Option Text.EncodingFault
  deriving DecidableEq, Repr

def Command.argv (c : Command) : List Text :=
  c.executable ++ c.arguments

/-- Why a command cannot even be handed to the system. -/
inductive CommandFault where
  | noWords
  | nullByte
  | variableName
  | encoding (fault : Text.EncodingFault)
  deriving DecidableEq, Repr

def CommandFault.message : CommandFault → String
  | noWords => "list index out of range"
  | nullByte => "embedded null byte"
  | variableName => "illegal environment variable name"
  | encoding fault => fault.message

/-- Whether a system is Windows by its name, whatever the case of its ASCII letters. -/
def isWindows (system : String) : Bool :=
  Text.occursIn "windows".toList (system.toList.map Char.toLower)

def resolveExecutable (name system : String) : List String :=
  if isWindows system then ["cmd", "/C", name ++ ".cmd"] else [name]

def Command.lint (settings : Settings) (system : String) (ruleset : Text) (input : Path) : Command where
  executable := (resolveExecutable settings.executable system).map Text.ofString
  arguments := ["-r", ruleset, "-f", "json", "lint", input.toString]
  input := input
  workingDirectory := settings.projectRoot
  directoryFault := settings.rootFault

end ApiLint
