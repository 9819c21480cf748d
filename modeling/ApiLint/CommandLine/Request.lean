import ApiLint.CommandLine.Words
import ApiLint.Files.Path
import ApiLint.Schema.Number
import ApiLint.Text.Word

/-! What a command line asks for: to lint a document, or to tell whether a path is included. -/

namespace ApiLint.CommandLine

inductive Format where
  | table
  | json
  | sarif
  deriving DecidableEq, Repr

structure LintRequest where
  /-- The document as it was named. -/
  named : Word
  root : Path
  ruleset : Option String
  timeout : Option Float
  format : Format
  force : Bool
  verbose : Bool
  colour : Bool
  emoji : Bool
  deriving DecidableEq

structure IncludedRequest where
  named : Word
  root : Path
  emoji : Bool
  deriving DecidableEq, Repr

inductive Request where
  | lint (r : LintRequest)
  | included (r : IncludedRequest)
  | help
  deriving DecidableEq

def LintRequest.path (r : LintRequest) : Path := Path.ofChars r.named

def IncludedRequest.path (r : IncludedRequest) : Path := Path.ofChars r.named

def helpForm : Form := ⟨.help, "--help", none, false⟩

def includedForms : List Form :=
  [⟨.root, "--root", none, true⟩, ⟨.noEmoji, "--no-emoji", none, false⟩, helpForm]

def lintForms : List Form :=
  [⟨.root, "--root", none, true⟩, ⟨.ruleset, "--ruleset", some 'r', true⟩,
    ⟨.timeout, "--timeout", none, true⟩, ⟨.format, "--format", some 'f', true⟩,
    ⟨.force, "--force", none, false⟩, ⟨.verbose, "--verbose", some 'v', false⟩,
    ⟨.noColour, "--no-color", none, false⟩, ⟨.noEmoji, "--no-emoji", none, false⟩, helpForm]

def onlyWord : List Word → Except UsageFault Word
  | [] => .error .missingArgument
  | [w] => .ok w
  | _ :: _ :: _ => .error .extraArgument

/-- Whether every underscore of a text stands between two digits. -/
def underscoresGroup : List Char → Bool
  | a :: '_' :: b :: rest => a.isDigit && b.isDigit && underscoresGroup (b :: rest)
  | '_' :: _ => false
  | [_, '_'] => false
  | _ :: rest => underscoresGroup rest
  | [] => true

/-- The number of seconds that a word stands for, in digits of any script. -/
def seconds (w : Word) : Except UsageFault Float :=
  let body := (Text.trimBy Text.isWhite w).map Text.plainDigit
  if !underscoresGroup body then .error .badValue
  else
    match Schema.plainFloat? (body.filter (· ≠ '_')) with
    | some x => .ok x
    | none => .error .badValue

def formatOf (w : Word) : Except UsageFault Format :=
  if w = "table".toList then .ok .table
  else if w = "json".toList then .ok .json
  else if w = "sarif".toList then .ok .sarif
  else .error .badValue

def optional {α : Type} (read : Word → Except UsageFault α) :
    Option Word → Except UsageFault (Option α)
  | none => .ok none
  | some w => (read w).map some

def rootOf (g : Given) : Path := Path.ofChars ((g.value? .root).getD [])

def lintRequest (g : Given) : Except UsageFault Request := do
  if g.has .help then return .help
  let named ← onlyWord g.words
  let timeout ← optional seconds (g.value? .timeout)
  let format ← optional formatOf (g.value? .format)
  return .lint {
    named := named, root := rootOf g, ruleset := (g.value? .ruleset).map String.ofList
    timeout := timeout, format := format.getD .table, force := g.has .force
    verbose := g.has .verbose, colour := !g.has .noColour, emoji := !g.has .noEmoji }

def includedRequest (g : Given) : Except UsageFault Request := do
  if g.has .help then return .help
  let named ← onlyWord g.words
  return .included ⟨named, rootOf g, !g.has .noEmoji⟩

/-- What a command with its name in front asks for. -/
def commandRequest : List Word → Except UsageFault Request
  | [] => .error .noCommand
  | name :: rest =>
    if name = "lint".toList then readWords lintForms rest >>= lintRequest
    else if name = "included".toList then readWords includedForms rest >>= includedRequest
    else .error .unknownCommand

/-- What the words of a whole command line ask for; only help may be asked for in front of a command. -/
def Request.ofWords : List Word → Except UsageFault Request
  | [] => .error .noCommand
  | w :: rest =>
    if w = ['-', '-'] then commandRequest rest
    else if w = "--help".toList then .ok .help
    else if isOption w then .error .unknownOption
    else commandRequest (w :: rest)

end ApiLint.CommandLine
