import ApiLint.CommandLine.Outcome
import ApiLint.Report.Json
import ApiLint.Report.Sarif
import ApiLint.Report.Table
import ApiLint.Scope.Decision

/-! The command that lints one document. The settings are loaded first, then the document has to be in
scope, then it is read; only then the linter is started. -/

namespace ApiLint.CommandLine

/-- The place of a project root, which may be missing. -/
def basePlace : Option Path → Scope.Place
  | some p => .path p.chars
  | none => .other .null

/-- Whether a path is in scope under settings, and the records of the decision, which show only paths. -/
def inScope (s : Settings) (path : Path) : Bool × List LogRecord :=
  Scope.decision ['/'] (basePlace s.projectRoot) (.path path.chars) s.inclusionPatterns

/-- Why a document cannot be read. -/
inductive ReadFault where
  | system (fault : SystemFault)
  | decoding (fault : Text.DecodingFault)
  deriving DecidableEq

def ReadFault.message : ReadFault → String
  | system fault => fault.message
  | decoding fault => fault.message

/-- The text of a document, in which every line ends with a line feed. -/
def Workspace.readDocument (w : Workspace) (document : Path) : Except ReadFault (List Char) :=
  match w.tree.read w.directory document.chars with
  | .error fault => .error (.system fault)
  | .ok bytes =>
    match Text.decode bytes with
    | .error fault => .error (.decoding fault)
    | .ok cs => .ok (Text.unifyNewlines cs)

def render (terminal : Console.Terminal) (format : Format) (projection : Projection) (label : String) :
    Except Report.Fault (List Char) :=
  match format with
  | .json => .ok ((projection.renderJson label).toList ++ ['\n'])
  | .sarif => .ok ((Sarif.render projection label none).toList ++ ['\n'])
  | .table => (projection.renderTable label terminal).map Console.ended

namespace LintRequest

def overrides (r : LintRequest) : Fields :=
  [(Text.ofString "ruleset", (r.ruleset.map Value.string).getD .null),
    (Text.ofString "timeout", (r.timeout.map Value.float).getD .null)]

def label (r : LintRequest) : String := r.path.toString

/-- The level from which on records are kept. -/
def level (r : LintRequest) : Level := if r.verbose then .debug else .warning

/-- The terminal that a table is shown on. -/
def terminal (r : LintRequest) (w : Workspace) : Console.Terminal := w.terminal.withEmoji r.emoji

def say (r : LintRequest) (tone : Console.Tone) (message : String) : List Char :=
  said tone r.emoji (some r.colour) message

def exitOf (projection : Projection) : Exit :=
  if projection.hasErrors then .findings else .ok

/-- Lints the text of a document. -/
def lintContent (r : LintRequest) (w : Workspace) (settings : Settings) (content : List Char) : Outcome :=
  let plan : RunPlan := ⟨settings, w.system, settings.timeout, []⟩
  let report := run w.runner plan w.temporary (Text.ofChars content)
  let ended (ending : Ending) (printed : List Char) (records : List LogRecord) : Outcome :=
    ⟨ending, printed, report.calls, report.records ++ records, report.directory⟩
  match report.outcome with
  | .error (.failure f) => ended (.exit .lintError) (r.say .fail f.describe) []
  | .error fault => ended (.crash (.run fault)) [] []
  | .ok issues =>
    let lookup := (LineIndex.ofChars content).lookup
    let projection := Projection.ofIssues lookup issues
    let records := Projection.records lookup issues
    match render (r.terminal w) r.format projection r.label with
    | .ok printed => ended (.exit (exitOf projection)) printed records
    | .error fault => ended (.crash (.report fault)) [] records

/-- Lints a document under settings, when it is in scope or its linting is forced. -/
def lintDocument (r : LintRequest) (w : Workspace) (settings : Settings) : Outcome :=
  let document := Path.resolve w.directory r.path
  let (included, records) := if r.force then (true, []) else inScope settings document
  if !included then
    w.ended (.exit .excluded)
      (r.say .warn (r.label ++ " does not match any included file pattern; skipping")) records
  else
    match w.readDocument document with
    | .error fault =>
      w.ended (.exit .lintError) (r.say .fail ("Unable to read " ++ r.label ++ ": " ++ fault.message))
        records
    | .ok content =>
      let outcome := r.lintContent w settings content
      { outcome with records := records ++ outcome.records }

/-- What stands at the document as it was named; only a file that can be read can be linted. -/
def checkFile (r : LintRequest) (w : Workspace) : Except UsageFault Unit :=
  match w.tree.find w.directory r.named with
  | .ok (_, .directory) => .error .isDirectory
  | .ok (_, .closed) => .error .isDirectory
  | .ok (_, .locked) => .error .unreadable
  | .ok _ => .ok ()
  | .error _ => .error .noSuchFile

def perform (r : LintRequest) (w : Workspace) : Outcome :=
  if r.named.contains '\x00' || r.root.chars.contains '\x00' then w.ended (.crash .nullCharacter) [] []
  else
    match r.checkFile w with
    | .error fault => w.ended (.usage fault) [] []
    | .ok () =>
      let outcome := match w.settings (Path.resolve w.directory r.root) r.overrides with
        | .error fault => w.withoutSettings fault
        | .ok settings => r.lintDocument w settings
      { outcome with records := recordsFrom r.level outcome.records }

end LintRequest

end ApiLint.CommandLine
