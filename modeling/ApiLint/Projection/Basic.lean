import ApiLint.Log
import ApiLint.Projection.Span

/-! The issues of one run as annotations of a document. An issue whose range does not fit is skipped,
and the others stay as they are; one issue that says the format is unknown puts a notice in the place
of all annotations. -/

namespace ApiLint

/-- A finding with the part of the document that it is about. -/
structure Annotation where
  span : Span
  severity : DisplaySeverity
  message : Text
  issue : Issue
  deriving DecidableEq, Repr

/-- A finding about the document as a whole. -/
structure Notice where
  severity : DisplaySeverity
  message : String
  deriving DecidableEq, Repr

/-- The start of a finding as people count, from one. -/
def Annotation.location (a : Annotation) : String :=
  toString (a.issue.range.start.line + 1) ++ ":" ++ toString (a.issue.range.start.character + 1)

structure Projection where
  annotations : List Annotation
  notice : Option Notice
  skipped : List Issue
  deriving DecidableEq, Repr

namespace Issue

/-- The code of an issue that says the format of the document is unknown. -/
def unknownFormat : String := "unrecognized-format"

/-- What an annotation says: the code of its issue and the message. -/
def displayMessage (i : Issue) : Text :=
  Text.ofString i.code ++ Text.ofString ": " ++ i.message

def annotation (i : Issue) (span : Span) : Annotation :=
  ⟨span, i.severity.display, i.displayMessage, i⟩

def annotation? (lookup : Lookup) (i : Issue) : Option Annotation :=
  match i.span lookup with
  | .ok span => some (i.annotation span)
  | .error _ => none

def fits (lookup : Lookup) (i : Issue) : Bool :=
  (i.span lookup).isOk

def skipRecord? (lookup : Lookup) (i : Issue) : Option LogRecord :=
  match i.span lookup with
  | .ok _ => none
  | .error fault =>
    some ⟨.debug, .projection,
      "Skipping issue " ++ i.code ++ " with invalid range: " ++ fault.message⟩

end Issue

namespace Projection

def isUnknownFormat (issues : List Issue) : Bool :=
  issues.any fun i => i.code = Issue.unknownFormat

def unknownFormatNotice : Notice :=
  ⟨.warning, "File is not formatted correctly. Linting was skipped."⟩

/-- The issues laid onto a document. -/
def ofIssues (lookup : Lookup) (issues : List Issue) : Projection :=
  if isUnknownFormat issues then ⟨[], some unknownFormatNotice, []⟩
  else ⟨issues.filterMap (Issue.annotation? lookup), none, issues.filter fun i => !i.fits lookup⟩

/-- The records of laying issues onto a document. -/
def records (lookup : Lookup) (issues : List Issue) : List LogRecord :=
  if isUnknownFormat issues then
    [⟨.warning, .projection,
      "Linted document is not a recognised API specification: skipping linting"⟩]
  else issues.filterMap (Issue.skipRecord? lookup)

/-- Whether some annotation is shown as an error. -/
def hasErrors (p : Projection) : Bool :=
  p.annotations.any fun a => a.severity = .error

end Projection

/-- How many issues have each severity, the gravest first. -/
def countBySeverity (issues : List Issue) : List (Severity × Nat) :=
  Severity.all.map fun s => (s, issues.countP fun i => i.severity = s)

end ApiLint
