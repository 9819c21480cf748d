import ApiLint.Report.Json

/-! The report of one document in the exchange format of analysis tools (SARIF). Each code is described
once, where it occurs first; places are counted from one. -/

namespace ApiLint.Sarif

def version : String := "2.1.0"

def schema : String := "https://schemastore.azurewebsites.net/schemas/json/sarif-2.1.0.json"

def tool : String := "spectral"

/-- What a report says about a code. -/
structure Rule where
  id : String
  description : Text
  deriving DecidableEq, Repr

/-- How much of a message describes a code. -/
def descriptionLimit : Nat := 120

def Rule.ofIssue (i : Issue) : Rule :=
  ⟨i.code, i.message.take descriptionLimit⟩

/-- Adds the rule of an issue unless its code is known. -/
def addRule (rules : List Rule) (i : Issue) : List Rule :=
  if i.code ∈ rules.map Rule.id then rules else rules ++ [Rule.ofIssue i]

def rules (annotations : List Annotation) : List Rule :=
  annotations.foldl (fun rules a => addRule rules a.issue) []

/-- A part of a document; all numbers are counted from one. -/
structure Region where
  startLine : Int
  startColumn : Int
  endLine : Int
  endColumn : Int
  deriving DecidableEq, Repr

def Region.ofRange (r : Range) : Region :=
  ⟨r.start.line + 1, r.start.character + 1, r.stop.line + 1, r.stop.character + 1⟩

structure Result where
  rule : String
  level : String
  message : Text
  region : Option Region
  deriving DecidableEq, Repr

def Result.ofIssue (i : Issue) : Result :=
  ⟨i.code, i.severity.level, i.message, some (Region.ofRange i.range)⟩

def Result.ofNotice (n : Notice) : Result :=
  ⟨Issue.unknownFormat, "warning", Text.ofString n.message, none⟩

def results (p : Projection) : List Result :=
  p.annotations.map (fun a => Result.ofIssue a.issue) ++ p.notice.toList.map Result.ofNotice

def Rule.toValue (r : Rule) : Value :=
  Value.ofFields [("id", .string r.id), ("name", .string r.id),
    ("shortDescription", Value.ofFields [("text", .text r.description)])]

def Region.toValue (r : Region) : Value :=
  Value.ofFields [("startLine", .int r.startLine), ("startColumn", .int r.startColumn),
    ("endLine", .int r.endLine), ("endColumn", .int r.endColumn)]

def locationValue (document : String) (region : Option Region) : Value :=
  Value.ofFields [("physicalLocation", Value.ofFields
    (("artifactLocation", Value.ofFields [("uri", .string document)]) ::
      region.toList.map fun r => ("region", r.toValue)))]

def Result.toValue (document : String) (r : Result) : Value :=
  Value.ofFields [("ruleId", .string r.rule), ("level", .string r.level),
    ("message", Value.ofFields [("text", .text r.message)]),
    ("locations", .list [locationValue document r.region])]

/-- A run of the tool; an unknown version has a name of its own. -/
def runValue (p : Projection) (document : String) (toolVersion : Option String) : Value :=
  let known := toolVersion.getD ""
  Value.ofFields [
    ("tool", Value.ofFields [("driver", Value.ofFields [
      ("name", .string tool),
      ("version", .string (if known.isEmpty then "unknown" else known)),
      ("rules", .list ((rules p.annotations).map Rule.toValue))])]),
    ("results", .list ((results p).map (Result.toValue document)))]

def toValue (p : Projection) (document : String) (toolVersion : Option String) : Value :=
  Value.ofFields [("version", .string version), ("$schema", .string schema),
    ("runs", .list [runValue p document toolVersion])]

def render (p : Projection) (document : String) (toolVersion : Option String) : String :=
  String.ofList (Json.write (toValue p document toolVersion))

end ApiLint.Sarif
