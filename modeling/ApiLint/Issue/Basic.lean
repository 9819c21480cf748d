import ApiLint.Schema.Number
import ApiLint.Severity

/-! Issues: what the linter finds in a document. `Issue.ofValue` checks an issue that a tool reports and
`Issue.toValue` writes it out again. A reported severity is read leniently and its number is kept;
where the severity is known beforehand, the number is one more field. -/

namespace ApiLint

/-- A place in a document, both numbers counted from zero; a tool may report any numbers at all. -/
structure Position where
  line : Int
  character : Int
  deriving DecidableEq, Repr

/-- A start and an end; nothing is known of their order before they meet a document. -/
structure Range where
  start : Position
  stop : Position
  deriving DecidableEq, Repr

/-- A step on the way to the part of the document that an issue is about. -/
inductive PathItem where
  | key (name : Text)
  | index (n : Int)
  deriving DecidableEq, Repr

structure Issue where
  code : String
  message : Text
  severity : Severity
  range : Range
  /-- The number that the tool gave for the severity. -/
  rawSeverity : Option Int
  path : List PathItem
  source : Option Text
  deriving DecidableEq, Repr

open Schema

def keyStep (name : String) : Step := .key (Text.ofString name)

def fieldOf? (name : String) (fields : Fields) : Option Value :=
  Fields.get? (Text.ofString name) fields

def required {α : Type} (name : String) (check : Value → Checked α) (fields : Fields) : Checked α :=
  match fieldOf? name fields with
  | none => .error (Faults.one [keyStep name] .missing)
  | some v => Checked.under (keyStep name) (check v)

def optional {α : Type} (name : String) (default : α) (check : Value → Checked α) (fields : Fields) :
    Checked α :=
  match fieldOf? name fields with
  | none => .ok default
  | some v => Checked.under (keyStep name) (check v)

def nullable {α : Type} (check : Value → Checked α) : Value → Checked (Option α)
  | .null => .ok none
  | v => (check v).map some

def checkText : Value → Checked Text
  | .text t => .ok t
  | _ => Checked.refused .string

def checkWhole (v : Value) : Checked Int :=
  Checked.ofRule (whole v)

/-- A name: at least one character, and no half of a pair alone. -/
def checkName : Value → Checked String
  | .text t =>
    match t.toString? with
    | none => Checked.refused .unicodeString
    | some s => if s.isEmpty then Checked.refused .nonEmptyString else .ok s
  | _ => Checked.refused .string

namespace Position

def ofFields (fields : Fields) : Checked Position :=
  Checked.apply (Checked.apply (.ok Position.mk) (required "line" checkWhole fields))
    (required "character" checkWhole fields)

def ofValue : Value → Checked Position
  | .table fields => ofFields fields
  | _ => Checked.refused (.object "Position")

def toValue (p : Position) : Value :=
  .table [(Text.ofString "line", .int p.line), (Text.ofString "character", .int p.character)]

end Position

namespace Range

def ofFields (fields : Fields) : Checked Range :=
  Checked.apply (Checked.apply (.ok Range.mk) (required "start" Position.ofValue fields))
    (required "end" Position.ofValue fields)

def ofValue : Value → Checked Range
  | .table fields => ofFields fields
  | _ => Checked.refused (.object "Range")

def toValue (r : Range) : Value :=
  .table [(Text.ofString "start", r.start.toValue), (Text.ofString "end", r.stop.toValue)]

end Range

namespace PathItem

/-- A text stays a text and all else has to be a whole number; what is neither breaks both rules. -/
def ofValue : Value → Checked PathItem
  | .text t => .ok (.key t)
  | v =>
    match whole v with
    | .ok n => .ok (.index n)
    | .error rule => .error ⟨⟨[keyStep "str"], .string⟩, [⟨[keyStep "int"], rule⟩]⟩

def toValue : PathItem → Value
  | key name => .text name
  | index n => .int n

def listOfValue : Value → Checked (List PathItem)
  | .list items => Checked.items ofValue items
  | _ => Checked.refused .array

end PathItem

namespace Issue

/-- The severity that a tool reports, which is never refused once it is there. -/
def reportedSeverity (fields : Fields) : Checked Severity :=
  required "severity" (fun v => .ok (Severity.ofValue .fallback v)) fields

def reportedNumber (fields : Fields) : Checked (Option Int) :=
  match fieldOf? "severity" fields with
  | some (.int n) => .ok (some n)
  | some _ => .ok none
  | none => optional "raw_severity" none (nullable checkWhole) fields

def ofParts (severity : Checked Severity) (number : Checked (Option Int)) (fields : Fields) :
    Checked Issue :=
  let named := Checked.apply (.ok Issue.mk) (required "code" checkName fields)
  let told := Checked.apply named (required "message" checkText fields)
  let graded := Checked.apply told severity
  let ranged := Checked.apply graded (required "range" Range.ofValue fields)
  let numbered := Checked.apply ranged number
  let placed := Checked.apply numbered (optional "path" [] PathItem.listOfValue fields)
  Checked.apply placed (optional "source" none (nullable checkText) fields)

/-- An issue as a tool reports it. -/
def ofFields (fields : Fields) : Checked Issue :=
  ofParts (reportedSeverity fields) (reportedNumber fields) fields

def ofFieldsWith (severity : Severity) (fields : Fields) : Checked Issue :=
  ofParts (.ok severity) (optional "raw_severity" none (nullable checkWhole) fields) fields

/-- An issue as a tool reports it. -/
def ofValue : Value → Checked Issue
  | .table fields => ofFields fields
  | _ => Checked.refused (.object "Issue")

def toFields (i : Issue) : Fields :=
  [(Text.ofString "code", .string i.code),
    (Text.ofString "message", .text i.message),
    (Text.ofString "severity", .int i.severity.code),
    (Text.ofString "range", i.range.toValue),
    (Text.ofString "raw_severity", (i.rawSeverity.map Value.int).getD .null),
    (Text.ofString "path", .list (i.path.map PathItem.toValue)),
    (Text.ofString "source", (i.source.map Value.text).getD .null)]

def toValue (i : Issue) : Value :=
  .table i.toFields

end Issue

end ApiLint
