import ApiLint.Json.Writer
import ApiLint.Projection.Basic

/-! The report of one document as a JSON document. -/

namespace ApiLint

def Value.ofFields (fields : List (String × Value)) : Value :=
  .table (fields.map fun f => (Text.ofString f.1, f.2))

namespace Annotation

def toValue (a : Annotation) : Value :=
  Value.ofFields [("start", .int a.span.start), ("end", .int a.span.stop),
    ("severity", .string a.severity.name), ("message", .text a.message), ("issue", a.issue.toValue)]

end Annotation

namespace Notice

def toValue (n : Notice) : Value :=
  Value.ofFields [("severity", .string n.severity.name), ("message", .string n.message)]

end Notice

namespace Projection

def toValue (p : Projection) (document : String) : Value :=
  Value.ofFields [("document", .string document), ("notice", (p.notice.map Notice.toValue).getD .null),
    ("annotations", .list (p.annotations.map Annotation.toValue)),
    ("skipped", .int p.skipped.length)]

def renderJson (p : Projection) (document : String) : String :=
  String.ofList (Json.write (p.toValue document))

end Projection

end ApiLint
