import ApiLint.Issue.Basic
import ApiLint.Json.Reader

/-! What the linter prints: a list of issues in JSON, or nothing at all when it found none. The whole
output is read or none of it is. -/

namespace ApiLint

/-- Why the output of the linter is no list of issues. -/
inductive Reason where
  | malformed (cause : Json.Cause) (place : Text.Place)
  | tooDeep
  | notArray (kind : String)
  | notObject (index : Nat)
  | schema (fault : Schema.Fault)
  deriving DecidableEq, Repr

namespace Reason

def shown : Reason → List Char
  | malformed cause place =>
    ("invalid JSON (" ++ cause.message ++ " at line " ++ toString place.line ++ " column " ++
      toString place.column ++ ")").toList
  | tooDeep => "JSON nesting is too deep".toList
  | notArray kind => ("expected a JSON array but found " ++ kind).toList
  | notObject index => ("element " ++ toString index ++ " is not an object").toList
  | schema fault => fault.shown

end Reason

/-- What keeps an output from being read: a reason to refuse it, or a whole number of so many digits
that the reader gives up. -/
inductive OutputFault where
  | refused (reason : Reason)
  | longInteger (digits : Nat)
  deriving DecidableEq, Repr

namespace Issue

/-- The fields of every element, up to the first element that has none. -/
def fieldsFrom : Nat → List Value → Except Reason (List Fields)
  | _, [] => .ok []
  | index, .table fields :: rest => (fieldsFrom (index + 1) rest).map (fields :: ·)
  | index, _ :: _ => .error (.notObject index)

/-- The issues of a document that was read; the first fault is the reason to refuse it. -/
def listOfValue : Value → Except Reason (List Issue)
  | .list items =>
    match fieldsFrom 0 items with
    | .error reason => .error reason
    | .ok tables =>
      match Schema.Checked.items ofFields tables with
      | .ok issues => .ok issues
      | .error faults => .error (.schema faults.first)
  | v => .error (.notArray v.kindName)

def listOfOutput (output : List Char) : Except OutputFault (List Issue) :=
  if Text.blank output then .ok []
  else
    match Json.read output with
    | .error (.malformed cause place) => .error (.refused (.malformed cause place))
    | .error .tooDeep => .error (.refused .tooDeep)
    | .error (.longInteger n) => .error (.longInteger n)
    | .ok v => (listOfValue v).mapError .refused

end Issue

end ApiLint
