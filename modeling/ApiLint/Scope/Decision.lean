import ApiLint.Log
import ApiLint.Scope.Inclusion

/-! The decision to lint a document or to leave it out. Whatever goes wrong on the way leaves the
document out; a document that is left out leaves one record, and one that is linted none. The record has
to be written, and the writing can come to a fault of its own. -/

namespace ApiLint.Scope

/-- Why a document is left out. -/
inductive Exclusion where
  /-- The base directory or the path is missing. -/
  | missing
  | fault (fault : Fault)
  | unmatched
  deriving DecidableEq, Repr

/-- Why a document is left out; `none` when it is to be linted. -/
def exclusion (separator : List Char) (base candidate : Place) (patterns : List (List Char)) :
    Option Exclusion :=
  if base.isMissing || candidate.isMissing then some .missing
  else
    match separator? separator >>= fun sep => isIncluded sep base candidate patterns with
    | .error fault => some (.fault fault)
    | .ok false => some .unmatched
    | .ok true => none

def failureText (base candidate : Place) (patterns : List (List Char)) : String :=
  "Failed to check if file is included. basePath=" ++ String.ofList base.shown ++ " path=" ++
    String.ofList candidate.shown ++ " includedFiles=" ++
    Text.quotedList (patterns.map Text.ofChars)

/-- The record that a document leaves when it is left out. -/
def Exclusion.record (base candidate : Place) (patterns : List (List Char)) :
    Exclusion → LogRecord
  | .missing => ⟨.error, .scope, failureText base candidate patterns⟩
  | .fault f => ⟨.error, .scope, failureText base candidate patterns ++ ": " ++ f.message⟩
  | .unmatched =>
    ⟨.debug, .scope,
      "The given file " ++ String.ofList candidate.shown ++ " did not match any configured pattern"⟩

def decision (separator : List Char) (base candidate : Place) (patterns : List (List Char)) :
    Bool × List LogRecord :=
  match exclusion separator base candidate patterns with
  | none => (true, [])
  | some why => (false, [why.record base candidate patterns])

/-- The fault in writing the record of an exclusion, which shows the base directory before the path. An
unmatched document has a path, and a path can be written. -/
def Exclusion.writingFault? (levels : Nat) (base candidate : Place) : Exclusion → Option WritingFault
  | .unmatched => none
  | _ => (base.writingFault? levels).or (candidate.writingFault? levels)

/-- The decision on a document with its record written, for which so many levels are left. A number that is
too long is the record's own trouble; what lies too deep ends the decision. -/
def shouldLint (levels : Nat) (separator : List Char) (base candidate : Place)
    (patterns : List (List Char)) : Except WritingFault (Bool × List LogRecord) :=
  let why := exclusion separator base candidate patterns
  let fault := why.bind (Exclusion.writingFault? levels base candidate)
  if fault = some .tooDeep then .error .tooDeep else .ok (decision separator base candidate patterns)

end ApiLint.Scope
