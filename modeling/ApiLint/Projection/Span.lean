import ApiLint.Document.LineIndex
import ApiLint.Issue.Basic

/-! The part of a document that an issue covers, as flat offsets. A range fits when both its positions
lie in lines of the document and its end does not come before its start. -/

namespace ApiLint

/-- The offsets from `start` up to below `stop`. -/
structure Span where
  start : Int
  stop : Int
  deriving DecidableEq, Repr

/-- Why a range does not fit a document. -/
inductive RangeFault where
  | negative (position : Position)
  | pastLines (line count : Int)
  | pastLine (character line : Int)
  | reversed (start stop : Int)
  | lookup (fault : LookupFault)
  /-- The range does not fit, and a number that the message shows is not written. -/
  | unwritten
  deriving DecidableEq, Repr

namespace RangeFault

/-- The numbers that a message shows. -/
def numbers : RangeFault → List Int
  | negative p => [p.line, p.character]
  | pastLines line count => [line, count]
  | pastLine character line => [character, line]
  | reversed start stop => [stop, start]
  | lookup _ => []
  | unwritten => []

/-- A fault with its message written out. -/
def written (f : RangeFault) : RangeFault :=
  if f.numbers.any isLong then unwritten else f

def message : RangeFault → String
  | negative p => "negative position " ++ toString p.line ++ ":" ++ toString p.character
  | pastLines line count =>
    "line " ++ toString line ++ " exceeds document line count " ++ toString count
  | pastLine character line =>
    "character " ++ toString character ++ " exceeds length of line " ++ toString line
  | reversed start stop =>
    "range end " ++ toString stop ++ " precedes start " ++ toString start
  | lookup fault => fault.message
  | unwritten => unwrittenMessage

end RangeFault

/-- An answer of a lookup, whose fault becomes one of the range. -/
def Lookup.ask (answer : Except LookupFault Int) : Except RangeFault Int :=
  answer.mapError .lookup

def Position.offset (lookup : Lookup) (p : Position) : Except RangeFault Int :=
  if p.line < 0 ∨ p.character < 0 then .error (RangeFault.negative p).written
  else if lookup.lineCount ≤ p.line then .error (RangeFault.pastLines p.line lookup.lineCount).written
  else do
    let start ← Lookup.ask (lookup.startOf p.line)
    let stop ← Lookup.ask (lookup.stopOf p.line)
    if stop < start + p.character then .error (RangeFault.pastLine p.character p.line).written
    else return start + p.character

def Range.span (lookup : Lookup) (r : Range) : Except RangeFault Span := do
  let start ← r.start.offset lookup
  let stop ← r.stop.offset lookup
  if stop < start then .error (RangeFault.reversed start stop).written else return ⟨start, stop⟩

def Issue.span (lookup : Lookup) (i : Issue) : Except RangeFault Span :=
  i.range.span lookup

end ApiLint
