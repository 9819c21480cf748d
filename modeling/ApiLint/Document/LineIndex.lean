import ApiLint.Decimal.Basic

/-! The lines of a document as offsets into its text. A line ends at a line feed, at a carriage return,
or at both together, and its content leaves the terminator out. `Lookup` is what a host offers in the
place of an index of its own. -/

namespace ApiLint

/-- The offsets at which the content of a line starts and ends. -/
structure Line where
  start : Int
  stop : Int
  deriving DecidableEq, Repr

/-- The lines of a document; there is always one at least. -/
structure LineIndex where
  first : Line
  rest : List Line
  deriving DecidableEq, Repr

/-- What a lookup answers to a line that it does not have. -/
inductive LookupFault where
  | outside (line : Int) (last : Nat)
  | other (message : String)
  deriving DecidableEq, Repr

def LookupFault.message : LookupFault → String
  | outside line last =>
    "line " ++ toString line ++ " is outside the document (0.." ++ toString last ++ ")"
  | other message => message

/-- A view of a document by its lines. -/
structure Lookup where
  lineCount : Int
  startOf : Int → Except LookupFault Int
  stopOf : Int → Except LookupFault Int

namespace LineIndex

/-- The lines of a text that stands at `offset`, where the line it continues starts at `start`. -/
def linesFrom (start : Nat) : Nat → List Char → LineIndex
  | offset, [] => ⟨⟨start, offset⟩, []⟩
  | offset, '\r' :: '\n' :: rest =>
    let next := linesFrom (offset + 2) (offset + 2) rest
    ⟨⟨start, offset⟩, next.first :: next.rest⟩
  | offset, c :: rest =>
    if c = '\n' ∨ c = '\r' then
      let next := linesFrom (offset + 1) (offset + 1) rest
      ⟨⟨start, offset⟩, next.first :: next.rest⟩
    else linesFrom start (offset + 1) rest

def ofChars (cs : List Char) : LineIndex :=
  linesFrom 0 0 cs

/-- The index with given offsets, of which both lists need the same number and one at least. -/
def ofOffsets? : List Int → List Int → Option LineIndex
  | start :: starts, stop :: stops =>
    if starts.length = stops.length then
      some ⟨⟨start, stop⟩, (starts.zip stops).map fun p => ⟨p.1, p.2⟩⟩
    else none
  | _, _ => none

def offsetsFault : String :=
  "line index requires matching, non-empty start and end offsets"

def lines (index : LineIndex) : List Line :=
  index.first :: index.rest

def count (index : LineIndex) : Nat :=
  index.lines.length

/-- The fault of a number that no line has, which is told with the number. -/
def missing (index : LineIndex) (n : Int) : LookupFault :=
  if isLong n then .other unwrittenMessage else .outside n index.rest.length

/-- The line with a number, counted from zero. -/
def line (index : LineIndex) (n : Int) : Except LookupFault Line :=
  match index.lines[n.toNat]? with
  | some line => if n < 0 then .error (index.missing n) else .ok line
  | none => .error (index.missing n)

def lookup (index : LineIndex) : Lookup where
  lineCount := index.count
  startOf n := (index.line n).map Line.start
  stopOf n := (index.line n).map Line.stop

end LineIndex

end ApiLint
