import ApiLint.Console.Message
import ApiLint.Projection.Basic
import ApiLint.Report.Layout
import ApiLint.Report.Markup
import ApiLint.Text.Encoding

/-! The report of one document for a terminal: a table of its findings and a summary, or one line when
there are none. Document names, codes and messages are read as console markup. The style of a part of
them is looked up when something of it is printed. -/

namespace ApiLint

namespace Report

/-- Why a report cannot be printed. -/
inductive Fault where
  | markup (fault : Markup.Fault)
  /-- Half of a pair would be printed. -/
  | unprintable (fault : Text.EncodingFault)

def Fault.message : Fault → String
  | markup fault => fault.message
  | unprintable fault =>
    fault.message ++ "\n*** You may need to add PYTHONIOENCODING=utf-8 to your environment ***"

def columns : List Layout.Column :=
  [⟨"Location", false, .ellipsis⟩, ⟨"Severity", true, .ellipsis⟩, ⟨"Code", true, .ellipsis⟩,
    ⟨"Message", true, .fold⟩]

/-- The first fault of a style that is looked up when a text is printed with its lines cut. -/
def styleFault? (cut : Layout.Cut) (m : Markup.Marked) : Option Style.Fault :=
  (m.ordered.filter fun s => Layout.keeps cut m.text s.start s.stop).findSome? fun s =>
    Style.fault? s.style

def markedLines (emoji : List Char → List Char) (cs : List Char) :
    Except Markup.Fault (List (List Char)) := do
  let marked ← Markup.read emoji cs
  match styleFault? Layout.whole marked with
  | some fault => .error (.style fault)
  | none => return Console.lines marked.text

def readAll (emoji : List Char → List Char) :
    List (List Char) → Except Markup.Fault (List Markup.Marked)
  | [] => .ok []
  | cs :: rest =>
    match Markup.read emoji cs with
    | .error fault => .error fault
    | .ok marked => (readAll emoji rest).map (marked :: ·)

def row (a : Annotation) (code message : Markup.Marked) : List Markup.Marked :=
  [.plain a.location.toList, .plain a.severity.name.toList, code, message]

/-- The rows of findings, one below another. -/
def rows (annotations : List Annotation) (codes messages : List Markup.Marked) :
    List (List Markup.Marked) :=
  (annotations.zip (codes.zip messages)).map fun p => row p.1 p.2.1 p.2.2

def textsOf (rows : List (List Markup.Marked)) : List (List (List Char)) :=
  rows.map fun row => row.map Markup.Marked.text

/-- The fault of a cell in a column of a width, which has none where it shows nothing. -/
def cellFault? (width : Nat) (column : Layout.Column) (m : Markup.Marked) : Option Style.Fault :=
  if width ≤ Layout.padding then none
  else styleFault? (Layout.cellCut (width - Layout.padding) column.wraps column.overflow) m

def rowFault? (columns : List (Nat × Layout.Column)) (row : List Markup.Marked) : Option Style.Fault :=
  (columns.zip row).findSome? fun p => cellFault? p.1.1 p.1.2 p.2

/-- The title of a table; an empty name has none. -/
def titleLines (emoji : List Char → List Char) (document : List Char) :
    Except Markup.Fault (List (List Char)) :=
  if document.isEmpty then .ok [] else markedLines emoji document

def countText (counts : List (Severity × Nat)) : String :=
  ", ".intercalate <| (counts.filter fun c => c.2 ≠ 0).map fun c =>
    toString c.2 ++ " " ++ c.1.plainName

def summary (annotations : List Annotation) : String :=
  toString annotations.length ++ " issue(s): " ++
    countText (countBySeverity (annotations.map Annotation.issue))

/-- The line about issues that are not shown. -/
def skippedLines (skipped : List Issue) : List (List Char) :=
  if skipped.isEmpty then []
  else [(toString skipped.length ++ " issue(s) with invalid ranges were skipped").toList]

/-- The texts of a column that a table reads. None of its columns has room for text when there is none
beside the frame and the blanks of one. -/
def shownTexts (width : Nat) (texts : List (List Char)) : List (List Char) :=
  if width ≤ Layout.frame + Layout.padding then texts.map fun _ => [] else texts

/-- What stands for a half in a table that is laid out: a private character of a plane, which takes one
cell as a half does. -/
def standIn (plane : Nat) : CodePoint → Char
  | .scalar c => c
  | .half offset => Char.ofNat (0x10000 * plane + offset.val)

def standIns (plane : Nat) (t : Text) : List Char :=
  t.map (standIn plane)

/-- The text that is printed, from two spellings of it with stand-ins of different planes. -/
def restored (plane : Nat) (first second : List Char) : Text :=
  List.zipWith (fun c d => if c = d then .scalar c else .ofNat (c.toNat - 0x10000 * plane + 0xD800))
    first second

/-- The table of findings with stand-ins of a plane. All codes are read before all messages, and the title
comes after them; the styles of the cells are looked up last. -/
def laidOut (t : Console.Terminal) (plane : Nat) (document : List Char) (annotations : List Annotation) :
    Except Markup.Fault (List (List Char)) := do
  let codes ← readAll t.emoji (shownTexts t.columns (annotations.map fun a => a.issue.code.toList))
  let messages ←
    readAll t.emoji (shownTexts t.columns (annotations.map fun a => standIns plane a.issue.message))
  let title ← titleLines t.emoji document
  let rows := rows annotations codes messages
  match rows.findSome? (rowFault? (Layout.sizedColumns t.columns columns (textsOf rows))) with
  | some fault => .error (.style fault)
  | none => return title ++ Layout.tableLines t.columns columns (textsOf rows)

def firstPlane : Nat := 15

def secondPlane : Nat := 16

/-- The table of findings. A half is printed where the plane of the stand-ins makes a difference. -/
def findingLines (t : Console.Terminal) (document : List Char) (annotations : List Annotation) :
    Except Fault (List (List Char)) :=
  match laidOut t firstPlane document annotations, laidOut t secondPlane document annotations with
  | .error fault, _ => .error (.markup fault)
  | _, .error fault => .error (.markup fault)
  | .ok lines, .ok others =>
    match Text.encode .utf8 (restored firstPlane (Console.ended lines) (Console.ended others)) with
    | .error fault => .error (.unprintable fault)
    | .ok _ => .ok lines

def documentLine (colour document message : String) : List Char :=
  ("[" ++ colour ++ "]" ++ document ++ ": " ++ message ++ "[/]").toList

/-- The report of a document without findings. A terminal whose lines have no cells prints nothing. -/
def documentLines (t : Console.Terminal) (colour document message : String) :
    Except Fault (List (List Char)) :=
  match markedLines t.emoji (documentLine colour document message) with
  | .error fault => .error (.markup fault)
  | .ok lines => .ok (if t.columns = 0 then [] else lines)

end Report

namespace Projection

/-- The printed lines of a report. -/
def renderTable (p : Projection) (document : String) (t : Console.Terminal) :
    Except Report.Fault (List (List Char)) :=
  match p.notice with
  | some notice => Report.documentLines t "yellow" document notice.message
  | none =>
    if p.annotations.isEmpty then Report.documentLines t "green" document "no issues found"
    else if t.columns = 0 then .ok []
    else
      (Report.findingLines t document.toList p.annotations).map fun lines =>
        lines ++ (Report.summary p.annotations).toList :: Report.skippedLines p.skipped

end Projection

end ApiLint
