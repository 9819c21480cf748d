import ApiLint.Text.Cluster
import ApiLint.Text.Lines

/-! What a terminal shows of a text: the lines between its line feeds, without the characters that move
the cursor, and with spaces in the place of tabs. -/

namespace ApiLint.Console

/-- What is printed on: the cells of a line, and what is put in the place of the emoji codes of a text. It
takes all characters, but no half of a pair. -/
structure Terminal where
  columns : Nat
  emoji : List Char → List Char

/-- A terminal that leaves emoji codes as they are, unless they are wished for. -/
def Terminal.withEmoji (t : Terminal) (wished : Bool) : Terminal :=
  if wished then t else { t with emoji := id }

/-- Characters that a console does not print. -/
def isDropped (c : Char) : Bool :=
  c = '\x07' || c = '\x08' || c = '\x0b' || c = '\x0c' || c = '\x0d'

def printed (cs : List Char) : List Char :=
  cs.filter fun c => !isDropped c

/-- How far the places lie apart that a tab goes to. -/
def tabSize : Nat := 8

/-- The parts of a line, which tabs end, with spaces for the tabs. The first part starts at `column`, and
each tab is one space at least. -/
def filledParts (column : Nat) : List (List Char) → List (List Char)
  | [] => []
  | [part] => if part.isEmpty then [] else [part]
  | part :: next :: rest =>
    let reached := column + Text.width (part ++ [' '])
    let spaces := (tabSize - reached % tabSize) % tabSize
    (part ++ List.replicate (spaces + 1) ' ') :: filledParts (reached + spaces) (next :: rest)

def tabParts (line : List Char) : List (List Char) :=
  filledParts 0 (Text.splitAt '\t' line)

def expandTabs (line : List Char) : List Char :=
  (tabParts line).flatten

/-- The lines of a text as they are printed. -/
def lines (cs : List Char) : List (List Char) :=
  (Text.splitAt '\n' (printed cs)).map expandTabs

end ApiLint.Console
