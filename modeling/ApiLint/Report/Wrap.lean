import ApiLint.Console.Line
import ApiLint.Text.Lines

/-! Text in the cells of a table. A line that is too long breaks between words; a word that is too long
by itself is folded or cut short, and what is too short is filled up with spaces. A part of the text is
lost when none of its characters is left, and an empty part when the text is divided. -/

namespace ApiLint.Layout

/-- What happens to a word that is longer than the line. -/
inductive Overflow where
  | fold
  | ellipsis
  deriving DecidableEq, Repr

/-- Runs of blanks joined to the word before them. -/
def attachBlanks : List (List Char) → List (List Char)
  | word :: blanks :: rest => (word ++ blanks) :: attachBlanks rest
  | groups => groups

/-- The words of a line, each with the blanks behind it; blanks in front go to the first word. -/
def words (cs : List Char) : List (List Char) :=
  match cs.splitBy fun a b => Text.isBlank a = Text.isBlank b with
  | blanks :: word :: rest =>
    if blanks.all Text.isBlank then attachBlanks ((blanks ++ word) :: rest)
    else attachBlanks (blanks :: word :: rest)
  | groups => groups

/-- Cuts clusters into pieces of at most `n` cells; `piece` is the piece under way, which has `cells`. -/
def chopFrom (n : Nat) (piece : List Char) (cells : Nat) : List Text.Cluster → List (List Char)
  | [] => [piece]
  | k :: rest =>
    if n < cells + k.cells then piece :: chopFrom n k.chars k.cells rest
    else chopFrom n (piece ++ k.chars) (cells + k.cells) rest

/-- The pieces of at most `n` cells that a word is cut into. -/
def chop (n : Nat) (word : List Char) : List (List Char) :=
  chopFrom n [] 0 (Text.clusters word)

/-- The state of breaking a line: the pieces that are done, in reverse, the piece under way, and the
cells that count as used in it. -/
structure Breaking where
  done : List (List Char)
  line : List Char
  cells : Nat

namespace Breaking

def started (b : Breaking) : Bool :=
  !b.done.isEmpty || !b.line.isEmpty

/-- Ends the piece under way, unless nothing was read yet. -/
def next (b : Breaking) : Breaking :=
  if b.started then { b with done := b.line :: b.done, line := [] } else b

def add (b : Breaking) (cs : List Char) : Breaking :=
  { b with line := b.line ++ cs }

/-- Adds the pieces of a word that no line can hold. -/
def addFolded (b : Breaking) (pieces : List (List Char)) : Breaking :=
  let b := pieces.foldl (fun b piece => b.next.add piece) b
  { b with cells := Text.width (pieces.getLast?.getD []) }

/-- Adds one word to a line of `n` cells. A word that is longer than the line begins a piece of its own;
if it is cut short there, its whole width still counts as used. -/
def addWord (n : Nat) (overflow : Overflow) (b : Breaking) (word : List Char) : Breaking :=
  let size := Text.width (word.reverse.dropWhile Text.isBlank).reverse
  if b.cells + size ≤ n then { b.add word with cells := b.cells + Text.width word }
  else if n < size ∧ overflow = .fold then b.addFolded (chop n word)
  else { b.next.add word with cells := Text.width word }

def pieces (b : Breaking) : List (List Char) :=
  (b.line :: b.done).reverse

end Breaking

/-- The pieces that a line is broken into. -/
def breakLine (n : Nat) (overflow : Overflow) (cs : List Char) : List (List Char) :=
  ((words cs).foldl (Breaking.addWord n overflow) ⟨[], [], 0⟩).pieces

/-- A line without the blanks at its end that reach beyond `n` characters. -/
def trimEnd (n : Nat) (cs : List Char) : List Char :=
  let blanks := (cs.reverse.takeWhile Text.isBlank).length
  cs.take (cs.length - min blanks (cs.length - n))

/-- The beginning of a text that takes `n` cells; a space stands for the half of a wide cluster. -/
def takeCells : Nat → List Text.Cluster → List Char
  | 0, _ => []
  | _, [] => []
  | n, k :: rest => if n < k.cells then [' '] else k.chars ++ takeCells (n - k.cells) rest

/-- A line filled up with spaces to `n` cells. -/
def fill (n : Nat) (cs : List Char) : List Char :=
  cs ++ List.replicate (n - Text.width cs) ' '

/-- A line of `n` cells at most: cut short when it is longer and filled up when it is shorter. -/
def clip (n : Nat) (overflow : Overflow) (cs : List Char) : List Char :=
  if Text.width cs ≤ n then fill n cs
  else
    match overflow with
    | .fold => takeCells n (Text.clusters cs)
    | .ellipsis => takeCells (n - 1) (Text.clusters cs) ++ ['…']

/-- A line of `n` cells. What it lacks is filled up a second time, since a joiner at the end of a line
takes the first space in. -/
def fit (n : Nat) (overflow : Overflow) (cs : List Char) : List Char :=
  fill n (clip n overflow cs)

/-- The pieces that a line of a cell is broken into. -/
def linePieces (n : Nat) (wraps : Bool) (overflow : Overflow) (line : List Char) : List (List Char) :=
  if wraps then breakLine n overflow line else [line]

def cellLines (n : Nat) (wraps : Bool) (overflow : Overflow) (content : List Char) :
    List (List Char) :=
  (Text.splitAt '\n' content).flatMap fun line =>
    (linePieces n wraps overflow (Console.expandTabs line)).map fun piece => fit n overflow (trimEnd n piece)

/-- How a line is cut: the lengths of its pieces, and how much of each is left. -/
abbrev Cut := List Char → List (Nat × Nat)

/-- A line that is printed as it is. -/
def whole : Cut := fun line => [(line.length, line.length)]

/-- How a line is cut in a cell of `n` cells. -/
def cellCut (n : Nat) (wraps : Bool) (overflow : Overflow) : Cut := fun line =>
  (linePieces n wraps overflow line).map fun piece =>
    let trimmed := trimEnd n piece
    (piece.length, min trimmed.length (clip n overflow trimmed).length)

/-- The places of the characters of a line from an offset on, a tab as often as it takes spaces. -/
def filledPlaces (offset : Nat) (line : List Char) : List Nat :=
  (List.range line.length).flatMap fun i =>
    let before := (Console.expandTabs (line.take i)).length
    List.replicate ((Console.expandTabs (line.take (i + 1))).length - before) (offset + i)

def keptPlaces : List (Nat × Nat) → List Nat → List Nat
  | [], _ => []
  | (length, kept) :: rest, places => places.take kept ++ keptPlaces rest (places.drop length)

/-- The places of the characters that are left of lines, of which the first begins at an offset. -/
def shownPlaces (cut : Cut) (offset : Nat) : List (List Char) → List Nat
  | [] => []
  | line :: rest =>
    keptPlaces (cut (Console.expandTabs line)) (filledPlaces offset line) ++
      shownPlaces cut (offset + line.length + 1) rest

/-- A text is left in one piece behind a place, which must not be cut off. -/
def undivided (cut : Cut) (content : List Char) (place : Nat) : Bool :=
  !content.contains '\n' && !content.contains '\t' &&
    match cut content with
    | [(length, kept)] => kept = length || place < kept
    | _ => false

/-- A part of a text is left when the text is cut. -/
def keeps (cut : Cut) (content : List Char) (start stop : Nat) : Bool :=
  if start < stop then
    (shownPlaces cut 0 (Text.splitAt '\n' content)).any fun place => start ≤ place && place < stop
  else undivided cut content start

end ApiLint.Layout
