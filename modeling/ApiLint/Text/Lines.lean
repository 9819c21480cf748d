/-! Where a text is blank, and the ways in which it falls into lines. `isWhite` is the Unicode property
White_Space, and `isBlank` adds the four information separators to it. `splitLines` knows eleven boundaries
and belongs to settings that list one item a line; `splitAt` cuts at one separator and keeps every piece.
`unifyNewlines` turns the three common terminators into one. -/

namespace ApiLint.Text

/-- The Unicode property White_Space. -/
def isWhite (c : Char) : Bool :=
  ('\x09' ≤ c && c ≤ '\x0d') || c = ' ' || c = '\x85' || c = '\u00a0' || c = '\u1680' ||
    ('\u2000' ≤ c && c ≤ '\u200a') || c = '\u2028' || c = '\u2029' || c = '\u202f' ||
    c = '\u205f' || c = '\u3000'

/-- White space, or one of the four information separators. -/
def isBlank (c : Char) : Bool :=
  isWhite c || ('\x1c' ≤ c && c ≤ '\x1f')

/-- A text without the characters of class `p` at its two ends. -/
def trimBy (p : Char → Bool) (cs : List Char) : List Char :=
  ((cs.dropWhile p).reverse.dropWhile p).reverse

def trim (cs : List Char) : List Char :=
  trimBy isBlank cs

/-- Whether a text has no character but blank ones. -/
def blank (cs : List Char) : Bool :=
  cs.all isBlank

/-- A character that ends a line; a carriage return and a line feed after it end one line together. -/
def isLineEnd (c : Char) : Bool :=
  ('\x0a' ≤ c && c ≤ '\x0d') || ('\x1c' ≤ c && c ≤ '\x1e') || c = '\x85' || c = '\u2028' ||
    c = '\u2029'

/-- The lines of a text without their terminators; a terminator at the very end opens no line. -/
def splitLines : List Char → List (List Char)
  | [] => []
  | '\r' :: '\n' :: rest => [] :: splitLines rest
  | c :: rest =>
    if isLineEnd c then [] :: splitLines rest
    else
      match splitLines rest with
      | [] => [[c]]
      | line :: lines => (c :: line) :: lines

/-- The pieces of a list between the elements equal to `sep`: always one more than there are of them. -/
def splitAt {α : Type} [DecidableEq α] (sep : α) : List α → List (List α)
  | [] => [[]]
  | x :: xs =>
    if x = sep then [] :: splitAt sep xs
    else
      match splitAt sep xs with
      | [] => [[x]]
      | piece :: pieces => (x :: piece) :: pieces

/-- The pieces joined again, with `sep` between neighbours. -/
def joinWith {α : Type} (sep : List α) : List (List α) → List α
  | [] => []
  | [piece] => piece
  | piece :: pieces => piece ++ sep ++ joinWith sep pieces

/-- Every carriage return, alone or before a line feed, becomes one line feed. -/
def unifyNewlines : List Char → List Char
  | [] => []
  | '\r' :: '\n' :: rest => '\n' :: unifyNewlines rest
  | c :: rest => (if c = '\r' then '\n' else c) :: unifyNewlines rest

def replace (c : Char) (new cs : List Char) : List Char :=
  cs.flatMap fun x => if x = c then new else [x]

/-- Whether a text stands somewhere inside another. -/
def occursIn (part : List Char) : List Char → Bool
  | [] => part.isEmpty
  | c :: cs => part.isPrefixOf (c :: cs) || occursIn part cs

/-- A place in a text, both numbers counted from one. -/
structure Place where
  line : Nat
  column : Nat
  deriving DecidableEq, Repr

/-- The place just after a text; only line feeds end a line. -/
def Place.after (read : List Char) : Place :=
  ⟨read.count '\n' + 1, (read.reverse.takeWhile (· ≠ '\n')).length + 1⟩

/-- What of a text lies before the rest of it. -/
def before (whole rest : List Char) : List Char :=
  whole.take (whole.length - rest.length)

@[simp] theorem before_append (front rest : List Char) : before (front ++ rest) rest = front := by
  simp [before]

theorem splitAt_ne_nil {α : Type} [DecidableEq α] (sep : α) (xs : List α) : splitAt sep xs ≠ [] := by
  cases xs with
  | nil => simp [splitAt]
  | cons x xs =>
    unfold splitAt
    split
    · simp
    · split <;> simp

end ApiLint.Text
