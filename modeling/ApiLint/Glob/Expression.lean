import ApiLint.Glob.Segment
import ApiLint.Text.CodePoint

/-! Patterns for one segment as regular expressions. A pattern is written as an expression, the expression
is read, and what is read is matched against a whole segment, going back to an earlier choice where the last
one fails. Names of files need not be text, so a segment here is a sequence of code points. -/

namespace ApiLint.Glob

/-- The wildcard for any code points. -/
def star : CodePoint := .scalar '*'

/-- The wildcard for a single code point. -/
def one : CodePoint := .scalar '?'

namespace Expression

/-- What is asked of one code point. -/
inductive Atom where
  /-- Any code point, the end of a line too. -/
  | any
  | just (x : CodePoint)
  deriving DecidableEq, Repr

/-- A part of an expression: an atom once, or any number of times. -/
inductive Item where
  | once (a : Atom)
  | many (a : Atom)
  deriving DecidableEq, Repr

/-- The code points that are written with a backslash in front: those with a meaning in some expression. -/
def marked : Text :=
  Text.ofString "()[]\x7b\x7d?*+-|^$\\.&~# \t\n\r\x0b\x0c"

/-- A code point as it is written to stand for itself. -/
def escape (x : CodePoint) : Text :=
  if x ∈ marked then [.scalar '\\', x] else [x]

/-- A pattern as an expression. -/
def written (pattern : Text) : Text :=
  pattern.flatMap fun x =>
    if x = star then Text.ofString ".*" else if x = one then Text.ofString "." else escape x

/-- What stands in an expression: an atom, or the star that repeats the atom before it. -/
inductive Mark where
  | atom (a : Atom)
  | star
  deriving DecidableEq, Repr

/-- The code points that open forms which are not read here: groups, classes, bounds, choices, anchors. -/
def isOpening (x : CodePoint) : Bool :=
  x ∈ Text.ofString "()[\x7b?+|^$\\"

/-- Whether a backslash gives a code point a meaning of its own. -/
def isNamed : CodePoint → Bool
  | .scalar c => c.isAlphanum
  | .half _ => false

def plainMark? (x : CodePoint) : Option Mark :=
  if x = .scalar '.' then some (.atom .any)
  else if x = .scalar '*' then some .star
  else if isOpening x then none
  else some (.atom (.just x))

def marks? : Text → Option (List Mark)
  | [] => some []
  | .scalar '\\' :: x :: rest => if isNamed x then none else (marks? rest).map (.atom (.just x) :: ·)
  | x :: rest => (plainMark? x).bind fun mark => (marks? rest).map (mark :: ·)

/-- Each atom with the star behind it, if there is one; a star repeats nothing but an atom. -/
def items? : List Mark → Option (List Item)
  | [] => some []
  | .atom a :: .star :: rest => (items? rest).map (.many a :: ·)
  | .atom a :: rest => (items? rest).map (.once a :: ·)
  | .star :: _ => none

def read? (expression : Text) : Option (List Item) :=
  (marks? expression).bind items?

def Atom.accepts : Atom → CodePoint → Bool
  | any, _ => true
  | just x, y => x = y

/-- Takes as many code points as an atom accepts, and fewer when what follows does not match then. -/
def takes (a : Atom) (next : Text → Bool) : Text → Bool
  | [] => next []
  | x :: rest => (a.accepts x && takes a next rest) || next (x :: rest)

/-- Whether the parts of an expression match a whole segment. -/
def fits : List Item → Text → Bool
  | [], segment => segment.isEmpty
  | .once _ :: _, [] => false
  | .once a :: items, x :: rest => a.accepts x && fits items rest
  | .many a :: items, segment => takes a (fits items) segment

/-- Whether a pattern, as an expression, matches a whole segment. -/
def matchesWhole (pattern segment : Text) : Bool :=
  (read? (written pattern)).any fun items => fits items segment

end Expression

/-- Whether a pattern matches a whole segment of a name; one without wildcards is compared as it stands. -/
def matchesName (pattern segment : Text) : Bool :=
  if pattern.any fun x => x = star || x = one then Expression.matchesWhole pattern segment
  else pattern = segment

end ApiLint.Glob
