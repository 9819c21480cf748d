import ApiLint.Text.Lines

/-! Paths of files. A path is written in one way only: without empty parts, without `.`, and without a
separator at its end. `resolve` leaves out the parts that `..` steps back over. -/

namespace ApiLint

/-- Where a path begins; two separators in front, and no more than two, are kept apart from one. -/
inductive Anchor where
  | relative
  | root
  | doubleRoot
  deriving DecidableEq, Repr

def Anchor.written : Anchor → List Char
  | relative => []
  | root => ['/']
  | doubleRoot => ['/', '/']

structure Path where
  anchor : Anchor
  parts : List (List Char)
  deriving DecidableEq, Repr

namespace Path

def anchorOf (cs : List Char) : Anchor :=
  match (cs.takeWhile (· = '/')).length with
  | 0 => .relative
  | 2 => .doubleRoot
  | _ => .root

def isStep (part : List Char) : Bool :=
  !part.isEmpty && part ≠ ['.']

def ofChars (cs : List Char) : Path :=
  ⟨anchorOf cs, (Text.splitAt '/' cs).filter isStep⟩

def ofString (s : String) : Path :=
  ofChars s.toList

/-- The text of a path; one without parts is the directory itself. -/
def chars (p : Path) : List Char :=
  let body := p.anchor.written ++ Text.joinWith ['/'] p.parts
  if body.isEmpty then ['.'] else body

def toString (p : Path) : String :=
  String.ofList p.chars

def isAbsolute (p : Path) : Bool :=
  p.anchor ≠ .relative

def join (directory p : Path) : Path :=
  if p.isAbsolute then p else ⟨directory.anchor, directory.parts ++ p.parts⟩

def child (directory : Path) (name : String) : Path :=
  directory.join (ofString name)

/-- Steps without `..`, where the steps so far are given in reverse. -/
def stepBack (walked : List (List Char)) : List (List Char) → List (List Char)
  | [] => walked.reverse
  | part :: parts =>
    if part = ['.', '.'] then stepBack walked.tail parts else stepBack (part :: walked) parts

/-- An absolute path with the same meaning and without `..`. -/
def resolve (directory p : Path) : Path :=
  ⟨.root, stepBack [] (directory.join p).parts⟩

end Path

end ApiLint
