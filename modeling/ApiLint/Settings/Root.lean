import ApiLint.Files.Path
import ApiLint.Text.Encoding

/-! The name of a project root. The system is asked about every step on the way to it, and there are names
that it cannot be asked about. -/

namespace ApiLint

namespace Text

/-- Whether a code point can stand in the name of a file. Some halves can: they stand for bytes that are
no text. -/
def isInName : CodePoint → Bool
  | .scalar _ => true
  | .half offset => 0x480 ≤ offset.val && offset.val < 0x500

/-- The first run of code points for which a name has no bytes. -/
def nameFault? (t : Text) : Option EncodingFault :=
  match t.dropWhile isInName with
  | [] => none
  | x :: rest => some ⟨.utf8, (t.takeWhile isInName).length, x, faultLength .utf8 (x :: rest)⟩

end Text

namespace Path

/-- Why the system has no name for a place. -/
inductive NamingFault where
  | encoding (fault : Text.EncodingFault)
  | nullCharacter
  deriving DecidableEq, Repr

def NamingFault.message : NamingFault → String
  | encoding fault => fault.message
  | nullCharacter => "embedded null byte"

/-- The steps that a text names, some of which may be `..`. -/
def steps (t : Text) : List Text :=
  (Text.splitAt (.scalar '/') t).filter fun step => !step.isEmpty && step ≠ [.scalar '.']

/-- The text of the path that a text names. -/
def nameText (t : Text) : Text :=
  let body := Text.ofChars (anchorOf (Text.shown t)).written ++ Text.joinWith [.scalar '/'] (steps t)
  if body.isEmpty then [.scalar '.'] else body

/-- The name of the place that steps lead to, which are given in reverse. -/
def nameOf (walked : List Text) : Text :=
  walked.reverse.flatMap (.scalar '/' :: ·)

/-- The first fault on a way, where the steps so far are given in reverse. -/
def namingFault? (walked : List Text) : List Text → Option NamingFault
  | [] => none
  | step :: more =>
    if step = Text.ofString ".." then namingFault? walked.tail more
    else
      match Text.nameFault? (nameOf (step :: walked)) with
      | some fault => some (.encoding fault)
      | none =>
        if .scalar '\x00' ∈ step then some .nullCharacter else namingFault? (step :: walked) more

end Path

end ApiLint
