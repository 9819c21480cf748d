import ApiLint.Text.Quoted

/-! Why a text is not a literal. Most causes lie in how it is written; a few lie in what it stands for. -/

namespace ApiLint.Literal

inductive Fault where
  | unexpected
  | commaMissing
  | elseMissing
  | callMissing (name : List Char)
  | equality
  | assigned (kind : String)
  | named (kind : String)
  | keywordConstant (name : List Char)
  | keywordExpression
  | positionalAfterKeyword
  | positionalAfterUnpacking
  | starMissing
  | starredGroup
  | doubleStarredGroup
  | starredValue
  | valueMissing
  | colonMissing
  | indented
  | neverClosed (opening : Char)
  | unmatched (closing : Char)
  | mismatched (closing opening : Char) (line : Option Nat)
  | tooDeep
  | unterminated (threefold : Bool) (line : Nat)
  | continued
  | number (kind : String)
  | digit (c : Char) (kind : String)
  | leadingZeros
  | character (c : Char)
  | mixedBytes
  | bytesNotAscii
  | byteEscape (position : Nat)
  | escape (first last : Nat) (shape : String)
  | largeCharacter (first last : Nat)
  | nullCharacter
  | unhashable (kind : String)
  | notConstant
  | keyMissing
  deriving DecidableEq, Repr

namespace Fault

/-- Whether the cause lies in how the text is written. -/
def inNotation : Fault → Bool
  | nullCharacter | unhashable _ | notConstant | keyMissing => false
  | _ => true

/-- A character in apostrophes. -/
def marked (c : Char) : String :=
  "'" ++ c.toString ++ "'"

/-- The number of a character, in four hexadecimal digits or as many as it takes. -/
def codeName (c : Char) : String :=
  let digits := if c.toNat < 0x10000 then 4 else if c.toNat < 0x100000 then 5 else 6
  "U+" ++ String.ofList ((hexDigits digits c.toNat).map Char.toUpper)

/-- The beginning of a message about an escape. -/
def escapeText (first last : Nat) : String :=
  "(unicode error) 'unicodeescape' codec can't decode bytes in position " ++ toString first ++ "-" ++
    toString last ++ ": "

def message : Fault → String
  | unexpected => "invalid syntax"
  | commaMissing => "invalid syntax. Perhaps you forgot a comma?"
  | elseMissing => "expected 'else' after 'if' expression"
  | callMissing name =>
    "Missing parentheses in call to '" ++ String.ofList name ++ "'. Did you mean " ++
      String.ofList name ++ "(...)?"
  | equality => "invalid syntax. Maybe you meant '==' or ':=' instead of '='?"
  | assigned kind => "cannot assign to " ++ kind ++ " here. Maybe you meant '==' instead of '='?"
  | named kind => "cannot use assignment expressions with " ++ kind
  | keywordConstant name => "cannot assign to " ++ String.ofList name
  | keywordExpression => "expression cannot contain assignment, perhaps you meant \"==\"?"
  | positionalAfterKeyword => "positional argument follows keyword argument"
  | positionalAfterUnpacking => "positional argument follows keyword argument unpacking"
  | starMissing => "Invalid star expression"
  | starredGroup => "cannot use starred expression here"
  | doubleStarredGroup => "cannot use double starred expression here"
  | starredValue => "cannot use a starred expression in a dictionary value"
  | valueMissing => "expression expected after dictionary key and ':'"
  | colonMissing => "':' expected after dictionary key"
  | indented => "unexpected indent"
  | neverClosed opening => marked opening ++ " was never closed"
  | unmatched closing => "unmatched " ++ marked closing
  | mismatched closing opening line =>
    "closing parenthesis " ++ marked closing ++ " does not match opening parenthesis " ++
      marked opening ++ (line.map fun n => " on line " ++ toString n).getD ""
  | tooDeep => "too many nested parentheses"
  | unterminated threefold line =>
    (if threefold then "unterminated triple-quoted string literal" else "unterminated string literal") ++
      " (detected at line " ++ toString line ++ ")"
  | continued => "unexpected character after line continuation character"
  | number kind => "invalid " ++ kind ++ " literal"
  | digit c kind => "invalid digit " ++ marked c ++ " in " ++ kind ++ " literal"
  | leadingZeros =>
    "leading zeros in decimal integer literals are not permitted; use an 0o prefix for octal integers"
  | character c =>
    if Text.isPrintable c then "invalid character " ++ marked c ++ " (" ++ codeName c ++ ")"
    else "invalid non-printable character " ++ codeName c
  | mixedBytes => "cannot mix bytes and nonbytes literals"
  | bytesNotAscii => "bytes can only contain ASCII literal characters"
  | byteEscape position => "(value error) invalid \\x escape at position " ++ toString position
  | escape first last shape => escapeText first last ++ "truncated \\" ++ shape ++ " escape"
  | largeCharacter first last => escapeText first last ++ "illegal Unicode character"
  | nullCharacter => "source code string cannot contain null bytes"
  | unhashable kind => "unhashable type: '" ++ kind ++ "'"
  | notConstant => "malformed node or string"
  | keyMissing => "malformed node or string: None"

end Fault

end ApiLint.Literal
