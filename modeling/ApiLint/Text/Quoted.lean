import ApiLint.Decimal.Basic
import ApiLint.Text.CodePoint
import ApiLint.Text.Printable

/-! Quoted texts in messages. A text stands between apostrophes, or between quotation marks when it
holds an apostrophe and no quotation mark; what has no printable form is written as an escape. -/

namespace ApiLint.Text

def quoteMark (t : Text) : Char :=
  if .scalar '\'' ∈ t ∧ .scalar '"' ∉ t then '"' else '\''

/-- A code point as an escape of two, four or eight hexadecimal digits, whichever is the least that
holds it. -/
def numberedEscape (n : Nat) : List Char :=
  if n < 0x100 then '\\' :: 'x' :: hexDigits 2 n
  else if n < 0x10000 then '\\' :: 'u' :: hexDigits 4 n
  else '\\' :: 'U' :: hexDigits 8 n

def quotedChar (mark c : Char) : List Char :=
  if c = mark ∨ c = '\\' then ['\\', c]
  else if c = '\n' then ['\\', 'n']
  else if c = '\r' then ['\\', 'r']
  else if c = '\t' then ['\\', 't']
  else if isPrintable c then [c]
  else numberedEscape c.toNat

def quotedPoint (mark : Char) : CodePoint → List Char
  | .scalar c => quotedChar mark c
  | half@(.half _) => numberedEscape half.toNat

/-- A text between its quotation marks. -/
def quoted (t : Text) : List Char :=
  let mark := quoteMark t
  mark :: t.flatMap (quotedPoint mark) ++ [mark]

/-- A text as it is shown, where half a pair that stands alone is written as an escape. -/
def shown (t : Text) : List Char :=
  t.flatMap fun
    | .scalar c => [c]
    | half@(.half _) => numberedEscape half.toNat

/-- Written items between two brackets, with a comma and a space between neighbours. -/
def bracketed (opening closing : Char) (items : List (List Char)) : List Char :=
  opening :: List.intercalate [',', ' '] items ++ [closing]

/-- A list of texts as it stands in a message. -/
def quotedList (ts : List Text) : String :=
  String.ofList (bracketed '[' ']' (ts.map quoted))

def quotedString (s : String) : String :=
  String.ofList (quoted (ofString s))

@[simp] theorem shown_ofChars (cs : List Char) : shown (ofChars cs) = cs := by
  induction cs with
  | nil => rfl
  | cons c cs ih => simpa [shown, ofChars] using ih

end ApiLint.Text
