import ApiLint.Schema.Fault
import ApiLint.Text.Lines
import ApiLint.Value

/-! Numbers as a schema takes them: a truth value counts as one or zero, a double without a fraction
as a whole number, and a text as the number that it spells between its blank ends. -/

namespace ApiLint.Schema

/-- The sign of a text, and the text after it. -/
def splitSign : List Char → Bool × List Char
  | '-' :: rest => (true, rest)
  | '+' :: rest => (false, rest)
  | rest => (false, rest)

/-- A number behind its leading zeros, of which `zero` is the last character. Underscores may stand among
the zeros, and a minus sign may follow them. Before a point and at the end one character is kept. -/
def afterZeros? (zero : Char) : List Char → Option (List Char)
  | [] => some [zero]
  | c :: rest =>
    if c = '0' || c = '_' then afterZeros? c rest
    else if c = '.' then some (zero :: c :: rest)
    else if c = '-' || c.isDigit then some (c :: rest)
    else none

/-- A number without its leading zeros, when the text begins with a digit. -/
def withoutZeros? : List Char → Option (List Char)
  | [] => none
  | c :: rest =>
    if c = '0' then afterZeros? c rest else if c.isDigit then some (c :: rest) else none

/-- A number without its fraction, if that consists of zeros. -/
def withoutFraction (cs : List Char) : List Char :=
  let zeros := (cs.dropWhile (· ≠ '.')).tail
  if !zeros.isEmpty && zeros.all (· = '0') then cs.takeWhile (· ≠ '.') else cs

/-- Whether every underscore of a text stands alone and inside it. -/
def underscoresInside (cs : List Char) : Bool :=
  cs.head? ≠ some '_' && cs.getLast? ≠ some '_' && !(cs.zip cs.tail).contains ('_', '_')

/-- A number without underscores, if each stands alone and inside it. -/
def withoutUnderscores (cs : List Char) : List Char :=
  if underscoresInside cs then cs.filter (· ≠ '_') else cs

/-- The plain spelling of a whole number: without a plus sign, leading zeros, a fraction of zeros, and
underscores. -/
def plainWhole? (cs : List Char) : Option (List Char) :=
  let (negative, body) := splitSign cs
  (withoutZeros? body).map fun body =>
    let plain := withoutUnderscores (withoutFraction body)
    if negative then '-' :: plain else plain

/-- The number that a plain spelling stands for: digits of which the first is no zero, or one zero, with
or without a minus sign. It may take `longestInteger` characters. -/
def wholeOfPlain (cs : List Char) : Except Rule Int :=
  let (negative, body) := splitSign cs
  let ds := body.takeWhile Char.isDigit
  let behind := body.dropWhile Char.isDigit
  if ds.isEmpty || (ds.head? = some '0' && 1 < ds.length) then .error .wholeText
  else if longestInteger < cs.length - behind.length then .error .wholeSize
  else if !behind.isEmpty then .error .wholeText
  else .ok (if negative then -(ofDigits ds : Int) else ofDigits ds)

def wholeOfChars (cs : List Char) : Except Rule Int :=
  match plainWhole? (Text.trimBy Text.isWhite cs) with
  | some plain => wholeOfPlain plain
  | none => .error .wholeText

/-- A double counts as a whole number only strictly between these bounds. -/
def doubleBound : Int := Int.pow 2 63

def wholeOfFloat (x : Float) : Except Rule Int :=
  match Double.ofFloat? x with
  | none => .error .finite
  | some d =>
    match d.toInt? with
    | none => .error .wholeFraction
    | some n => if -doubleBound < n ∧ n < doubleBound then .ok n else .error .wholeSize

def whole : Value → Except Rule Int
  | .int n => .ok n
  | .bool b => .ok (if b then 1 else 0)
  | .float x => wholeOfFloat x
  | .text t =>
    match t.scalars? with
    | some cs => wholeOfChars cs
    | none => .error .unicodeString
  | _ => .error .whole

/-- The names of the numbers that are written with letters. -/
def namedFloat? (cs : List Char) : Option Float :=
  let name := cs.map Char.toLower
  if name = "inf".toList ∨ name = "infinity".toList then some (Float.ofBits 0x7ff0000000000000)
  else if name = "nan".toList then some (Float.ofBits 0x7ff8000000000000)
  else none

/-- The power of ten that the end of a number gives: nothing, or a mark and signed digits. -/
def power? : List Char → Option Int
  | [] => some 0
  | e :: rest =>
    let (negative, ds) := splitSign rest
    if (e = 'e' ∨ e = 'E') ∧ !ds.isEmpty ∧ ds.all Char.isDigit then
      some (if negative then -(ofDigits ds : Int) else ofDigits ds)
    else none

/-- A decimal without its sign: digits with a point before, between or after them, and a power. -/
def decimalFloat? (negative : Bool) (cs : List Char) : Option Float :=
  let whole := cs.takeWhile Char.isDigit
  let rest := cs.dropWhile Char.isDigit
  let (fraction, rest) : List Char × List Char :=
    match rest with
    | '.' :: tail => (tail.takeWhile Char.isDigit, tail.dropWhile Char.isDigit)
    | _ => ([], rest)
  if whole.isEmpty ∧ fraction.isEmpty then none
  else (power? rest).map fun power => (Decimal.ofParts negative whole fraction power).toFloat

def plainFloat? (cs : List Char) : Option Float :=
  let (negative, body) := splitSign cs
  match namedFloat? body with
  | some x => some (if negative then -x else x)
  | none => decimalFloat? negative body

def floatOfChars (cs : List Char) : Except Rule Float :=
  match plainFloat? (Text.trimBy Text.isWhite cs) with
  | some x => .ok x
  | none =>
    if cs.contains '_' && underscoresInside cs then
      match plainFloat? (Text.trimBy Text.isWhite (cs.filter (· ≠ '_'))) with
      | some x => .ok x
      | none => .error .numberText
    else .error .numberText

def float : Value → Except Rule Float
  | .float x => .ok x
  | .int n => if (floatOfInt n).isInf then .error .number else .ok (floatOfInt n)
  | .bool b => .ok (floatOfInt (if b then 1 else 0))
  | .text t =>
    match t.scalars? with
    | some cs => floatOfChars cs
    | none => .error .unicodeString
  | _ => .error .number

/-- A number that is not greater than zero is refused, and so is one that compares with none. -/
def positiveFloat (v : Value) : Except Rule Float := do
  let x ← float v
  if x > 0 then .ok x else .error .positive

end ApiLint.Schema
