import ApiLint.Text.Lines
import ApiLint.Value

/-! Reading a JSON document. The reader stops at the first fault; a fault of form carries what was left
of the input there, from which `Fault.ofStop` computes line and column. Containers may lie at most
`deepest` levels inside one another, and a whole number may have at most `longestInteger` digits. -/

namespace ApiLint.Json

/-- What is wrong with the form of a document. -/
inductive Cause where
  | byteOrderMark
  | expectingValue
  | expectingComma
  | expectingColon
  | expectingName
  | extraData
  | unterminatedString
  | controlCharacter
  | escape
  | unicodeEscape
  deriving DecidableEq, Repr

def Cause.message : Cause → String
  | byteOrderMark => "Unexpected UTF-8 BOM (decode using utf-8-sig)"
  | expectingValue => "Expecting value"
  | expectingComma => "Expecting ',' delimiter"
  | expectingColon => "Expecting ':' delimiter"
  | expectingName => "Expecting property name enclosed in double quotes"
  | extraData => "Extra data"
  | unterminatedString => "Unterminated string starting at"
  | controlCharacter => "Invalid control character at"
  | escape => "Invalid \\escape"
  | unicodeEscape => "Invalid \\uXXXX escape"

/-- Why reading stopped; `rest` is the input from the place of the fault on. -/
inductive Stop where
  | malformed (cause : Cause) (rest : List Char)
  | tooDeep
  | longInteger (digits : Nat)
  deriving DecidableEq, Repr

/-- The levels that containers may lie inside one another. -/
def deepest : Nat := 990

/-- A text that was read, and the input after it. -/
abbrev TextRead := Except Stop (Text × List Char)

/-- A value that was read, and the input after it. -/
abbrev ValueRead := Except Stop (Value × List Char)

def fail {α : Type} (cause : Cause) (rest : List Char) : Except Stop α :=
  .error (.malformed cause rest)

def isSpace (c : Char) : Bool :=
  c = ' ' || c = '\t' || c = '\n' || c = '\r'

def skipSpace (cs : List Char) : List Char :=
  cs.dropWhile isSpace

/-- What a backslash and one more character stand for. -/
def simpleEscape : Char → Option Char
  | '"' => some '"'
  | '\\' => some '\\'
  | '/' => some '/'
  | 'b' => some '\x08'
  | 'f' => some '\x0c'
  | 'n' => some '\n'
  | 'r' => some '\r'
  | 't' => some '\t'
  | _ => none

/-- Two halves that stand side by side in the right order make one character. -/
def joinHalves : Text → Text
  | .half a :: .half b :: rest =>
    if a.val < 0x400 ∧ 0x400 ≤ b.val then
      .scalar (Char.ofNat (0x10000 + a.val * 0x400 + (b.val - 0x400))) :: joinHalves rest
    else .half a :: joinHalves (.half b :: rest)
  | x :: rest => x :: joinHalves rest
  | [] => []

/-- The rest of a string after its opening mark, with what was read of it in reverse; `opening` is the
input from the mark on. An escape of four digits must have input after it. -/
def string (opening : List Char) (read : Text) : List Char → TextRead
  | [] => fail .unterminatedString opening
  | '"' :: rest => .ok (joinHalves read.reverse, rest)
  | '\\' :: 'u' :: a :: b :: c :: d :: next :: rest =>
    match ofHexDigits? [a, b, c, d] with
    | none => fail .unicodeEscape ('u' :: a :: b :: c :: d :: next :: rest)
    | some n => string opening (CodePoint.ofNat n :: read) (next :: rest)
  | '\\' :: 'u' :: rest => fail .unicodeEscape ('u' :: rest)
  | ['\\'] => fail .unterminatedString opening
  | '\\' :: e :: rest =>
    match simpleEscape e with
    | some c => string opening (.scalar c :: read) rest
    | none => fail .escape ('\\' :: e :: rest)
  | c :: rest =>
    if c < ' ' then fail .controlCharacter (c :: rest)
    else string opening (.scalar c :: read) rest

/-- The digits of a fraction, if a point and a digit follow. -/
def fraction : List Char → Option (List Char × List Char)
  | '.' :: rest =>
    if (rest.takeWhile Char.isDigit).isEmpty then none
    else some (rest.takeWhile Char.isDigit, rest.dropWhile Char.isDigit)
  | _ => none

/-- The sign and the digits of an exponent, if one follows that has a digit. -/
def exponent : List Char → Option (Int × List Char)
  | e :: rest =>
    let (negative, rest) : Bool × List Char :=
      match rest with
      | '-' :: rest => (true, rest)
      | '+' :: rest => (false, rest)
      | rest => (false, rest)
    let ds := rest.takeWhile Char.isDigit
    if (e = 'e' ∨ e = 'E') ∧ !ds.isEmpty then
      some (if negative then -(ofDigits ds : Int) else ofDigits ds, rest.dropWhile Char.isDigit)
    else none
  | [] => none

def finishNumber (negative : Bool) (whole rest : List Char) : ValueRead :=
  match fraction rest, exponent ((fraction rest).elim rest Prod.snd) with
  | none, none =>
    if longestInteger < whole.length then .error (.longInteger whole.length)
    else .ok (.int (if negative then -(ofDigits whole : Int) else ofDigits whole), rest)
  | some (fs, rest), none => .ok (.float (Decimal.ofParts negative whole fs 0).toFloat, rest)
  | none, some (e, rest) => .ok (.float (Decimal.ofParts negative whole [] e).toFloat, rest)
  | some (fs, _), some (e, rest) => .ok (.float (Decimal.ofParts negative whole fs e).toFloat, rest)

def number (cs : List Char) : ValueRead :=
  let (negative, body) : Bool × List Char :=
    match cs with
    | '-' :: rest => (true, rest)
    | _ => (false, cs)
  match body with
  | '0' :: rest => finishNumber negative ['0'] rest
  | c :: rest =>
    if c.isDigit then
      finishNumber negative (c :: rest.takeWhile Char.isDigit) (rest.dropWhile Char.isDigit)
    else fail .expectingValue cs
  | [] => fail .expectingValue cs

/-- A value that is neither a string nor a container. -/
def atom : List Char → ValueRead
  | 'n' :: 'u' :: 'l' :: 'l' :: rest => .ok (.null, rest)
  | 't' :: 'r' :: 'u' :: 'e' :: rest => .ok (.bool true, rest)
  | 'f' :: 'a' :: 'l' :: 's' :: 'e' :: rest => .ok (.bool false, rest)
  | 'N' :: 'a' :: 'N' :: rest => .ok (.float (Float.ofBits 0x7ff8000000000000), rest)
  | 'I' :: 'n' :: 'f' :: 'i' :: 'n' :: 'i' :: 't' :: 'y' :: rest =>
    .ok (.float (Float.ofBits 0x7ff0000000000000), rest)
  | '-' :: 'I' :: 'n' :: 'f' :: 'i' :: 'n' :: 'i' :: 't' :: 'y' :: rest =>
    .ok (.float (Float.ofBits 0xfff0000000000000), rest)
  | cs => number cs

/-- The items of a list up to its closing bracket, with those already read in reverse. The number
bounds how many can follow. -/
def items (item : List Char → ValueRead) : Nat → List Value → List Char → ValueRead
  | 0, _, cs => fail .expectingValue cs
  | n + 1, read, cs => do
    let (v, rest) ← item cs
    match skipSpace rest with
    | ']' :: rest => return (.list (v :: read).reverse, rest)
    | ',' :: rest => items item n (v :: read) (skipSpace rest)
    | rest => fail .expectingComma rest

/-- The fields of a table up to its closing brace; the last value of a key counts. -/
def fields (item : List Char → ValueRead) : Nat → Fields → List Char → ValueRead
  | 0, _, cs => fail .expectingName cs
  | n + 1, read, cs =>
    match cs with
    | '"' :: rest => do
      let (key, rest) ← string cs [] rest
      match skipSpace rest with
      | ':' :: rest => do
        let (v, rest) ← item (skipSpace rest)
        match skipSpace rest with
        | '\x7d' :: rest => return (.table (read.put key v), rest)
        | ',' :: rest => fields item n (read.put key v) (skipSpace rest)
        | rest => fail .expectingComma rest
      | rest => fail .expectingColon rest
    | _ => fail .expectingName cs

/-- A value with at most so many levels of containers in it, none of which has more than `width`
members. -/
def value (width : Nat) : Nat → List Char → ValueRead
  | _, '"' :: rest => do
    let (t, rest) ← string ('"' :: rest) [] rest
    return (.text t, rest)
  | 0, '[' :: _ => .error .tooDeep
  | 0, '\x7b' :: _ => .error .tooDeep
  | depth + 1, '[' :: rest =>
    match skipSpace rest with
    | ']' :: rest => .ok (.list [], rest)
    | rest => items (value width depth) width [] rest
  | depth + 1, '\x7b' :: rest =>
    match skipSpace rest with
    | '\x7d' :: rest => .ok (.table [], rest)
    | rest => fields (value width depth) width [] rest
  | _, cs => atom cs

/-- Reads a whole document. -/
def readWith (depth : Nat) (cs : List Char) : Except Stop Value :=
  match cs with
  | '\ufeff' :: _ => fail .byteOrderMark cs
  | _ => do
    let (v, rest) ← value (cs.length + 1) depth (skipSpace cs)
    match skipSpace rest with
    | [] => return v
    | rest => fail .extraData rest

/-- Why a document cannot be read. -/
inductive Fault where
  | malformed (cause : Cause) (place : Text.Place)
  | tooDeep
  | longInteger (digits : Nat)
  deriving DecidableEq, Repr

def Fault.ofStop (cs : List Char) : Stop → Fault
  | .malformed cause rest => .malformed cause (.after (Text.before cs rest))
  | .tooDeep => .tooDeep
  | .longInteger n => .longInteger n

def read (cs : List Char) : Except Fault Value :=
  (readWith deepest cs).mapError (Fault.ofStop cs)

end ApiLint.Json
