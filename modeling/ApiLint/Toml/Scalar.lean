import ApiLint.Toml.Chars
import ApiLint.Value

/-! Numbers, dates and times of day in a TOML file. -/

namespace ApiLint.Toml

/-- A value that was read, and the input after it. -/
abbrev ValueRead := Except Stop (Value × List Char)

/-- A number of two digits within bounds. -/
def twoDigits? (low high : Nat) : List Char → Option (Nat × List Char)
  | a :: b :: rest =>
    if a.isDigit && b.isDigit && low ≤ ofDigits [a, b] && ofDigits [a, b] ≤ high then
      some (ofDigits [a, b], rest)
    else none
  | _ => none

def markedDigits? (mark : Char) (low high : Nat) : List Char → Option (Nat × List Char)
  | c :: rest => if c = mark then twoDigits? low high rest else none
  | [] => none

/-- The digits of a fraction of a second; those after the sixth do not count. -/
def microseconds : List Char → Nat × List Char
  | '.' :: rest =>
    let ds := rest.takeWhile Char.isDigit
    if ds.isEmpty then (0, '.' :: rest)
    else (ofDigits ((ds ++ List.replicate 6 '0').take 6), rest.dropWhile Char.isDigit)
  | rest => (0, rest)

def time? (cs : List Char) : Option (TimeOfDay × List Char) := do
  let (hour, rest) ← twoDigits? 0 23 cs
  let (minute, rest) ← markedDigits? ':' 0 59 rest
  let (second, rest) ← markedDigits? ':' 0 59 rest
  let (micros, rest) := microseconds rest
  return (⟨hour, minute, second, micros⟩, rest)

/-- A day, which need not be one of the calendar. -/
def date? : List Char → Option (Date × List Char)
  | a :: b :: c :: d :: rest =>
    if a.isDigit && b.isDigit && c.isDigit && d.isDigit then do
      let (month, rest) ← markedDigits? '-' 1 12 rest
      let (day, rest) ← markedDigits? '-' 1 31 rest
      return (⟨ofDigits [a, b, c, d], month, day⟩, rest)
    else none
  | _ => none

/-- A distance from the prime meridian in minutes, if one follows. -/
def offset? : List Char → Option (Int × List Char)
  | sign :: rest =>
    if sign = 'Z' ∨ sign = 'z' then some (0, rest)
    else if sign = '+' ∨ sign = '-' then do
      let (hour, rest) ← twoDigits? 0 23 rest
      let (minute, rest) ← markedDigits? ':' 0 59 rest
      let minutes : Int := hour * 60 + minute
      return (if sign = '-' then -minutes else minutes, rest)
    else none
  | [] => none

def timeAfterDate? : List Char → Option (TimeOfDay × List Char)
  | c :: rest => if c = 'T' ∨ c = 't' ∨ c = ' ' then time? rest else none
  | [] => none

def momentAfter (date : Date) (rest : List Char) : Value × List Char :=
  match timeAfterDate? rest with
  | none => (.date date, rest)
  | some (time, rest) =>
    match offset? rest with
    | none => (.moment ⟨date, time, none⟩, rest)
    | some (minutes, rest) => (.moment ⟨date, time, some minutes⟩, rest)

/-- A date, alone or with a time, if one stands here. -/
def moment? (cs : List Char) : Option ValueRead :=
  (date? cs).map fun (date, rest) =>
    if date.valid then .ok (momentAfter date rest) else fail .invalidDate cs

/-- A digit in front of digits that were read. -/
def consDigit (c : Char) (r : List Char × List Char) : List Char × List Char :=
  (c :: r.1, r.2)

/-- Digits of a class with single underscores between them; the underscores are left out. -/
def groupedDigits (p : Char → Bool) : List Char → List Char × List Char
  | c :: '_' :: d :: rest =>
    if p c && p d then consDigit c (groupedDigits p (d :: rest))
    else if p c then ([c], '_' :: d :: rest)
    else ([], c :: '_' :: d :: rest)
  | c :: rest => if p c then consDigit c (groupedDigits p rest) else ([], c :: rest)
  | [] => ([], [])

/-- A whole number in another base than ten. -/
def prefixed? : List Char → Option (Value × List Char)
  | '0' :: mark :: rest =>
    let digitsOf (base : Nat) : Option (Value × List Char) :=
      let r := groupedDigits (fun c => (hexDigit? c).any fun d => d < base) rest
      if r.1.isEmpty then none
      else some (.int (r.1.foldl (fun n c => base * n + (hexDigit? c).getD 0) 0), r.2)
    if mark = 'x' then digitsOf 16
    else if mark = 'o' then digitsOf 8
    else if mark = 'b' then digitsOf 2
    else none
  | _ => none

def splitSign : List Char → Bool × List Char
  | '-' :: rest => (true, rest)
  | '+' :: rest => (false, rest)
  | rest => (false, rest)

/-- The digits of the whole part of a decimal number: one zero, or digits of which the first is none. -/
def wholeDigits : List Char → List Char × List Char
  | '0' :: rest => (['0'], rest)
  | cs => groupedDigits Char.isDigit cs

/-- The digits of a fraction, if a point and a digit follow. -/
def fraction? : List Char → Option (List Char × List Char)
  | '.' :: rest =>
    let r := groupedDigits Char.isDigit rest
    if r.1.isEmpty then none else some r
  | _ => none

/-- An exponent, if a mark and a digit follow. -/
def exponent? : List Char → Option (Int × List Char)
  | e :: rest =>
    let (negative, body) := splitSign rest
    let r := groupedDigits Char.isDigit body
    if (e = 'e' ∨ e = 'E') ∧ !r.1.isEmpty then
      some (if negative then -(ofDigits r.1 : Int) else ofDigits r.1, r.2)
    else none
  | [] => none

def decimal? (cs : List Char) : Option ValueRead :=
  let (negative, body) := splitSign cs
  let (whole, rest) := wholeDigits body
  if whole.isEmpty then none
  else
    let fraction := fraction? rest
    let afterFraction := (fraction.map Prod.snd).getD rest
    let exponent := exponent? afterFraction
    let afterAll := (exponent.map Prod.snd).getD afterFraction
    if fraction.isNone && exponent.isNone then
      if longestInteger < whole.length then some (.error (.longInteger whole.length))
      else some (.ok (.int (if negative then -(ofDigits whole : Int) else ofDigits whole), rest))
    else
      let x := (Decimal.ofParts negative whole ((fraction.map Prod.fst).getD [])
        ((exponent.map Prod.fst).getD 0)).toFloat
      some (.ok (.float x, afterAll))

/-- A number that is written with letters. -/
def named? (cs : List Char) : Option (Value × List Char) :=
  let (negative, body) := splitSign cs
  let found (x : Float) (rest : List Char) : Option (Value × List Char) :=
    some (.float (if negative then -x else x), rest)
  match body with
  | 'i' :: 'n' :: 'f' :: rest => found (Float.ofBits 0x7ff0000000000000) rest
  | 'n' :: 'a' :: 'n' :: rest => found (Float.ofBits 0x7ff8000000000000) rest
  | _ => none

def truth? : List Char → Option (Value × List Char)
  | 't' :: 'r' :: 'u' :: 'e' :: rest => some (.bool true, rest)
  | 'f' :: 'a' :: 'l' :: 's' :: 'e' :: rest => some (.bool false, rest)
  | _ => none

/-- A value that is neither an array nor a table. Dates and times come before numbers, since a number
would match their beginning. -/
def scalar (cs : List Char) : ValueRead :=
  let text := (string? cs).map fun r => r.map fun r => (Value.text (Text.ofChars r.1), r.2)
  let time := (time? cs).map fun r => Except.ok (Value.time r.1, r.2)
  let found := text <|> (truth? cs).map .ok <|> moment? cs <|> time <|> (prefixed? cs).map .ok <|>
    decimal? cs <|> (named? cs).map .ok
  found.getD (fail .invalidValue cs)

end ApiLint.Toml
