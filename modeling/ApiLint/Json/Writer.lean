import ApiLint.Value

/-! Writing a JSON document with one member a line and two spaces a level. All that is written is
ASCII: every other character stands as an escape of four hexadecimal digits, or as a pair of them. -/

namespace ApiLint.Json

def unitEscape (n : Nat) : List Char :=
  '\\' :: 'u' :: hexDigits 4 n

/-- The character of an escape of two characters. -/
def shortEscape (c : Char) : Option Char :=
  if c = '"' then some '"'
  else if c = '\\' then some '\\'
  else if c = '\n' then some 'n'
  else if c = '\r' then some 'r'
  else if c = '\t' then some 't'
  else if c = '\x08' then some 'b'
  else if c = '\x0c' then some 'f'
  else none

def writeChar (c : Char) : List Char :=
  match shortEscape c with
  | some e => ['\\', e]
  | none =>
    if ' ' ≤ c ∧ c ≤ '~' then [c]
    else if c.toNat < 0x10000 then unitEscape c.toNat
    else
      unitEscape (0xd800 + (c.toNat - 0x10000) / 0x400) ++
        unitEscape (0xdc00 + (c.toNat - 0x10000) % 0x400)

def writePoint : CodePoint → List Char
  | .scalar c => writeChar c
  | half@(.half _) => unitEscape half.toNat

def writeText (t : Text) : List Char :=
  '"' :: t.flatMap writePoint ++ ['"']

def writeFloat (x : Float) : List Char :=
  if x.isNaN then "NaN".toList
  else if x.isInf then (if x < 0 then "-Infinity" else "Infinity").toList
  else (shortestText x).toList

def newLine (level : Nat) : List Char :=
  '\n' :: List.replicate (2 * level) ' '

mutual

def writeAt (level : Nat) : Value → List Char
  | .null => "null".toList
  | .bool b => (if b then "true" else "false").toList
  | .int n => (toString n).toList
  | .float x => writeFloat x
  | .text t => writeText t
  | .list [] => "[]".toList
  | .list (v :: vs) =>
    '[' :: newLine (level + 1) ++ writeAt (level + 1) v ++ writeItems (level + 1) vs ++
      newLine level ++ [']']
  | .table [] => "\x7b\x7d".toList
  | .table ((k, v) :: fields) =>
    '\x7b' :: newLine (level + 1) ++ writeText k ++ ':' :: ' ' :: writeAt (level + 1) v ++
      writeFields (level + 1) fields ++ newLine level ++ ['\x7d']
  | .date d => writeText (Text.ofString d.plain)
  | .time t => writeText (Text.ofString t.plain)
  | .moment m => writeText (Text.ofString m.plain)

def writeItems (level : Nat) : List Value → List Char
  | [] => []
  | v :: vs => ',' :: newLine level ++ writeAt level v ++ writeItems level vs

/-- The fields of a table after the first. -/
def writeFields (level : Nat) : List (Text × Value) → List Char
  | [] => []
  | (k, v) :: fields =>
    ',' :: newLine level ++ writeText k ++ ':' :: ' ' :: writeAt level v ++ writeFields level fields

end

def write (v : Value) : List Char :=
  writeAt 0 v

end ApiLint.Json
