import ApiLint.Toml.Scalar

/-! Keys, arrays and inline tables of a TOML file. -/

namespace ApiLint.Toml

/-- A key that was read, and the input after it. -/
abbrev KeyRead := Except Stop (Key × List Char)

def isBareKeyChar (c : Char) : Bool :=
  c.isAlphanum || c = '-' || c = '_'

def keyPart (cs : List Char) : CharsRead :=
  match cs with
  | '"' :: rest => stringFrom false .plain [] rest
  | '\'' :: rest => literalUntil ['\''] isIllegal rest
  | _ =>
    if (cs.takeWhile isBareKeyChar).isEmpty then fail .keyStart cs
    else .ok (cs.takeWhile isBareKeyChar, cs.dropWhile isBareKeyChar)

/-- A dotted key and the space behind it; the number bounds how many parts it can have. -/
def key : Nat → List Char → KeyRead
  | 0, cs => fail .keyStart cs
  | n + 1, cs => do
    let (part, rest) ← keyPart cs
    match skipSpace rest with
    | '.' :: rest => do
      let (parts, rest) ← key n (skipSpace rest)
      return (part :: parts, rest)
    | rest => return ([part], rest)

/-- A table with a change made to the table behind a key; missing tables on the way are made, and the
last item of a list stands for the list when `lists` says so. -/
def changeAt (lists : Bool) (change : Fields → Except Cause Fields) : Key → Fields →
    Except Cause Fields
  | [], fields => change fields
  | part :: parts, fields =>
    let name := Text.ofChars part
    match Fields.get? name fields with
    | none => (changeAt lists change parts []).map fun t => Fields.put name (.table t) fields
    | some (.table inner) =>
      (changeAt lists change parts inner).map fun t => Fields.put name (.table t) fields
    | some (.list items) =>
      match lists, items.getLast? with
      | true, some (.table inner) =>
        (changeAt lists change parts inner).map fun t =>
          Fields.put name (.list (items.dropLast ++ [.table t])) fields
      | _, _ => .error .overwritten
    | some _ => .error .overwritten

def addField (part : List Char) (value : Value) (clash : Cause) (fields : Fields) :
    Except Cause Fields :=
  match Fields.get? (Text.ofChars part) fields with
  | some _ => .error clash
  | none => .ok (Fields.put (Text.ofChars part) value fields)

/-- Whether a value takes no further keys once it is written. -/
def isContainer : Value → Bool
  | .list _ => true
  | .table _ => true
  | _ => false

def liesIn (frozen : List Key) (k : Key) : Bool :=
  frozen.any fun f => f.isPrefixOf k

def parent (k : Key) : Key :=
  k.dropLast

def stem (k : Key) : List Char :=
  k.getLast?.getD []

def causeAt {α : Type} (place : List Char) : Except Cause α → Except Stop α
  | .ok x => .ok x
  | .error cause => fail cause place

def pair (value : List Char → ValueRead) (width : Nat) (cs : List Char) :
    Except Stop (Key × Value × List Char) := do
  let (k, rest) ← key width cs
  match rest with
  | '=' :: rest => do
    let (v, rest) ← value (skipSpace rest)
    return (k, v, rest)
  | rest => fail .expectingEquals rest

/-- The items of an array up to its closing bracket, with those already read in reverse. -/
def items (value : List Char → ValueRead) : Nat → List Value → List Char → ValueRead
  | 0, _, cs => fail .unclosedArray cs
  | n + 1, read, cs => do
    let (v, rest) ← value cs
    let rest ← skipLines false rest
    match rest with
    | ']' :: rest => return (.list (v :: read).reverse, rest)
    | ',' :: rest => do
      let rest ← skipLines false rest
      match rest with
      | ']' :: rest => return (.list (v :: read).reverse, rest)
      | rest => items value n (v :: read) rest
    | rest => fail .unclosedArray rest

/-- The fields of an inline table up to its closing brace; `frozen` holds the keys of those whose
values take no further keys. -/
def fields (value : List Char → ValueRead) : Nat → List Key → Fields → List Char → ValueRead
  | 0, _, _, cs => fail .unclosedTable cs
  | n + 1, frozen, read, cs => do
    let (k, v, rest) ← pair value (n + 1) cs
    if liesIn frozen k then fail (.immutable k) rest
    let read ← causeAt rest
      (changeAt false (addField (stem k) v (.duplicateKey (stem k))) (parent k) read)
    let frozen := if isContainer v then k :: frozen else frozen
    match skipSpace rest with
    | '\x7d' :: rest => return (.table read, rest)
    | ',' :: rest => fields value n frozen read (skipSpace rest)
    | rest => fail .unclosedTable rest

/-- The room that the containers around a value may take together: two for an array and three for an
inline table. -/
def room : Nat := 980

/-- A value in the room that is left for it, with no more than `width` members in any container. -/
def value (width : Nat) : Nat → List Char → ValueRead
  | n + 3, '\x7b' :: rest =>
    match skipSpace rest with
    | '\x7d' :: rest => .ok (.table [], rest)
    | rest => fields (value width n) width [] [] rest
  | n + 2, '[' :: rest => do
    let rest ← skipLines false rest
    match rest with
    | ']' :: rest => return (.list [], rest)
    | rest => items (value width n) width [] rest
  | _, '\x7b' :: _ => .error .tooDeep
  | _, '[' :: _ => .error .tooDeep
  | _, cs => scalar cs

end ApiLint.Toml
