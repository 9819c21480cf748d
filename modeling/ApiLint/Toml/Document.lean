import ApiLint.Toml.Value

/-! Whole TOML files: statements that set a key, open a table, or open one more item of a list of
tables. A value in brackets or braces is complete where it stands, and a table is declared only once. -/

namespace ApiLint.Toml

/-- What is known of the keys of a file besides their values. -/
structure Marks where
  /-- Tables that have been declared. -/
  declared : List Key
  /-- Keys whose values take no further keys. -/
  frozen : List Key
  /-- Tables made by dotted keys, which count as declared from the next header on. -/
  pending : List Key

namespace Marks

def empty : Marks := ⟨[], [], []⟩

def isDeclared (m : Marks) (k : Key) : Bool :=
  m.declared.contains k

def isFrozen (m : Marks) (k : Key) : Bool :=
  liesIn m.frozen k

def settle (m : Marks) : Marks :=
  ⟨m.pending ++ m.declared, m.frozen, []⟩

def forget (m : Marks) (k : Key) : Marks :=
  ⟨m.declared.filter fun d => !k.isPrefixOf d, m.frozen.filter fun f => !k.isPrefixOf f, m.pending⟩

def declare (m : Marks) (k : Key) : Marks :=
  { m with declared := k :: m.declared }

end Marks

/-- The state of reading a file: its values, the marks of its keys, and the table that is open. -/
structure Progress where
  values : Fields
  marks : Marks
  header : Key

/-- The state after a statement, and the input after it. -/
abbrev ProgressRead := Except Stop (Progress × List Char)

def openTable (width : Nat) (p : Progress) (cs : List Char) : ProgressRead := do
  let (k, rest) ← key width (skipSpace cs)
  if p.marks.isDeclared k || p.marks.isFrozen k then fail (.declaredTwice k) rest
  let values ← causeAt rest (changeAt true .ok k p.values)
  match rest with
  | ']' :: rest => return (⟨values, p.marks.declare k, k⟩, rest)
  | rest => fail .tableEnd rest

/-- Adds an empty table to the list behind a name. -/
def addItem (part : List Char) (fields : Fields) : Except Cause Fields :=
  let name := Text.ofChars part
  match Fields.get? name fields with
  | none => .ok (Fields.put name (.list [.table []]) fields)
  | some (.list items) => .ok (Fields.put name (.list (items ++ [.table []])) fields)
  | some _ => .error .overwritten

def openItem (width : Nat) (p : Progress) (cs : List Char) : ProgressRead := do
  let (k, rest) ← key width (skipSpace cs)
  if p.marks.isFrozen k then fail (.immutable k) rest
  let values ← causeAt rest (changeAt true (addItem (stem k)) (parent k) p.values)
  match rest with
  | ']' :: ']' :: rest => return (⟨values, (p.marks.forget k).declare k, k⟩, rest)
  | rest => fail .tableItemEnd rest

/-- The tables that a dotted key passes through, the outermost first. -/
def passed (header k : Key) : List Key :=
  (List.range (k.length - 1)).map fun i => header ++ k.take (i + 1)

/-- Marks the tables that a dotted key passes through; none of them may be declared. -/
def passTables (m : Marks) : List Key → Except Cause Marks
  | [] => .ok m
  | k :: ks =>
    if m.isDeclared k then .error (.redefined k)
    else passTables { m with pending := k :: m.pending } ks

def setKey (width : Nat) (p : Progress) (cs : List Char) : ProgressRead := do
  let (k, v, rest) ← pair (value width room) width cs
  let marks ← causeAt rest (passTables p.marks (passed p.header k))
  let owner := p.header ++ parent k
  if marks.isFrozen owner then fail (.immutable owner) rest
  let values ← causeAt rest (changeAt true (addField (stem k) v .overwritten) owner p.values)
  let marks := if isContainer v then { marks with frozen := (p.header ++ k) :: marks.frozen } else marks
  return (⟨values, marks, p.header⟩, rest)

/-- One statement, when the input stands at its first character, and the space behind it. -/
def statement (width : Nat) (p : Progress) (cs : List Char) : ProgressRead :=
  let behind (r : ProgressRead) : ProgressRead := r.map fun r => (r.1, skipSpace r.2)
  match cs with
  | '[' :: '[' :: rest => behind (openItem width { p with marks := p.marks.settle } rest)
  | '[' :: rest => behind (openTable width { p with marks := p.marks.settle } rest)
  | '#' :: _ => .ok (p, cs)
  | c :: _ =>
    if isBareKeyChar c || c = '"' || c = '\'' then behind (setKey width p cs)
    else fail .invalidStatement cs
  | [] => .ok (p, [])

/-- The statements of a file; the number bounds how many lines can follow. -/
def statements (width : Nat) : Nat → Progress → List Char → Except Stop Fields
  | 0, _, cs => fail .invalidStatement cs
  | n + 1, p, cs =>
    match skipSpace cs with
    | [] => .ok p.values
    | '\n' :: rest => statements width n p rest
    | cs => do
      let (p, rest) ← statement width p cs
      let rest ← skipComment rest
      match rest with
      | [] => return p.values
      | '\n' :: rest => statements width n p rest
      | rest => fail .expectingLineEnd rest

/-- A file in which a carriage return and a line feed together end a line. -/
def joinLineEnds : List Char → List Char
  | '\r' :: '\n' :: rest => '\n' :: joinLineEnds rest
  | c :: rest => c :: joinLineEnds rest
  | [] => []

/-- The table that a file holds. -/
def read (cs : List Char) : Except Fault Fields :=
  let cs := joinLineEnds cs
  (statements (cs.length + 1) (cs.length + 1) ⟨[], .empty, []⟩ cs).mapError (Fault.ofStop cs)

end ApiLint.Toml
