import ApiLint.Literal.Token

/-! What a literal is read as, and which readings are literals: constants, tuples, sets and dictionaries
of literals, and complex numbers as a sum. All others are only told apart as far as messages name them. -/

namespace ApiLint.Literal

inductive Expression where
  | number (imaginary : Bool)
  | constant (kind : String)
  | name (cs : List Char)
  | tuple (items : List Expression)
  | set (items : List Expression)
  | dict (entries : List (Expression × Expression))
  | unpacked
  | emptySet
  | signed (e : Expression)
  | sum (l r : Expression)
  | other (kind : String)
  deriving Repr

namespace Expression

/-- What messages call an expression. -/
def kind : Expression → String
  | number _ => "literal"
  | constant kind => kind
  | name _ => "name"
  | tuple _ => "tuple"
  | set _ => "set display"
  | dict _ => "dict literal"
  | emptySet => "function call"
  | unpacked | signed _ | sum _ _ => "expression"
  | other kind => kind

/-- Whether an expression is a number without an imaginary part, with a sign or without one. -/
def isReal : Expression → Bool
  | number false | signed (number false) => true
  | _ => false

mutual

/-- Why an expression is not a literal, or the kind of value in it that cannot be a member of a set or a
key, if there is one. -/
def value : Expression → Except Fault (Option String)
  | number _ | constant _ | signed (number _) => .ok none
  | sum l r =>
    match r with
    | number true => if l.isReal then .ok none else .error .notConstant
    | _ => .error .notConstant
  | tuple items => values items
  | set items => do
    hashed items
    return some "set"
  | dict entries => do
    paired entries
    return some "dict"
  | emptySet => .ok (some "set")
  | unpacked => .error .keyMissing
  | _ => .error .notConstant

/-- The kind of the first value in a tuple that cannot be a member of a set. -/
def values : List Expression → Except Fault (Option String)
  | [] => .ok none
  | e :: rest => do
    let first ← value e
    return first.or (← values rest)

/-- Members of a set, which are read one after another. -/
def hashed : List Expression → Except Fault Unit
  | [] => .ok ()
  | e :: rest => do
    match ← value e with
    | some kind => .error (.unhashable kind)
    | none => hashed rest

/-- Entries of a dictionary. -/
def paired : List (Expression × Expression) → Except Fault Unit
  | [] => .ok ()
  | (key, e) :: rest => do
    let unhashable ← value key
    let _ ← value e
    match unhashable with
    | some kind => .error (.unhashable kind)
    | none => paired rest

end

end Expression

/-- The length of an escape behind its letter and the text that messages show for it. -/
def escapeShape? (letter : Char) : Option (Nat × String) :=
  if letter = 'x' then some (2, "xXX")
  else if letter = 'u' then some (4, "uXXXX")
  else if letter = 'U' then some (8, "UXXXXXXXX")
  else none

/-- How far a character moves the position in messages: one past ASCII is written as an escape first. -/
def charStep (c : Char) : Nat :=
  if c.toNat < 0x80 then 1 else 10

/-- The first faulty escape in a text; it stands at `position` or behind. -/
def escapeFault? (position : Nat) : List Char → Option Fault
  | [] => none
  | '\\' :: letter :: rest =>
    match escapeShape? letter with
    | some (length, shape) =>
      let digits := (rest.take length).takeWhile isHexDigit
      if digits.length < length then some (.escape position (position + 1 + digits.length) shape)
      else if 0x10FFFF < (ofHexDigits? digits).getD 0 then
        some (.largeCharacter position (position + 1 + length))
      else escapeFault? (position + 2) rest
    | none =>
      if letter.toNat < 0x80 then escapeFault? (position + 2) rest
      else escapeFault? (position + 6 + charStep letter) rest
  | c :: rest => escapeFault? (position + charStep c) rest

/-- The first faulty escape in bytes. -/
def byteFault? (position : Nat) : List Char → Option Fault
  | [] => none
  | '\\' :: 'x' :: rest =>
    if ((rest.take 2).takeWhile isHexDigit).length < 2 then some (.byteEscape position)
    else byteFault? (position + 2) rest
  | '\\' :: _ :: rest => byteFault? (position + 2) rest
  | _ :: rest => byteFault? (position + 1) rest

namespace Quotation

/-- Why a quotation cannot be read. -/
def fault? (q : Quotation) : Option Fault :=
  if q.bytes then
    if q.body.any fun c => 0x80 ≤ c.toNat then some .bytesNotAscii
    else if q.raw then none else byteFault? 0 q.body
  else if q.raw || (q.formatted && q.body.contains '\x7b') then none
  else escapeFault? 0 q.body

/-- What quotations behind one another are read as. -/
def join (quotations : List Quotation) : Except Fault Expression :=
  match quotations.findSome? fault? with
  | some fault => .error fault
  | none =>
    if quotations.any bytes && !quotations.all bytes then .error .mixedBytes
    else if quotations.any formatted then .ok (.other "f-string expression")
    else .ok (.constant "literal")

end Quotation

end ApiLint.Literal
