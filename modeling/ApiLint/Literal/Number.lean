import ApiLint.Literal.Fault

/-! Numbers as they are written in literals: whole numbers to the bases ten, sixteen, eight and two,
decimal fractions with powers of ten, and imaginary numbers. A low line may stand between digits. -/

namespace ApiLint.Literal

/-- Characters that can stand in a name; of those past ASCII the name decides. -/
def isNamePart (c : Char) : Bool :=
  c.isAlphanum || c = '_' || 0x80 ≤ c.toNat

def isHexDigit (c : Char) : Bool :=
  c.isDigit || ('a' ≤ c && c ≤ 'f') || ('A' ≤ c && c ≤ 'F')

def isOctalDigit (c : Char) : Bool :=
  '0' ≤ c && c ≤ '7'

def isBinaryDigit (c : Char) : Bool :=
  c = '0' || c = '1'

/-- Whether a text begins with a word that may follow a number at once. -/
def beginsWithWord (cs : List Char) : Bool :=
  ["and", "else", "for", "not", "or"].contains (String.ofList (cs.takeWhile isNamePart)) ||
    ["if", "in", "is"].any fun w => w.toList.isPrefixOf cs

def endNumber (kind : String) (imaginary : Bool) (rest : List Char) :
    Except Fault (Bool × List Char) :=
  if beginsWithWord rest then .ok (imaginary, rest)
  else if rest.head?.any (fun c => isNamePart c && c.toNat < 0x80) then .error (.number kind)
  else .ok (imaginary, rest)

/-- The text behind decimal digits, of which the first ones are read. -/
def behindDigits : List Char → Except Fault (List Char)
  | [] => .ok []
  | '_' :: d :: rest => if d.isDigit then behindDigits rest else .error (.number "decimal")
  | ['_'] => .error (.number "decimal")
  | c :: rest => if c.isDigit then behindDigits rest else .ok (c :: rest)

/-- The end of a number behind its digits and its power of ten. -/
def imaginaryEnd : List Char → Except Fault (Bool × List Char)
  | c :: rest =>
    if c = 'j' || c = 'J' then endNumber "imaginary" true rest
    else endNumber "decimal" false (c :: rest)
  | [] => .ok (false, [])

/-- The end of a number behind its whole part and its fraction. -/
def powerEnd : List Char → Except Fault (Bool × List Char)
  | e :: rest =>
    if e = 'e' || e = 'E' then
      match rest with
      | c :: behind =>
        if c.isDigit then do imaginaryEnd (← behindDigits rest)
        else if c = '+' || c = '-' then
          if behind.head?.any Char.isDigit then do imaginaryEnd (← behindDigits behind)
          else .error (.number "decimal")
        else endNumber "decimal" false (e :: rest)
      | [] => endNumber "decimal" false (e :: rest)
    else imaginaryEnd (e :: rest)
  | [] => .ok (false, [])

/-- The end of a number behind its whole part. -/
def fractionEnd : List Char → Except Fault (Bool × List Char)
  | '.' :: rest =>
    if rest.head?.any Char.isDigit then do powerEnd (← behindDigits rest) else powerEnd rest
  | rest => powerEnd rest

/-- The text behind zeros, of which the first one is read. -/
def behindZeros : List Char → Except Fault (List Char)
  | '0' :: rest => behindZeros rest
  | '_' :: '0' :: rest => behindZeros rest
  | '_' :: c :: rest => if c.isDigit then .ok (c :: rest) else .error (.number "decimal")
  | ['_'] => .error (.number "decimal")
  | rest => .ok rest

/-- The end of a number that begins with a zero. Before another digit zeros are for fractions, powers of
ten and imaginary numbers only. -/
def zeroEnd (rest : List Char) : Except Fault (Bool × List Char) := do
  let rest ← behindZeros rest
  if rest.head?.any Char.isDigit then
    let rest ← behindDigits rest
    if rest.head?.any fun c => c = '.' || c = 'e' || c = 'E' || c = 'j' || c = 'J' then
      fractionEnd rest
    else .error .leadingZeros
  else fractionEnd rest

/-- The text behind digits to another base. A low line may stand before each of them but not last. -/
def behindRadixDigits (isDigit : Char → Bool) (fault : Option Char → Fault) (needed lineAllowed : Bool) :
    List Char → Except Fault (List Char)
  | [] => if needed then .error (fault none) else .ok []
  | c :: rest =>
    if isDigit c then behindRadixDigits isDigit fault false true rest
    else if c = '_' && lineAllowed then behindRadixDigits isDigit fault true false rest
    else if needed then .error (fault (some c))
    else .ok (c :: rest)

/-- A digit that the base does not have, or another character in its place. -/
def radixFault (kind : String) : Option Char → Fault
  | some c => if c.isDigit then .digit c kind else .number kind
  | none => .number kind

/-- The end of a number to another base. -/
def radixEnd (kind : String) (isDigit : Char → Bool) (rest : List Char) :
    Except Fault (Bool × List Char) := do
  let rest ← behindRadixDigits isDigit (radixFault kind) true true rest
  match rest with
  | c :: _ => if c.isDigit then .error (.digit c kind) else endNumber kind false rest
  | [] => .ok (false, [])

/-- Whether a number is imaginary, and the text behind it. -/
def readNumber : List Char → Except Fault (Bool × List Char)
  | '0' :: c :: rest =>
    if c = 'x' || c = 'X' then radixEnd "hexadecimal" isHexDigit rest
    else if c = 'o' || c = 'O' then radixEnd "octal" isOctalDigit rest
    else if c = 'b' || c = 'B' then radixEnd "binary" isBinaryDigit rest
    else zeroEnd (c :: rest)
  | '.' :: rest => fractionEnd ('.' :: rest)
  | _ :: rest => do fractionEnd (← behindDigits rest)
  | [] => .ok (false, [])

end ApiLint.Literal
