import ApiLint.Literal.Number
import ApiLint.Text.Width
import ApiLint.Text.Word

/-! The tokens of a literal: words, numbers, quotations and signs. A line end counts outside brackets
only. Where the text cannot be cut into tokens any further, the cause takes the place of the rest. -/

namespace ApiLint.Literal

/-- A text in quotation marks with the letters in front of it. -/
structure Quotation where
  bytes : Bool
  raw : Bool
  formatted : Bool
  body : List Char
  deriving DecidableEq, Repr

inductive Token where
  | word (cs : List Char)
  | number (imaginary : Bool)
  | quotation (q : Quotation)
  | sign (s : String)
  | lineEnd
  | indent
  | cut (fault : Fault)
  deriving DecidableEq, Repr

/-- A token, the number of brackets that are open behind it, and its line. Where the text ends inside a
bracket, the line is that of the bracket. -/
structure Placed where
  token : Token
  level : Nat
  line : Nat
  deriving DecidableEq, Repr

/-- What scanning knows: the line, the open brackets with their lines, the innermost first, and whether
the line has no token yet. -/
structure Scan where
  line : Nat
  opened : List (Char × Nat)
  fresh : Bool

/-- The state in front of a text. -/
def Scan.start : Scan := ⟨1, [], true⟩

def Scan.place (s : Scan) (token : Token) : Placed :=
  ⟨token, s.opened.length, s.line⟩

/-- The bracket that closes another one. -/
def closingOf (opening : Char) : Char :=
  if opening = '(' then ')' else if opening = '[' then ']' else '}'

/-- How many brackets may be open at once. -/
def deepest : Nat := 200

/-- The state behind a bracket or another sign. -/
def Scan.bracket (s : Scan) (c : Char) : Except Fault Scan :=
  if c = '(' || c = '[' || c = '{' then
    if deepest ≤ s.opened.length then .error .tooDeep
    else .ok { s with opened := (c, s.line) :: s.opened, fresh := false }
  else if c = ')' || c = ']' || c = '}' then
    match s.opened with
    | [] => .error (.unmatched c)
    | (opening, line) :: outer =>
      if closingOf opening = c then .ok { s with opened := outer, fresh := false }
      else .error (.mismatched c opening (if line = s.line then none else some line))
  else .ok { s with fresh := false }

/-- The signs of more than one character, the longest first. -/
def longSigns : List String :=
  ["**=", "//=", "<<=", ">>=", "...", "**", "//", "<<", ">>", "<=", ">=", "==", "!=", "->", ":=", "+=",
    "-=", "*=", "/=", "%=", "&=", "|=", "^=", "@=", "<>"]

/-- The sign at the beginning of a text. -/
def signOf (cs : List Char) : String :=
  (longSigns.find? fun s => s.toList.isPrefixOf cs).getD (String.ofList (cs.take 1))

/-- What stands before the closing quotation marks and behind them. -/
def quoted? (mark : Char) (threefold : Bool) : List Char → Option (List Char × List Char)
  | [] => none
  | '\\' :: c :: rest => (quoted? mark threefold rest).map fun r => ('\\' :: c :: r.1, r.2)
  | ['\\'] => none
  | c :: rest =>
    if c = mark && (!threefold || [mark, mark].isPrefixOf rest) then
      some ([], if threefold then rest.drop 2 else rest)
    else if c = '\n' && !threefold then none
    else (quoted? mark threefold rest).map fun r => (c :: r.1, r.2)

/-- The line ends that a quotation passes that has no closing marks. -/
def passedLines (threefold : Bool) : List Char → Nat
  | [] => 0
  | '\\' :: '\n' :: rest => passedLines threefold rest + 1
  | '\\' :: _ :: rest => passedLines threefold rest
  | '\n' :: rest => if threefold then passedLines threefold rest + 1 else 0
  | _ :: rest => passedLines threefold rest

/-- The body of a quotation and the text behind it, when the text begins with its marks. -/
def readQuotation (line : Nat) : List Char → Except Fault (List Char × List Char)
  | [] => .error (.unterminated false line)
  | mark :: rest =>
    let threefold := [mark, mark].isPrefixOf rest
    let inner := if threefold then rest.drop 2 else rest
    match quoted? mark threefold inner with
    | some r => .ok r
    | none => .error (.unterminated threefold (line + passedLines threefold inner))

def quotationLetters : List String :=
  ["", "b", "r", "u", "f", "br", "rb", "fr", "rf"]

/-- The letters in front of the quotation that a text begins with. -/
def lettersBefore? (cs : List Char) : Option (List Char) :=
  let letters := (cs.takeWhile Char.isAlpha).map Char.toLower
  let behind := cs.dropWhile Char.isAlpha
  if quotationLetters.contains (String.ofList letters) && behind.head?.any (fun c => c = '\'' || c = '"')
  then some letters
  else none

/-- Whether a character past ASCII can stand in a name behind its first character. -/
def isForeignNamePart (c : Char) : Bool :=
  Text.isLetterOrDigit c || Text.inRanges Text.markRanges c.toNat && Text.isPrintable c

/-- Whether a character past ASCII can begin a name. -/
def isForeignNameStart (c : Char) : Bool :=
  Text.isLetterOrDigit c && (Text.digitValue? c).isNone

/-- The first character of a word that no name can have in its place. -/
def strangeChar? : List Char → Option Char
  | [] => none
  | c :: rest =>
    if 0x80 ≤ c.toNat && !isForeignNameStart c then some c
    else rest.find? fun c => 0x80 ≤ c.toNat && !isForeignNamePart c

/-- Whether a line holds blanks or a comment only. -/
def isEmptyLine (cs : List Char) : Bool :=
  match cs.dropWhile fun c => c = ' ' || c = '\t' || c = '\x0c' with
  | [] => true
  | c :: _ => c = '\n' || c = '#'

/-- The tokens of a text, and the cause why it cannot be read if there is one. A cause that counts only
when reading gets there is a token. -/
def scan : Nat → Scan → List Char → Except Fault (List Placed)
  | 0, _, _ => .ok []
  | _ + 1, s, [] =>
    match s.opened with
    | [] => .ok []
    | (opening, line) :: _ => .ok [⟨.cut (.neverClosed opening), s.opened.length, line⟩]
  | fuel + 1, s, c :: rest =>
    if c = ' ' || c = '\t' || c = '\x0c' then scan fuel s rest
    else if c = '#' then scan fuel s (rest.dropWhile (· ≠ '\n'))
    else if c = '\n' then
      let next := { s with line := s.line + 1, fresh := true }
      if !s.opened.isEmpty then scan fuel next rest
      else
        let ended := if s.fresh then [] else [s.place .lineEnd]
        let indented :=
          if rest.head?.any (fun c => c = ' ' || c = '\t') && !isEmptyLine rest then [next.place .indent]
          else []
        (scan fuel next rest).map (ended ++ indented ++ ·)
    else if c = '\\' then
      match rest with
      | '\n' :: behind => scan fuel { s with line := s.line + 1, fresh := false } behind
      | _ => .ok [s.place (.cut .continued)]
    else
      match lettersBefore? (c :: rest) with
      | some letters => do
        let (body, behind) ← readQuotation s.line ((c :: rest).drop letters.length)
        let token := Token.quotation
          ⟨letters.contains 'b', letters.contains 'r', letters.contains 'f', body⟩
        let next := { s with line := s.line + body.count '\n', fresh := false }
        return s.place token :: (← scan fuel next behind)
      | none =>
        if c.isDigit || (c = '.' && rest.head?.any Char.isDigit) then do
          let (imaginary, behind) ← readNumber (c :: rest)
          return s.place (.number imaginary) :: (← scan fuel { s with fresh := false } behind)
        else if isNamePart c then
          let word := c :: rest.takeWhile isNamePart
          match strangeChar? word with
          | some c => .error (.character c)
          | none =>
            (scan fuel { s with fresh := false } (rest.dropWhile isNamePart)).map
              (s.place (.word word) :: ·)
        else do
          let next ← s.bracket c
          if !Text.isPrintable c then .error (.character c)
          else
            let sign := signOf (c :: rest)
            return next.place (.sign sign) :: (← scan fuel next ((c :: rest).drop sign.length))

def tokens (cs : List Char) : Except Fault (List Placed) :=
  scan (cs.length + 1) .start cs

end ApiLint.Literal
