import ApiLint.Toml.Fault

/-! Strings, comments and the space between the parts of a TOML file. -/

namespace ApiLint.Toml

def isControl (c : Char) : Bool :=
  c < ' ' || c = '\x7f'

/-- A character that may not stand in a comment or in a string on one line. -/
def isIllegal (c : Char) : Bool :=
  isControl c && c ≠ '\t'

/-- A character that may not stand in a string over several lines. -/
def isIllegalInLines (c : Char) : Bool :=
  isControl c && c ≠ '\t' && c ≠ '\n'

def isSpace (c : Char) : Bool :=
  c = ' ' || c = '\t'

def skipSpace (cs : List Char) : List Char :=
  cs.dropWhile isSpace

/-- Where the first character of a class stands in a text that is followed by `rest`. -/
def firstOf (p : Char → Bool) (cs rest : List Char) : Option (Char × List Char) :=
  match cs.dropWhile fun c => !p c with
  | [] => none
  | c :: cs => some (c, c :: cs ++ rest)

/-- A text without characters of a class, followed by `rest`. -/
def without (p : Char → Bool) (cs rest : List Char) : CharsRead :=
  match firstOf p cs rest with
  | some (c, place) => fail (.invalidCharacter c) place
  | none => .ok (cs, rest)

/-- Leaves out a comment, if one stands here. -/
def skipComment (cs : List Char) : SkipRead :=
  match cs with
  | '#' :: rest =>
    (without isIllegal (rest.takeWhile (· ≠ '\n')) (rest.dropWhile (· ≠ '\n'))).map Prod.snd
  | _ => .ok cs

/-- Leaves out comments, space and line ends; `inComment` tells that a comment has begun. -/
def skipLines (inComment : Bool) : List Char → SkipRead
  | [] => .ok []
  | c :: rest =>
    if c = '\n' then skipLines false rest
    else if inComment then
      if isIllegal c then fail (.invalidCharacter c) (c :: rest) else skipLines true rest
    else if isSpace c then skipLines false rest
    else if c = '#' then skipLines true rest
    else .ok (c :: rest)

/-- What stands before the first occurrence of a mark, and what stands behind it. -/
def splitMark (mark : List Char) : List Char → Option (List Char × List Char)
  | [] => none
  | c :: rest =>
    if mark.isPrefixOf (c :: rest) then some ([], (c :: rest).drop mark.length)
    else (splitMark mark rest).map fun r => (c :: r.1, r.2)

/-- A text up to a mark, taken as it stands. -/
def literalUntil (mark : List Char) (illegal : Char → Bool) (cs : List Char) : CharsRead :=
  match splitMark mark cs with
  | none => fail (.expecting mark) []
  | some (content, behind) =>
    match without illegal content (mark ++ behind) with
    | .ok _ => .ok (content, behind)
    | .error stop => .error stop

/-- What a backslash and one more character stand for. -/
def simpleEscape : Char → Option Char
  | 'b' => some '\x08'
  | 't' => some '\t'
  | 'n' => some '\n'
  | 'f' => some '\x0c'
  | 'r' => some '\r'
  | '"' => some '"'
  | '\\' => some '\\'
  | _ => none

/-- The character with a number, unless the number is none of a character. -/
def scalar? (n : Nat) : Option Char :=
  if h : n.isValidChar then some (Char.ofNatAux n h) else none

/-- The character that hexadecimal digits name, in front of `rest`. -/
def escaped (ds rest : List Char) : Except Stop Char :=
  match ofHexDigits? ds with
  | none => fail .hexadecimal (ds ++ rest)
  | some n =>
    match scalar? n with
    | none => fail .notScalar rest
    | some c => .ok c

/-- How a string with escapes goes on: plainly, or through space that a backslash leaves out, where a
line end has yet to come or has come. -/
inductive Mode where
  | plain
  | beforeLineEnd
  | afterLineEnd

/-- The rest of a string with escapes, with what was read of it in reverse. -/
def stringFrom (lines : Bool) (mode : Mode) (read : List Char) : List Char → CharsRead
  | [] => fail .unterminatedString []
  | c :: rest =>
    match mode, c, rest with
    | .beforeLineEnd, '\n', rest => stringFrom lines .afterLineEnd read rest
    | .beforeLineEnd, c, rest =>
      if isSpace c then stringFrom lines .beforeLineEnd read rest else fail .backslash (c :: rest)
    | .afterLineEnd, '\n', rest => stringFrom lines .afterLineEnd read rest
    | .afterLineEnd, ' ', rest => stringFrom lines .afterLineEnd read rest
    | .afterLineEnd, '\t', rest => stringFrom lines .afterLineEnd read rest
    | _, '"', '"' :: '"' :: behind =>
      if lines then .ok (read.reverse, behind) else .ok (read.reverse, '"' :: '"' :: behind)
    | _, '"', rest =>
      if lines then stringFrom lines .plain ('"' :: read) rest else .ok (read.reverse, rest)
    | _, '\\', 'u' :: a :: b :: c :: d :: behind =>
      match escaped [a, b, c, d] behind with
      | .ok x => stringFrom lines .plain (x :: read) behind
      | .error stop => .error stop
    | _, '\\', 'U' :: a :: b :: c :: d :: e :: f :: g :: h :: behind =>
      match escaped [a, b, c, d, e, f, g, h] behind with
      | .ok x => stringFrom lines .plain (x :: read) behind
      | .error stop => .error stop
    | _, '\\', 'u' :: behind => fail .hexadecimal behind
    | _, '\\', 'U' :: behind => fail .hexadecimal behind
    | _, '\\', e :: behind =>
      if lines && e = '\n' then stringFrom lines .afterLineEnd read behind
      else if lines && isSpace e then stringFrom lines .beforeLineEnd read behind
      else
        match simpleEscape e with
        | some x => stringFrom lines .plain (x :: read) behind
        | none => fail .backslash behind
    | _, '\\', [] => fail .backslash []
    | _, c, rest =>
      if (if lines then isIllegalInLines c else isIllegal c) then
        fail (.illegalCharacter c) (c :: rest)
      else stringFrom lines .plain (c :: read) rest

/-- One or two more marks that belong to the end of a string over several lines. -/
def extraMarks (mark : Char) (content behind : List Char) : List Char × List Char :=
  match behind with
  | a :: b :: rest =>
    if a = mark then
      if b = mark then (content ++ [mark, mark], rest) else (content ++ [mark], b :: rest)
    else (content, behind)
  | [a] => if a = mark then (content ++ [mark], []) else (content, behind)
  | [] => (content, behind)

/-- A line end right behind the opening of a string over several lines does not count. -/
def skipLineEnd : List Char → List Char
  | '\n' :: rest => rest
  | cs => cs

/-- A string, when the input stands at its first mark. -/
def string? : List Char → Option CharsRead
  | '"' :: '"' :: '"' :: rest =>
    some ((stringFrom true .plain [] (skipLineEnd rest)).map fun r => extraMarks '"' r.1 r.2)
  | '"' :: rest => some (stringFrom false .plain [] rest)
  | '\'' :: '\'' :: '\'' :: rest =>
    some ((literalUntil ['\'', '\'', '\''] isIllegalInLines (skipLineEnd rest)).map fun r =>
      extraMarks '\'' r.1 r.2)
  | '\'' :: rest => some (literalUntil ['\''] isIllegal rest)
  | _ => none

end ApiLint.Toml
