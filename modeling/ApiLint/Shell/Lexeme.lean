import ApiLint.Shell.Script
import ApiLint.Text.Lines

/-! The words and marks that a script is made of. -/

namespace ApiLint.Shell

inductive Token where
  | word (w : Word)
  | mark (s : String)
  | descriptor (n : Nat)
  | newline
  deriving DecidableEq, Repr

structure Lexeme where
  token : Token
  line : Nat
  deriving DecidableEq, Repr

/-- What the reader is within. -/
inductive Within where
  | none
  | single
  | double
  deriving DecidableEq

/-- The text up to the closing bracket that belongs to one already open, and what stands behind it. -/
def bracketed (opening closing : Char) : Nat → Within → Bytes → Bytes × Bytes
  | _, _, [] => ([], [])
  | depth, within, [c] =>
    if c = closing ∧ depth = 0 ∧ within = .none then ([], []) else ([c], [])
  | depth, within, c :: d :: rest =>
    let go (depth : Nat) (within : Within) : Bytes × Bytes :=
      let (inside, behind) := bracketed opening closing depth within (d :: rest)
      (c :: inside, behind)
    match within with
    | .single => go depth (if c = '\'' then .none else .single)
    | .double =>
      if c = '\\' then
        let (inside, behind) := bracketed opening closing depth .double rest
        (c :: d :: inside, behind)
      else go depth (if c = '"' then .none else .double)
    | .none =>
      if c = '\\' then
        let (inside, behind) := bracketed opening closing depth .none rest
        (c :: d :: inside, behind)
      else if c = '\'' then go depth .single
      else if c = '"' then go depth .double
      else if c = opening then go (depth + 1) .none
      else if c = closing then
        match depth with
        | 0 => ([], d :: rest)
        | depth + 1 => go depth .none
      else go depth .none

def isNameStart (c : Char) : Bool := c.isAlpha || c = '_'

def isNameChar (c : Char) : Bool := c.isAlphanum || c = '_'

/-- Parameters of which the name is one character. -/
def isSpecial (c : Char) : Bool :=
  c.isDigit || c = '@' || c = '*' || c = '#' || c = '?' || c = '$'

/-- What stands for a parameter between braces. -/
def braced (inside : Bytes) (quoted : Bool) : Piece :=
  match inside with
  | '#' :: c :: rest => .length (c :: rest) quoted
  | inside =>
    let name := if (inside.head?.map isNameStart).getD false then inside.takeWhile isNameChar
      else inside.take 1
    match inside.drop name.length with
    | ':' :: '-' :: fallback => .parameter name (some fallback) quoted
    | '-' :: fallback => .parameter name (some fallback) quoted
    | _ => .parameter name none quoted

/-- What a dollar sign stands for, and what is left behind it. -/
def filledIn (quoted : Bool) (cs : Bytes) : Piece × Bytes :=
  match cs with
  | '(' :: rest =>
    let (inside, behind) := bracketed '(' ')' 0 .none rest
    if inside.head? = some '(' ∧ inside.getLast? = some ')' then
      (.arithmetic (inside.drop 1).dropLast quoted, behind)
    else (.output inside quoted, behind)
  | '\x7b' :: rest =>
    let (inside, behind) := bracketed '\x7b' '\x7d' 0 .none rest
    (braced inside quoted, behind)
  | c :: rest =>
    if isNameStart c then (.parameter (cs.takeWhile isNameChar) none quoted, cs.dropWhile isNameChar)
    else if isSpecial c then (.parameter [c] none quoted, rest)
    else (.text ['$'] quoted, cs)
  | [] => (.text ['$'] quoted, [])

def graveAccent : Char := '\x60'

/-- The pieces between double quotes, the first of which is already read; without `closed` the text
ends only with itself. -/
def doubleQuoted (closed : Bool) : Nat → Bytes → Word × Bytes
  | 0, cs => ([], cs)
  | _, [] => ([], [])
  | fuel + 1, c :: rest =>
    let go (piece : Piece) (behind : Bytes) : Word × Bytes :=
      let (pieces, last) := doubleQuoted closed fuel behind
      (piece :: pieces, last)
    if closed ∧ c = '"' then ([], rest)
    else if c = '$' then
      let (piece, behind) := filledIn true rest
      go piece behind
    else if c = graveAccent then
      go (.output (rest.takeWhile (· ≠ graveAccent)) true) ((rest.dropWhile (· ≠ graveAccent)).drop 1)
    else if c = '\\' then
      match rest with
      | '\n' :: rest => doubleQuoted closed fuel rest
      | d :: rest =>
        if d = '$' ∨ d = '\\' ∨ d = graveAccent ∨ (closed ∧ d = '"') then go (.text [d] true) rest
        else go (.text ['\\', d] true) rest
      | [] => ([.text ['\\'] true], [])
    else go (.text [c] true) rest

def endsWord (c : Char) : Bool :=
  c = ' ' || c = '\t' || c = '\n' || c = ';' || c = '&' || c = '|' || c = '<' || c = '>' || c = '(' ||
    c = ')'

def word : Nat → Bytes → Word × Bytes
  | 0, cs => ([], cs)
  | _, [] => ([], [])
  | fuel + 1, c :: rest =>
    let go (front : Word) (behind : Bytes) : Word × Bytes :=
      let (pieces, last) := word fuel behind
      (front ++ pieces, last)
    if endsWord c then ([], c :: rest)
    else if c = '\'' then
      go [.text (rest.takeWhile (· ≠ '\'')) true] ((rest.dropWhile (· ≠ '\'')).drop 1)
    else if c = '"' then
      let (pieces, behind) := doubleQuoted true fuel rest
      go (.text [] true :: pieces) behind
    else if c = '$' then
      let (piece, behind) := filledIn false rest
      go [piece] behind
    else if c = graveAccent then
      go [.output (rest.takeWhile (· ≠ graveAccent)) false] ((rest.dropWhile (· ≠ graveAccent)).drop 1)
    else if c = '\\' then
      match rest with
      | '\n' :: rest => word fuel rest
      | d :: rest => go [.text [d] true] rest
      | [] => ([.text ['\\'] false], [])
    else go [.text [c] false] rest

def marks : List String :=
  ["&&", "||", ";;", "<<", ">>", "<&", ">&", ">|", "<", ">", "|", "&", ";", "(", ")"]

def markAt? (cs : Bytes) : Option (String × Bytes) :=
  marks.findSome? fun m => if m.toList.isPrefixOf cs then some (m, cs.drop m.length) else none

def untilLine (delimiter : Bytes) : Nat → Bytes → Bytes × Bytes
  | 0, cs => ([], cs)
  | _, [] => ([], [])
  | fuel + 1, cs =>
    let line := cs.takeWhile (· ≠ '\n')
    let behind := (cs.dropWhile (· ≠ '\n')).drop 1
    if line = delimiter then ([], behind)
    else
      let (body, last) := untilLine delimiter fuel behind
      (line ++ ['\n'] ++ body, last)

/-- Cuts the document that begins in the next line out of a text. -/
def cutDocument (delimiter : Bytes) (cs : Bytes) : Bytes × Bytes :=
  let line := cs.takeWhile (· ≠ '\n')
  let (body, behind) := untilLine delimiter (cs.length + 1) ((cs.dropWhile (· ≠ '\n')).drop 1)
  (body, line ++ '\n' :: behind)

/-- The text of a delimiter, and whether a part of it is quoted. -/
def delimiterOf : Word → Bytes × Bool
  | [] => ([], false)
  | piece :: rest =>
    let (text, quoted) := delimiterOf rest
    match piece with
    | .text content q => (content ++ text, q || quoted)
    | _ => (text, quoted)

def lexemes : Nat → Nat → Bytes → List Lexeme
  | 0, _, _ => []
  | _, _, [] => []
  | fuel + 1, line, c :: rest =>
    if c = ' ' ∨ c = '\t' then lexemes fuel line rest
    else if c = '\n' then ⟨.newline, line⟩ :: lexemes fuel (line + 1) rest
    else if c = '#' then lexemes fuel line (rest.dropWhile (· ≠ '\n'))
    else
      match markAt? (c :: rest) with
      | some ("<<", behind) =>
        let (delimiter, last) := word fuel (behind.dropWhile (· = ' '))
        let (text, quoted) := delimiterOf delimiter
        let (body, rest) := cutDocument text last
        let content := if quoted then [.text body true] else (doubleQuoted false (body.length + 1) body).1
        ⟨.mark "<<", line⟩ :: ⟨.word content, line⟩ :: lexemes fuel line rest
      | some (m, behind) => ⟨.mark m, line⟩ :: lexemes fuel line behind
      | none =>
        let (w, behind) := word fuel (c :: rest)
        let led := behind.head? = some '<' ∨ behind.head? = some '>'
        match literal? w with
        | some digits =>
          if w ≠ [] ∧ led ∧ digits.all Char.isDigit ∧ digits.length < 4 then
            ⟨.descriptor (digits.foldl (fun n d => 10 * n + (d.toNat - 48)) 0), line⟩ ::
              lexemes fuel line behind
          else ⟨.word w, line⟩ :: lexemes fuel line behind
        | none => ⟨.word w, line⟩ :: lexemes fuel line behind

end ApiLint.Shell
