import ApiLint.Shell.Arithmetic
import ApiLint.Text.CodePoint

/-! What scripts print: texts with escapes, and templates. -/

namespace ApiLint.Shell

def isOctal (c : Char) : Bool := '0' ≤ c && c ≤ '7'

/-- The byte of up to `most` octal digits, and what stands behind them. -/
def octal (most : Nat) (cs : Bytes) : Char × Bytes :=
  let digits := (cs.take most).takeWhile isOctal
  (Char.ofNat (digits.foldl (fun n d => 8 * n + (d.toNat - 48)) 0 % 256), cs.drop digits.length)

def letterEscape? (c : Char) : Option Char :=
  match c with
  | 'a' => some '\x07'
  | 'b' => some '\x08'
  | 'f' => some '\x0c'
  | 'n' => some '\n'
  | 'r' => some '\r'
  | 't' => some '\t'
  | 'v' => some '\x0b'
  | '\\' => some '\\'
  | _ => none

/-- A text with its escapes read, up to one that ends all output. -/
def unescaped : Nat → Bytes → Bytes × Bool
  | 0, _ => ([], false)
  | _, [] => ([], false)
  | fuel + 1, '\\' :: c :: rest =>
    let go (front : Bytes) (behind : Bytes) : Bytes × Bool :=
      let (text, ended) := unescaped fuel behind
      (front ++ text, ended)
    if c = 'c' then ([], true)
    else if c = '0' then
      let (byte, behind) := octal 3 rest
      go [byte] behind
    else
      match letterEscape? c with
      | some byte => go [byte] rest
      | none => go ['\\', c] rest
  | fuel + 1, c :: rest =>
    let (text, ended) := unescaped fuel rest
    (c :: text, ended)

/-- The words of a line that is printed with escapes read. -/
def echo (arguments : List Bytes) : Bytes :=
  let (ended, words) := match arguments with
    | ['-', 'n'] :: rest => (false, rest)
    | words => (true, words)
  let line := (words.intersperse [' ']).flatten
  let (text, cut) := unescaped (line.length + 1) line
  if ended && !cut then text ++ ['\n'] else text

/-- The words of a line that is printed as it is, unless flags in front wish otherwise. -/
def plainEcho (arguments : List Bytes) : Bytes :=
  let isFlag (w : Bytes) : Bool :=
    w.head? = some '-' && 1 < w.length && (w.drop 1).all fun c => c = 'n' || c = 'e' || c = 'E'
  let flags := (arguments.takeWhile isFlag).flatten
  let line := ((arguments.dropWhile isFlag).intersperse [' ']).flatten
  let escapes := (flags.filter fun c => c = 'e' || c = 'E').getLast? = some 'e'
  let (text, cut) := if escapes then unescaped (line.length + 1) line else (line, false)
  if flags.contains 'n' || cut then text else text ++ ['\n']

/-- A place of a template. -/
structure Field where
  left : Bool
  zeros : Bool
  width : Nat
  precision : Option Nat
  kind : Char

def padded (f : Field) (text : Bytes) : Bytes :=
  let blanks := f.width - text.length
  if f.left then text ++ List.replicate blanks ' '
  else if f.zeros then
    match text with
    | '-' :: digits => '-' :: List.replicate blanks '0' ++ digits
    | digits => List.replicate blanks '0' ++ digits
  else List.replicate blanks ' ' ++ text

def number (cs : Bytes) : Nat := cs.foldl (fun n d => 10 * n + (d.toNat - 48)) 0

/-- The place behind a percent sign. -/
def field? (cs : Bytes) : Option (Field × Bytes) :=
  let flags := cs.takeWhile fun c => c = '-' || c = '0' || c = '+' || c = ' ' || c = '#'
  let cs := cs.drop flags.length
  let width := cs.takeWhile Char.isDigit
  let cs := cs.drop width.length
  let (precision, cs) : Option Nat × Bytes :=
    match cs with
    | '.' :: rest =>
      let digits := rest.takeWhile Char.isDigit
      (some (number digits), rest.drop digits.length)
    | cs => (none, cs)
  match cs with
  | kind :: rest => some (⟨flags.contains '-', flags.contains '0', number width, precision, kind⟩, rest)
  | [] => none

def digitsIn (base : Nat) (n : Int) : Bytes :=
  if n < 0 then '-' :: Nat.toDigits base n.natAbs else Nat.toDigits base n.natAbs

/-- The number of an argument; a quote in front takes the code of a character. -/
def argumentNumber (text : Bytes) : Int :=
  match text with
  | '\'' :: c :: _ => c.toNat
  | '"' :: c :: _ => c.toNat
  | text => (int? text).getD 0

/-- What an argument becomes in a place, and whether it ends all output. -/
def fill (f : Field) (argument : Bytes) : Bytes × Bool :=
  match f.kind with
  | 's' => (padded { f with zeros := false } (argument.take (f.precision.getD argument.length)), false)
  | 'b' =>
    let (text, ended) := unescaped (argument.length + 1) argument
    (padded { f with zeros := false } text, ended)
  | 'c' => (padded { f with zeros := false } (argument.take 1), false)
  | 'x' => (padded f (digitsIn 16 (argumentNumber argument)), false)
  | 'X' => (padded f ((digitsIn 16 (argumentNumber argument)).map Char.toUpper), false)
  | 'o' => (padded f (digitsIn 8 (argumentNumber argument)), false)
  | _ => (padded f (digitsIn 10 (argumentNumber argument)), false)

/-- One pass over a template: the text, the arguments left, and whether output ends here. -/
def template : Nat → List Bytes → Bytes → Bytes × List Bytes × Bool
  | 0, arguments, _ => ([], arguments, true)
  | _, arguments, [] => ([], arguments, false)
  | fuel + 1, arguments, c :: rest =>
    let go (front : Bytes) (arguments : List Bytes) (behind : Bytes) : Bytes × List Bytes × Bool :=
      let (text, left, ended) := template fuel arguments behind
      (front ++ text, left, ended)
    match c, rest with
    | '\\', d :: rest =>
      if isOctal d then
        let (byte, behind) := octal 3 (d :: rest)
        go [byte] arguments behind
      else
        match letterEscape? d with
        | some byte => go [byte] arguments rest
        | none => go ['\\', d] arguments rest
    | '%', '%' :: rest => go ['%'] arguments rest
    | '%', rest =>
      match field? rest with
      | some (f, behind) =>
        let (text, ended) := fill f (arguments.head?.getD [])
        if ended then (text, arguments.drop 1, true) else go text (arguments.drop 1) behind
      | none => go ['%'] arguments rest
    | c, rest => go [c] arguments rest

/-- A template with its arguments, used anew as long as arguments are left. -/
def formatted : Nat → Bytes → List Bytes → Bytes
  | 0, _, _ => []
  | fuel + 1, format, arguments =>
    let (text, left, ended) := template (format.length + 1) arguments format
    if ended || left.isEmpty || left.length = arguments.length then text
    else text ++ formatted fuel format left

end ApiLint.Shell
