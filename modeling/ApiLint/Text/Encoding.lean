import ApiLint.Decimal.Basic
import ApiLint.Text.CodePoint
import ApiLint.Text.Quoted

/-! Text as bytes. `encode` writes a text in one of four encodings and fails on a code point that the
encoding has no bytes for. `pieces` reads bytes as UTF-8: characters, and between them the longest
runs of bytes that begin no character. -/

namespace ApiLint.Text

inductive Encoding where
  | utf8
  | latin1
  | ascii
  | utf16le
  deriving DecidableEq, Repr

namespace Encoding

def name : Encoding → String
  | utf8 => "utf-8"
  | latin1 => "latin-1"
  | ascii => "ascii"
  | utf16le => "utf-16-le"

/-- Why an encoding has no bytes for a code point. -/
def limit : Encoding → String
  | utf8 => "surrogates not allowed"
  | latin1 => "ordinal not in range(256)"
  | ascii => "ordinal not in range(128)"
  | utf16le => "surrogates not allowed"

end Encoding

/-- The bytes of a number below 0x110000 in UTF-8. -/
def utf8Bytes (n : Nat) : List UInt8 :=
  if n < 0x80 then [UInt8.ofNat n]
  else if n < 0x800 then [UInt8.ofNat (0xc0 + n / 64), UInt8.ofNat (0x80 + n % 64)]
  else if n < 0x10000 then
    [UInt8.ofNat (0xe0 + n / 4096), UInt8.ofNat (0x80 + n / 64 % 64), UInt8.ofNat (0x80 + n % 64)]
  else
    [UInt8.ofNat (0xf0 + n / 262144), UInt8.ofNat (0x80 + n / 4096 % 64),
      UInt8.ofNat (0x80 + n / 64 % 64), UInt8.ofNat (0x80 + n % 64)]

/-- The low byte of a number and the byte above it. -/
def unitBytes (n : Nat) : List UInt8 :=
  [UInt8.ofNat (n % 256), UInt8.ofNat (n / 256)]

/-- The bytes of a number in UTF-16, which above 0xffff is a pair of surrogates. -/
def utf16Bytes (n : Nat) : List UInt8 :=
  if n < 0x10000 then unitBytes n
  else unitBytes (0xd800 + (n - 0x10000) / 1024) ++ unitBytes (0xdc00 + (n - 0x10000) % 1024)

def Encoding.bytes? : Encoding → CodePoint → Option (List UInt8)
  | utf8, .scalar c => some (utf8Bytes c.toNat)
  | utf16le, .scalar c => some (utf16Bytes c.toNat)
  | latin1, .scalar c => if c.toNat < 256 then some [UInt8.ofNat c.toNat] else none
  | ascii, .scalar c => if c.toNat < 128 then some [UInt8.ofNat c.toNat] else none
  | _, .half _ => none

/-- A run of code points, from a position on, that an encoding has no bytes for. -/
structure EncodingFault where
  encoding : Encoding
  position : Nat
  first : CodePoint
  length : Nat
  deriving DecidableEq, Repr

def EncodingFault.message (f : EncodingFault) : String :=
  let place :=
    if f.length = 1 then
      "character '" ++ String.ofList (numberedEscape f.first.toNat) ++ "' in position " ++
        toString f.position
    else
      "characters in position " ++ toString f.position ++ "-" ++
        toString (f.position + f.length - 1)
  "'" ++ f.encoding.name ++ "' codec can't encode " ++ place ++ ": " ++ f.encoding.limit

/-- How many code points from the first on are reported together. -/
def faultLength (encoding : Encoding) (t : Text) : Nat :=
  if encoding = .utf16le then 1 else (t.takeWhile fun x => (encoding.bytes? x).isNone).length

/-- The bytes of a text whose first code point stands at a position. -/
def encodeFrom (encoding : Encoding) : Nat → Text → Except EncodingFault (List UInt8)
  | _, [] => .ok []
  | position, x :: rest =>
    match encoding.bytes? x with
    | none => .error ⟨encoding, position, x, faultLength encoding (x :: rest)⟩
    | some bytes => (encodeFrom encoding (position + 1) rest).map (bytes ++ ·)

def encode (encoding : Encoding) (t : Text) : Except EncodingFault (List UInt8) :=
  encodeFrom encoding 0 t

/-- Why bytes begin no character. -/
inductive DecodingCause where
  | start
  | continuation
  | ending
  deriving DecidableEq, Repr

def DecodingCause.message : DecodingCause → String
  | start => "invalid start byte"
  | continuation => "invalid continuation byte"
  | ending => "unexpected end of data"

/-- A character that was read, or bytes that are none. -/
inductive Piece where
  | char (c : Char)
  | wrong (bytes : List UInt8) (cause : DecodingCause)
  deriving DecidableEq, Repr

namespace Piece

def size : Piece → Nat
  | char c => (utf8Bytes c.toNat).length
  | wrong bytes _ => bytes.length

/-- The character, where the mark of replacement stands for what is none. -/
def replaced : Piece → Char
  | char c => c
  | wrong _ _ => '\ufffd'

end Piece

/-- A character of which some bytes are still to come: those read, in reverse, how many more there
are, the range of the next one, and the number so far. -/
structure Pending where
  read : List UInt8
  missing : Nat
  low : Nat
  high : Nat
  value : Nat

/-- What a first byte opens. -/
def opening (b : UInt8) : Option Pending :=
  let n := b.toNat
  if n < 0xc2 then none
  else if n < 0xe0 then some ⟨[b], 1, 0x80, 0xbf, n - 0xc0⟩
  else if n < 0xf0 then
    some ⟨[b], 2, if n = 0xe0 then 0xa0 else 0x80, if n = 0xed then 0x9f else 0xbf, n - 0xe0⟩
  else if n < 0xf5 then
    some ⟨[b], 3, if n = 0xf0 then 0x90 else 0x80, if n = 0xf4 then 0x8f else 0xbf, n - 0xf0⟩
  else none

/-- The pieces of bytes after a character that is still open, if there is one. -/
def piecesAfter : Option Pending → List UInt8 → List Piece
  | none, [] => []
  | some p, [] => [.wrong p.read.reverse .ending]
  | none, b :: rest =>
    if b.toNat < 0x80 then .char (Char.ofNat b.toNat) :: piecesAfter none rest
    else
      match opening b with
      | none => .wrong [b] .start :: piecesAfter none rest
      | some p => piecesAfter (some p) rest
  | some p, b :: rest =>
    if p.low ≤ b.toNat ∧ b.toNat ≤ p.high then
      let value := p.value * 64 + (b.toNat - 0x80)
      if p.missing = 1 then .char (Char.ofNat value) :: piecesAfter none rest
      else piecesAfter (some ⟨b :: p.read, p.missing - 1, 0x80, 0xbf, value⟩) rest
    else
      let wrong := Piece.wrong p.read.reverse .continuation
      if b.toNat < 0x80 then wrong :: .char (Char.ofNat b.toNat) :: piecesAfter none rest
      else
        match opening b with
        | none => wrong :: .wrong [b] .start :: piecesAfter none rest
        | some q => wrong :: piecesAfter (some q) rest

def pieces (bytes : List UInt8) : List Piece :=
  piecesAfter none bytes

/-- Bytes at a position that are no text. -/
structure DecodingFault where
  position : Nat
  bytes : List UInt8
  cause : DecodingCause
  deriving DecidableEq, Repr

def DecodingFault.message (f : DecodingFault) : String :=
  let place :=
    match f.bytes with
    | [b] => "byte 0x" ++ String.ofList (hexDigits 2 b.toNat) ++ " in position " ++ toString f.position
    | bytes =>
      "bytes in position " ++ toString f.position ++ "-" ++ toString (f.position + bytes.length - 1)
  "'utf-8' codec can't decode " ++ place ++ ": " ++ f.cause.message

def charsFrom : Nat → List Piece → Except DecodingFault (List Char)
  | _, [] => .ok []
  | position, .char c :: rest =>
    (charsFrom (position + (Piece.char c).size) rest).map (c :: ·)
  | position, .wrong bytes cause :: _ => .error ⟨position, bytes, cause⟩

/-- The characters that bytes spell in UTF-8. -/
def decode (bytes : List UInt8) : Except DecodingFault (List Char) :=
  charsFrom 0 (pieces bytes)

/-- The characters that bytes spell, where every run that spells none becomes one mark. -/
def decodeLossy (bytes : List UInt8) : List Char :=
  (pieces bytes).map Piece.replaced

end ApiLint.Text
