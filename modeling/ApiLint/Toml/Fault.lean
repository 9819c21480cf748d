import ApiLint.Text.Lines
import ApiLint.Text.Quoted

/-! Faults of configuration files in TOML. A reader stops at the first one and keeps what was left of
the input there, from which the place in the file follows. -/

namespace ApiLint.Toml

/-- The parts of a dotted key. -/
abbrev Key := List (List Char)

/-- A key as messages show it; a key of one part keeps a comma behind it. -/
def Key.shown (key : Key) : List Char :=
  match key with
  | [part] => '(' :: Text.quoted (Text.ofChars part) ++ [',', ')']
  | parts => Text.bracketed '(' ')' (parts.map fun part => Text.quoted (Text.ofChars part))

inductive Cause where
  | invalidValue
  | invalidStatement
  | expectingEquals
  | expectingLineEnd
  | keyStart
  | tableEnd
  | tableItemEnd
  | declaredTwice (key : Key)
  | redefined (key : Key)
  | immutable (key : Key)
  | overwritten
  | duplicateKey (part : List Char)
  | unclosedArray
  | unclosedTable
  | unterminatedString
  | expecting (mark : List Char)
  | illegalCharacter (c : Char)
  | invalidCharacter (c : Char)
  | backslash
  | hexadecimal
  | notScalar
  | invalidDate
  deriving DecidableEq, Repr

def quotedChars (cs : List Char) : String :=
  String.ofList (Text.quoted (Text.ofChars cs))

def Cause.message : Cause → String
  | invalidValue => "Invalid value"
  | invalidStatement => "Invalid statement"
  | expectingEquals => "Expected '=' after a key in a key/value pair"
  | expectingLineEnd => "Expected newline or end of document after a statement"
  | keyStart => "Invalid initial character for a key part"
  | tableEnd => "Expected ']' at the end of a table declaration"
  | tableItemEnd => "Expected ']]' at the end of an array declaration"
  | declaredTwice key => "Cannot declare " ++ String.ofList key.shown ++ " twice"
  | redefined key => "Cannot redefine namespace " ++ String.ofList key.shown
  | immutable key => "Cannot mutate immutable namespace " ++ String.ofList key.shown
  | overwritten => "Cannot overwrite a value"
  | duplicateKey part => "Duplicate inline table key " ++ quotedChars part
  | unclosedArray => "Unclosed array"
  | unclosedTable => "Unclosed inline table"
  | unterminatedString => "Unterminated string"
  | expecting mark => "Expected " ++ quotedChars mark
  | illegalCharacter c => "Illegal character " ++ quotedChars [c]
  | invalidCharacter c => "Found invalid character " ++ quotedChars [c]
  | backslash => "Unescaped '\\' in a string"
  | hexadecimal => "Invalid hex value"
  | notScalar => "Escaped character is not a Unicode scalar value"
  | invalidDate => "Invalid date or datetime"

/-- Why reading stopped; `rest` is the input from the place of the fault on. -/
inductive Stop where
  | malformed (cause : Cause) (rest : List Char)
  | longInteger (digits : Nat)
  | tooDeep
  deriving DecidableEq, Repr

/-- The rest of the input after something that holds no value. -/
abbrev SkipRead := Except Stop (List Char)

/-- Characters that were read, and the input after them. -/
abbrev CharsRead := Except Stop (List Char × List Char)

def fail {α : Type} (cause : Cause) (rest : List Char) : Except Stop α :=
  .error (.malformed cause rest)

/-- Why a file cannot be read; there is no place when the fault lies at its end. -/
inductive Fault where
  | malformed (cause : Cause) (place : Option Text.Place)
  | longInteger (digits : Nat)
  | tooDeep
  deriving DecidableEq, Repr

def Fault.ofStop (cs : List Char) : Stop → Fault
  | .malformed cause rest =>
    .malformed cause (if rest.isEmpty then none else some (.after (Text.before cs rest)))
  | .longInteger n => .longInteger n
  | .tooDeep => .tooDeep

def placeText : Option Text.Place → String
  | none => " (at end of document)"
  | some place =>
    " (at line " ++ toString place.line ++ ", column " ++ toString place.column ++ ")"

end ApiLint.Toml
