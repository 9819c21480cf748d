import ApiLint.Glob.Pattern
import ApiLint.Text.Lines
import ApiLint.Value

/-! Which documents are in scope. A pattern that is not rooted is read under a base directory, both
kinds of separator count as one, and a document is included when some pattern matches its path. -/

namespace ApiLint.Scope

/-- The inclusion patterns of the settings: one pattern a line, blank lines left out. -/
def patterns (text : List Char) : List (List Char) :=
  ((Text.splitLines text).map Text.trim).filter fun line => !line.isEmpty

/-- What a caller gives in place of a path. -/
inductive Place where
  | path (value : List Char)
  | other (value : Value)

inductive Fault where
  /-- The separator is not one character. -/
  | separator
  /-- A value that is no path stands where one is needed. -/
  | notAPath (kind : String)
  deriving DecidableEq, Repr

namespace Fault

def message : Fault → String
  | separator => "separator must be a single character"
  | notAPath kind => "expected str, bytes or os.PathLike object, not " ++ kind

end Fault

namespace Place

def path? : Place → Except Fault (List Char)
  | path value => .ok value
  | other value => .error (.notAPath value.kindName)

def isMissing : Place → Bool
  | other .null => true
  | _ => false

def shown : Place → List Char
  | path value => value
  | other value => value.shown

/-- The fault in writing a place out within so many levels. -/
def writingFault? (levels : Nat) : Place → Option WritingFault
  | path _ => none
  | other value => value.writingFault? levels

end Place

/-- A text in which both kinds of separator are the given one. -/
def normalize (sep value : List Char) : List Char :=
  Text.replace '\\' sep (Text.replace '/' sep value)

/-- The one character that a separator text has to be. -/
def separator? : List Char → Except Fault Char
  | [sep] => .ok sep
  | _ => .error .separator

def isDriveLetter (c : Char) : Bool :=
  ('A' ≤ c && c ≤ 'Z') || ('a' ≤ c && c ≤ 'z')

/-- Whether a text starts with a drive letter and a colon. -/
def hasDrive : List Char → Bool
  | c :: ':' :: _ => isDriveLetter c
  | _ => false

/-- Whether a pattern is matched as it stands: it opens with a wildcard, with the separator, or with a
drive. -/
def isRooted (sep : Char) (pattern : List Char) : Bool :=
  pattern.head? = some '*' || Glob.opened sep pattern || hasDrive pattern

/-- A base directory that ends with the separator. -/
def closeBase (sep : Char) (base : List Char) : List Char :=
  if Glob.closed sep base then base else base ++ [sep]

/-- A pattern as it is matched: rooted, or under the base directory. -/
def resolve (sep : Char) (base : Place) (pattern : List Char) : Except Fault (List Char) :=
  let pattern := normalize [sep] pattern
  if isRooted sep pattern then .ok pattern
  else do
    let base ← base.path?
    return closeBase sep (normalize [sep] base) ++ pattern

/-- Whether some pattern matches a path; empty patterns match nothing, and no pattern after the first
match is looked at. -/
def anyMatches (sep : Char) (base : Place) (path : List Char) : List (List Char) → Except Fault Bool
  | [] => .ok false
  | pattern :: patterns =>
    if pattern.isEmpty then anyMatches sep base path patterns
    else do
      let resolved ← resolve sep base pattern
      if Glob.matchesPath sep resolved path then return true
      else anyMatches sep base path patterns

/-- Whether a document is included by the patterns under a base directory. -/
def isIncluded (sep : Char) (base candidate : Place) (patterns : List (List Char)) :
    Except Fault Bool := do
  let path ← candidate.path?
  anyMatches sep base (normalize [sep] path) patterns

end ApiLint.Scope
