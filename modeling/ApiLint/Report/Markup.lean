import ApiLint.Console.Line
import ApiLint.Literal.Reader
import ApiLint.Report.Style

/-! Console markup: tags in square brackets that open and close styles. `Markup.read` gives the text that
is left when the tags are gone, and the spans of it that have a style. A backslash before a tag makes it
plain text, and two of them are one plain backslash. The name of a tag ends at an equals sign, and a tag
whose name begins with `@` has an action behind it, with arguments that have to be literals. -/

namespace ApiLint.Markup

/-- A piece of a text with markup: plain characters, what backslashes in front of a tag make plain, or a
tag without its brackets and the place where it stands. -/
inductive Piece where
  | plain (cs : List Char)
  | escaped (cs : List Char)
  | tag (position : Nat) (content : List Char)
  deriving DecidableEq, Repr

def opensTag (c : Char) : Bool :=
  ('a' ≤ c && c ≤ 'z') || c = '#' || c = '/' || c = '@'

/-- The name of a tag and the text behind it, when the text stands behind an opening bracket. -/
def tagAfter? : List Char → Option (List Char × List Char)
  | [] => none
  | c :: rest =>
    if opensTag c then
      match rest.dropWhile fun x => x ≠ ']' && x ≠ '[' with
      | ']' :: behind => some (c :: rest.takeWhile (fun x => x ≠ ']' && x ≠ '['), behind)
      | _ => none
    else none

theorem length_behind_tag {cs name behind : List Char} (h : tagAfter? cs = some (name, behind)) :
    behind.length < cs.length := by
  cases cs with
  | nil => simp [tagAfter?] at h
  | cons c rest =>
    simp only [tagAfter?] at h
    split at h
    · split at h
      · rename_i b hb
        have hl : (rest.dropWhile fun x => x ≠ ']' && x ≠ '[').length ≤ rest.length :=
          (List.dropWhile_sublist _).length_le
        rw [hb] at hl
        simp only [Option.some.injEq, Prod.mk.injEq] at h
        obtain ⟨-, rfl⟩ := h
        simp only [List.length_cons] at hl ⊢
        omega
      · simp at h
    · simp at h

def tagPieces (position backslashes : Nat) (name : List Char) : List Piece :=
  let literal := Piece.escaped (List.replicate (backslashes / 2) '\\')
  if backslashes % 2 = 1 then [literal, .escaped ('[' :: name ++ [']'])]
  else [literal, .tag position name]

def piecesFrom (position backslashes : Nat) (cs : List Char) : List Piece :=
  match cs with
  | [] => [.plain (List.replicate backslashes '\\')]
  | '\\' :: rest => piecesFrom (position + 1) (backslashes + 1) rest
  | '[' :: rest =>
    match h : tagAfter? rest with
    | some (name, behind) =>
      tagPieces position backslashes name ++ piecesFrom (position + name.length + 2) 0 behind
    | none =>
      .plain (List.replicate (backslashes - 1) '\\' ++ ['[']) :: piecesFrom (position + 1) 0 rest
  | c :: rest =>
    .plain (List.replicate backslashes '\\' ++ [c]) :: piecesFrom (position + 1) 0 rest
termination_by cs.length
decreasing_by
  · simp
  · have := length_behind_tag h
    simp only [List.length_cons]
    omega
  · simp
  · simp

/-- Plain characters that stand together are one piece. -/
def gathered : List Piece → List Piece
  | [] => []
  | .plain cs :: rest =>
    match gathered rest with
    | .plain ds :: rest => .plain (cs ++ ds) :: rest
    | rest => .plain cs :: rest
  | piece :: rest => piece :: gathered rest

def pieces (cs : List Char) : List Piece :=
  gathered (piecesFrom 0 0 cs)

/-- Why a text with markup cannot be read. A tag is given as all that stands between its brackets. -/
inductive Fault where
  | nothingOpen (position : Nat)
  | notOpened (position : Nat) (tag : List Char)
  | action (arguments whole : List Char) (fault : Literal.Fault)
  | style (fault : Style.Fault)
  deriving DecidableEq, Repr

def Fault.message : Fault → String
  | nothingOpen position =>
    "closing tag '[/]' at position " ++ toString position ++ " has nothing to close"
  | notOpened position tag =>
    "closing tag '[" ++ String.ofList tag ++ "]' at position " ++ toString position ++
      " doesn't match any open tag"
  | action arguments whole fault =>
    "error parsing " ++
      (if fault.inNotation then Text.quotedString (String.ofList arguments) ++ " in " else "") ++
      Text.quotedString (String.ofList whole) ++ "; " ++ fault.message
  | style fault => fault.message

/-- A part of a text that has a style. -/
structure Span where
  style : List Char
  start : Nat
  stop : Nat
  deriving DecidableEq, Repr

/-- A tag that is open: the normal name of its style, what stands behind the equals sign, and how much of
the text stands in front of it. -/
structure Opened where
  name : String
  parameters : Option (List Char)
  start : Nat
  deriving DecidableEq, Repr

def styleOf (tag : List Char) : List Char :=
  tag.takeWhile (· ≠ '=')

/-- What stands behind the first equals sign of a tag. -/
def parametersOf (tag : List Char) : Option (List Char) :=
  match tag.dropWhile (· ≠ '=') with
  | [] => none
  | _ :: parameters => some parameters

/-- What a tag makes of the text between it and a place; the style is spelled with its parameters. -/
def Opened.span (o : Opened) (stop : Nat) : Span :=
  let style := match o.parameters with
    | none => o.name.toList
    | some parameters => o.name.toList ++ ' ' :: parameters
  ⟨style, o.start, stop⟩

/-- The arguments of an action: what stands in brackets behind its name, or all of it when it is not a
name with or without brackets. -/
def argumentsOf (action : List Char) : List Char :=
  match action.dropWhile fun c => Text.isWordChar c || c = '.' with
  | [] => ['(', ')']
  | c :: rest =>
    if c = '(' && rest.getLast? = some ')' && !rest.contains '\n' then c :: rest else action

/-- Why the action of a tag cannot be read. -/
def actionFault? (parameters : List Char) : Option Fault :=
  if parameters.isEmpty then none
  else
    let arguments := argumentsOf (Text.trim parameters)
    (Literal.fault? arguments).map (.action arguments parameters)

/-- The span that a closed tag leaves behind; an action leaves none with a style. -/
def Opened.closed (o : Opened) (stop : Nat) : Except Fault (List Span) :=
  if o.name.toList.head? = some '@' then
    match o.parameters.bind actionFault? with
    | some fault => .error fault
    | none => .ok []
  else .ok [o.span stop]

/-- A text without its tags, and the spans of it in the order in which their tags end. -/
structure Marked where
  text : List Char
  spans : List Span
  deriving DecidableEq, Repr

/-- The open tags behind a tag, the innermost first, and the spans that it closes. So much of the text
stands in front of it. -/
def nest (column : Nat) (opened : List Opened) (position : Nat) (tag : List Char) :
    Except Fault (List Opened × List Span) :=
  match styleOf tag with
  | '/' :: closing =>
    if (Text.trim closing).isEmpty then
      match opened with
      | [] => .error (.nothingOpen position)
      | innermost :: outer => (innermost.closed column).map fun spans => (outer, spans)
    else
      match Style.normalName (Text.trim closing) with
      | .error fault => .error (.style fault)
      | .ok name =>
        match opened.find? fun o => o.name = name with
        | none => .error (.notOpened position tag)
        | some o => (o.closed column).map fun spans => (opened.eraseP fun o => o.name = name, spans)
  | style =>
    match Style.normalName style with
    | .error fault => .error (.style fault)
    | .ok name => .ok (⟨name, parametersOf tag, column⟩ :: opened, [])

/-- The text and the spans of pieces inside the tags that are open, behind so much text. -/
def readFrom (emoji : List Char → List Char) (column : Nat) (opened : List Opened) :
    List Piece → Except Fault Marked
  | [] => .ok ⟨[], opened.map fun o => o.span column⟩
  | .plain cs :: rest | .escaped cs :: rest =>
    let shown := Console.printed (emoji cs)
    (readFrom emoji (column + shown.length) opened rest).map fun m => { m with text := shown ++ m.text }
  | .tag position tag :: rest =>
    match nest column opened position tag with
    | .ok (opened, spans) =>
      (readFrom emoji column opened rest).map fun m => { m with spans := spans ++ m.spans }
    | .error fault => .error fault

/-- Reads a text with markup. The emoji codes in each of its plain pieces are replaced by themselves. -/
def read (emoji : List Char → List Char) (cs : List Char) : Except Fault Marked :=
  readFrom emoji 0 [] (pieces cs)

namespace Marked

/-- A text without markup. -/
def plain (cs : List Char) : Marked := ⟨cs, []⟩

/-- The spans by their beginnings; of two that begin at one place, the one whose tag ends last comes
first. -/
def ordered (m : Marked) : List Span :=
  m.spans.reverse.mergeSort fun a b => a.start ≤ b.start

end Marked

end ApiLint.Markup
