import ApiLint.Shell.Lexeme

/-! The reader of scripts. -/

namespace ApiLint.Shell

/-- Where a script stops making sense. -/
structure ScriptFault where
  line : Nat
  what : String
  wanted : Option String
  deriving DecidableEq, Repr

def ScriptFault.message (f : ScriptFault) : String :=
  "Syntax error: " ++ f.what ++
    ((f.wanted.map fun w => " (expecting \"" ++ w ++ "\")").getD "")

abbrev Reading := Except ScriptFault

/-- Words that the language keeps for itself where a command begins. -/
def keywordAt? : List Lexeme → Option Bytes
  | ⟨.word w, _⟩ :: _ =>
    (literal? w).filter fun text =>
      ["if", "then", "elif", "else", "fi", "while", "until", "do", "done", "for", "in", "!", "\x7b",
        "\x7d"].any fun k => k.toList = text
  | _ => none

/-- How a lexeme is called in faults; a word that is none of the language's own has no name. -/
def Lexeme.shown (l : Lexeme) : String :=
  match l.token with
  | .word _ => ((keywordAt? [l]).map fun t => "\"" ++ String.ofList t ++ "\"").getD "word"
  | .mark m => "\"" ++ m ++ "\""
  | .descriptor _ => "redirection"
  | .newline => "newline"

def unexpected (last : Nat) (ls : List Lexeme) (wanted : Option String) : ScriptFault :=
  match ls with
  | [] => ⟨last, "end of file unexpected", wanted⟩
  | l :: _ => ⟨l.line, l.shown ++ " unexpected", wanted⟩

def isMark (m : String) : List Lexeme → Bool
  | ⟨.mark n, _⟩ :: _ => m = n
  | _ => false

def skipNewlines (ls : List Lexeme) : List Lexeme :=
  ls.dropWhile fun l => l.token = .newline

/-- Takes a word that has to stand here. -/
def expect (keyword : String) (last : Nat) (ls : List Lexeme) : Reading (List Lexeme) :=
  if keywordAt? ls = some keyword.toList then .ok (ls.drop 1)
  else .error (unexpected last ls (some keyword))

def wayOf? (m : String) : Option (Way × Nat) :=
  match m with
  | "<" => some (.read, 0)
  | ">" => some (.write, 1)
  | ">|" => some (.write, 1)
  | ">>" => some (.append, 1)
  | "<&" => some (.copy, 0)
  | ">&" => some (.copy, 1)
  | "<<" => some (.document, 0)
  | _ => none

def redirection? (last : Nat) (ls : List Lexeme) : Reading (Option (Redirection × List Lexeme)) :=
  let behind (given : Option Nat) (ls : List Lexeme) : Reading (Option (Redirection × List Lexeme)) :=
    match ls with
    | ⟨.mark m, _⟩ :: rest =>
      match wayOf? m, rest with
      | some (way, usual), ⟨.word target, _⟩ :: rest =>
        .ok (some (⟨given.getD usual, way, target⟩, rest))
      | some _, rest => .error (unexpected last rest none)
      | none, _ => .ok none
    | _ => .ok none
  match ls with
  | ⟨.descriptor n, _⟩ :: rest => behind (some n) rest
  | ls => behind none ls

/-- A word of the form `name=value`. -/
def assignment? : Word → Option (Bytes × Word)
  | .text [c] false :: rest =>
    let front := (Piece.text [c] false :: rest).takeWhile fun p =>
      match p with
      | .text [d] false => isNameChar d
      | _ => false
    match (Piece.text [c] false :: rest).drop front.length with
    | .text ['='] false :: value =>
      if isNameStart c then (literal? front).map fun name => (name, value) else none
    | _ => none
  | _ => none

/-- The rest of a command behind what is already read, which is in reverse. -/
def simpleRest (last : Nat) : Nat → Simple → List Lexeme → Reading (Simple × List Lexeme)
  | 0, s, ls => .ok (s, ls)
  | fuel + 1, s, ls => do
    match ← redirection? last ls with
    | some (r, rest) => simpleRest last fuel { s with redirections := r :: s.redirections } rest
    | none =>
      match ls with
      | ⟨.word w, _⟩ :: rest =>
        match (if s.words.isEmpty then assignment? w else none) with
        | some a => simpleRest last fuel { s with assignments := a :: s.assignments } rest
        | none => simpleRest last fuel { s with words := w :: s.words } rest
      | ls => .ok (s, ls)

def simple (last : Nat) (ls : List Lexeme) : Reading (Script × List Lexeme) := do
  let line := (ls.head?.map Lexeme.line).getD last
  let (s, rest) ← simpleRest last (ls.length + 1) ⟨line, [], [], []⟩ ls
  if s.assignments.isEmpty && s.words.isEmpty && s.redirections.isEmpty then
    throw (unexpected last ls none)
  return (.simple ⟨line, s.assignments.reverse, s.words.reverse, s.redirections.reverse⟩, rest)

/-- The redirections behind a group of commands. -/
def redirections (last : Nat) : Nat → List Lexeme → Reading (List Redirection × List Lexeme)
  | 0, ls => .ok ([], ls)
  | fuel + 1, ls => do
    match ← redirection? last ls with
    | some (r, rest) =>
      let (more, rest) ← redirections last fuel rest
      return (r :: more, rest)
    | none => return ([], ls)

/-- Words up to the end of a line or of a command. -/
def wordsHere : List Lexeme → List Word × List Lexeme
  | ⟨.word w, _⟩ :: rest =>
    let (more, rest) := wordsHere rest
    (w :: more, rest)
  | ls => ([], ls)

/-- What is read next. -/
inductive Part where
  | list
  | chain
  | chained (first : Script)
  | pipeline
  | command
  | elseBranch

/-- Skips the mark or the newlines in front of a body. -/
def skipSeparator (ls : List Lexeme) : List Lexeme :=
  skipNewlines (if isMark ";" ls then ls.drop 1 else ls)

def script (last : Nat) : Nat → Part → List Lexeme → Reading (Script × List Lexeme)
  | 0, _, ls => .error (unexpected last ls none)
  | fuel + 1, .list, ls => do
    let ls := skipNewlines ls
    let closes := (keywordAt? ls).any fun k =>
      ["then", "elif", "else", "fi", "do", "done", "\x7d"].any fun w => w.toList = k
    if ls.isEmpty || closes || isMark ")" ls then return (.nothing, ls)
    let (first, rest) ← script last fuel .chain ls
    match rest with
    | ⟨.mark ";", _⟩ :: rest =>
      let (more, rest) ← script last fuel .list rest
      return (.inOrder first more, rest)
    | ⟨.mark "&", _⟩ :: rest =>
      -- what runs beside the script still holds its output open
      let (more, rest) ← script last fuel .list rest
      return (.inOrder first more, rest)
    | ⟨.newline, _⟩ :: rest =>
      let (more, rest) ← script last fuel .list rest
      return (.inOrder first more, rest)
    | rest => return (first, rest)
  | fuel + 1, .chain, ls => do
    let (first, rest) ← script last fuel .pipeline ls
    script last fuel (.chained first) rest
  | fuel + 1, .chained first, ls => do
    if isMark "&&" ls then
      let (second, rest) ← script last fuel .pipeline (skipNewlines (ls.drop 1))
      script last fuel (.chained (.both first second)) rest
    else if isMark "||" ls then
      let (second, rest) ← script last fuel .pipeline (skipNewlines (ls.drop 1))
      script last fuel (.chained (.either first second)) rest
    else return (first, ls)
  | fuel + 1, .pipeline, ls => do
    if keywordAt? ls = some ['!'] then
      let (s, rest) ← script last fuel .pipeline (ls.drop 1)
      return (.negated s, rest)
    let (source, rest) ← script last fuel .command ls
    if isMark "|" rest then
      let (target, rest) ← script last fuel .pipeline (skipNewlines (rest.drop 1))
      return (.pipe source target, rest)
    else return (source, rest)
  | fuel + 1, .elseBranch, ls => do
    match (keywordAt? ls).map String.ofList with
    | some "elif" =>
      let (condition, rest) ← script last fuel .list (ls.drop 1)
      let rest ← expect "then" last rest
      let (yes, rest) ← script last fuel .list rest
      let (no, rest) ← script last fuel .elseBranch rest
      return (.branch condition yes no, rest)
    | some "else" =>
      let (no, rest) ← script last fuel .list (ls.drop 1)
      return (no, ← expect "fi" last rest)
    | _ => return (.nothing, ← expect "fi" last ls)
  | fuel + 1, .command, ls => do
    let closed (body : Script) (ls : List Lexeme) : Reading (Script × List Lexeme) := do
      let (rs, rest) ← redirections last (ls.length + 1) ls
      return (if rs.isEmpty then body else .group body rs, rest)
    if isMark "(" ls then
      let (body, rest) ← script last fuel .list (ls.drop 1)
      if !isMark ")" rest then throw (unexpected last rest (some ")"))
      let (rs, rest) ← redirections last (rest.length + 1) (rest.drop 1)
      return (.subshell body rs, rest)
    match (keywordAt? ls).map String.ofList with
    | some "if" =>
      let (condition, rest) ← script last fuel .list (ls.drop 1)
      let rest ← expect "then" last rest
      let (yes, rest) ← script last fuel .list rest
      let (no, rest) ← script last fuel .elseBranch rest
      closed (.branch condition yes no) rest
    | some "for" =>
      match ls.drop 1 with
      | ⟨.word w, _⟩ :: rest =>
        let name := (literal? w).getD []
        let (words, rest) :=
          if keywordAt? rest = some ['i', 'n'] then wordsHere (rest.drop 1)
          else ([[.parameter ['@'] none true]], rest)
        let rest ← expect "do" last (skipSeparator rest)
        let (body, rest) ← script last fuel .list rest
        closed (.each name words body) (← expect "done" last rest)
      | rest => throw (unexpected last rest none)
    | some "\x7b" =>
      let (body, rest) ← script last fuel .list (ls.drop 1)
      closed (.group body []) (← expect "\x7d" last rest)
    | some word =>
      if word = "while" ∨ word = "until" then
        let (condition, rest) ← script last fuel .list (ls.drop 1)
        let rest ← expect "do" last rest
        let (body, rest) ← script last fuel .list rest
        closed (.loop (word = "while") condition body) (← expect "done" last rest)
      else throw (unexpected last ls none)
    | none => simple last ls

def read (text : Bytes) : Reading Script := do
  let last := 1 + text.count '\n'
  let ls := lexemes (text.length + 1) 1 text
  let (s, rest) ← script last (2 * text.length + 10) .list ls
  if rest.isEmpty then return s else throw (unexpected last rest none)

end ApiLint.Shell
