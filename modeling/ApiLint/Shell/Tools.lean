import ApiLint.Shell.Format
import ApiLint.Shell.Session

/-! Commands that need no other script: what they print, and the status that they leave. -/

namespace ApiLint.Shell

/-- The signals by their names. -/
def signals : List (String × Nat) :=
  [("HUP", 1), ("INT", 2), ("QUIT", 3), ("ILL", 4), ("TRAP", 5), ("ABRT", 6), ("BUS", 7), ("FPE", 8),
    ("KILL", 9), ("USR1", 10), ("SEGV", 11), ("USR2", 12), ("PIPE", 13), ("ALRM", 14), ("TERM", 15),
    ("CHLD", 17), ("CONT", 18), ("URG", 23), ("WINCH", 28)]

/-- Whether a process that does nothing about a signal ends by it. -/
def isDeadly (signal : Nat) : Bool :=
  signal ≠ 0 && signal ≠ 17 && signal ≠ 18 && signal ≠ 23 && signal ≠ 28

def signal? (name : Bytes) : Option Nat :=
  match int? name with
  | some n => if 0 ≤ n ∧ n < 65 then some n.toNat else none
  | none =>
    let plain := if "SIG".toList.isPrefixOf name then name.drop 3 else name
    (signals.find? fun s => s.1.toList = plain).map Prod.snd

/-- The signal and the processes that it is for. -/
def killArguments (arguments : List Bytes) : Option (Nat × List Bytes) :=
  match arguments with
  | ['-', 's'] :: name :: rest => (signal? name).map fun n => (n, rest)
  | ('-' :: name) :: rest => (signal? name).map fun n => (n, rest)
  | rest => some (15, rest)

def seconds? (cs : Bytes) : Option Float :=
  let whole := cs.takeWhile Char.isDigit
  let behind := cs.drop whole.length
  let (part, unit) := match behind with
    | '.' :: rest => (rest.takeWhile Char.isDigit, rest.dropWhile Char.isDigit)
    | rest => ([], rest)
  if cs = "inf".toList ∨ cs = "infinity".toList then some (1 / 0)
  else if whole.isEmpty && part.isEmpty then none
  else
    let amount := Float.ofScientific (number (whole ++ part)) true part.length
    match unit with
    | [] => some amount
    | ['s'] => some amount
    | ['m'] => some (60 * amount)
    | ['h'] => some (3600 * amount)
    | ['d'] => some (86400 * amount)
    | _ => none

/-- Whether a condition about numbers holds. -/
def compare? (operator : String) (a b : Int) : Option Bool :=
  match operator with
  | "-eq" => some (a = b)
  | "-ne" => some (a ≠ b)
  | "-lt" => some (a < b)
  | "-le" => some (a ≤ b)
  | "-gt" => some (a > b)
  | "-ge" => some (a ≥ b)
  | _ => none

namespace Session

def holds (s : Session) (operator : Bytes) (text : Bytes) : Bool :=
  match String.ofList operator with
  | "-n" => !text.isEmpty
  | "-z" => text.isEmpty
  | "-e" => (s.tree.find s.directory (shown text)).isOk
  | "-r" => (s.tree.find s.directory (shown text)).isOk
  | "-w" => (s.tree.find s.directory (shown text)).isOk
  | "-f" => match s.tree.find s.directory (shown text) with
    | .ok (_, .file _ _) => true
    | .ok (_, .tool _) => true
    | _ => false
  | "-s" => match s.tree.find s.directory (shown text) with
    | .ok (_, .file bytes _) => !bytes.isEmpty
    | .ok _ => true
    | .error _ => false
  | "-x" => match s.tree.find s.directory (shown text) with
    | .ok (_, .file _ executable) => executable
    | .ok _ => true
    | .error _ => false
  | "-d" => match s.tree.find s.directory (shown text) with
    | .ok (_, .directory) => true
    | .ok (_, .closed) => true
    | _ => false
  | _ => false

/-- The status of a condition, or the fault in it. -/
def test (s : Session) : Nat → List Bytes → Except String Bool
  | 0, _ => .ok false
  | _, [] => .ok false
  | _, [text] => .ok !text.isEmpty
  | fuel + 1, ['!'] :: rest => (s.test fuel rest).map not
  | _, [operator, text] => .ok (s.holds operator text)
  | _, [a, operator, b] =>
    match String.ofList operator with
    | "=" => .ok (a = b)
    | "!=" => .ok (a ≠ b)
    | name =>
      match compare? name 0 0, int? a, int? b with
      | some _, some m, some n => .ok ((compare? name m n).getD false)
      | some _, none, _ => .error ("Illegal number: " ++ String.ofList a)
      | some _, _, none => .error ("Illegal number: " ++ String.ofList b)
      | none, _, _ => .error (name ++ ": unexpected operator")
  | _, _ :: operator :: _ => .error (String.ofList operator ++ ": unexpected operator")

def runTest (s : Session) (name : String) (arguments : List Bytes) : Session :=
  match s.test (arguments.length + 1) arguments with
  | .ok b => s.withStatus (if b then 0 else 1)
  | .error message => (s.fault (name ++ ": " ++ message).toList).withStatus 2

/-- Every file of some names, or the input without any, each handled in turn. -/
def eachFile (s : Session) (tool : String) (handle : Bytes → Bytes) : List Bytes → Session
  | [] => s
  | name :: rest =>
    if name = ['-'] then ({ s with input := [] }.print (handle s.input)).eachFile tool handle rest
    else
      match s.readFile name with
      | .ok bytes => (s.print (handle bytes)).eachFile tool handle rest
      | .error fault =>
        let message := tool.toList ++ ": ".toList ++ name ++ ": ".toList ++ (faultText fault).toList
        ((s.complain message).withStatus 1).eachFile tool handle rest

def filterFiles (s : Session) (tool : String) (handle : Bytes → Bytes) (names : List Bytes) : Session :=
  (s.withStatus 0).eachFile tool handle (if names.isEmpty then [['-']] else names)

def firstLines : Nat → Bytes → Bytes
  | _, [] => []
  | 0, _ => []
  | n + 1, '\n' :: rest => '\n' :: firstLines n rest
  | n + 1, c :: rest => c :: firstLines (n + 1) rest

def runHead (s : Session) (arguments : List Bytes) : Session :=
  match arguments with
  | ['-', 'c'] :: n :: names => s.filterFiles "head" (fun text => text.take (number n)) names
  | ('-' :: 'c' :: n) :: names => s.filterFiles "head" (fun text => text.take (number n)) names
  | ['-', 'n'] :: n :: names => s.filterFiles "head" (firstLines (number n)) names
  | ('-' :: n) :: names =>
    let digits := if n.head? = some 'n' then n.drop 1 else n
    s.filterFiles "head" (firstLines (number digits)) names
  | names => s.filterFiles "head" (firstLines 10) names

def wordCount (text : Bytes) : Nat :=
  ((text.splitBy fun a b => a.isWhitespace = b.isWhitespace).filter fun run =>
    !(run.head?.map Char.isWhitespace).getD true).length

def runCount (s : Session) (arguments : List Bytes) : Session :=
  let line (n : Nat) : Bytes := (toString n).toList ++ ['\n']
  match arguments with
  | [['-', 'c']] => s.filterFiles "wc" (fun text => line text.length) []
  | [['-', 'l']] => s.filterFiles "wc" (fun text => line (text.count '\n')) []
  | [['-', 'w']] => s.filterFiles "wc" (fun text => line (wordCount text)) []
  | _ => s.withStatus 1

def runSequence (s : Session) (arguments : List Bytes) : Session :=
  let (low, high) := match arguments with
    | [high] => (1, (int? high).getD 0)
    | low :: high :: _ => ((int? low).getD 0, (int? high).getD 0)
    | [] => (1, 0)
  let lines := (List.range (high - low + 1).toNat).flatMap fun (i : Nat) =>
    (toString (low + (i : Int))).toList ++ ['\n']
  (s.print lines).withStatus 0

def quoted (s : Session) (text : Bytes) : Bytes :=
  let locale := ((s.lookup? "LC_ALL".toList).getD []) ++ ((s.lookup? "LANG".toList).getD [])
  if Text.occursIn "UTF-8".toList locale then bytesOf ['‘'] ++ text ++ bytesOf ['’']
  else '\'' :: text ++ ['\'']

def runSleep (s : Session) (called : Bytes) (arguments : List Bytes) : Session :=
  let hint := "Try '".toList ++ called ++ " --help' for more information.".toList
  match arguments.map seconds? with
  | [] =>
    ((s.complain (called ++ ": missing operand".toList)).complain hint).withStatus 1
  | times =>
    match arguments.find? fun a => (seconds? a).isNone with
    | some bad =>
      let message := match bad with
        | '-' :: c :: _ => called ++ ": invalid option -- '".toList ++ c :: "'".toList
        | bad => called ++ ": invalid time interval ".toList ++ s.quoted bad
      ((s.complain message).complain hint).withStatus 1
    | none =>
      let add (sum : Float) (t : Option Float) : Float := sum + t.getD 0
      { s with slept := times.foldl add s.slept }.withStatus 0

def runPrintenv (s : Session) (names : List Bytes) : Session :=
  match names with
  | [] =>
    let shown (v : Variable) : Bytes := v.name ++ '=' :: v.value ++ ['\n']
    let lines := (s.bindings.filter Variable.exported).flatMap shown
    (s.print lines).withStatus 0
  | names =>
    let found := names.filterMap s.lookup?
    (s.print (found.flatMap fun value => value ++ ['\n'])).withStatus
      (if found.length = names.length then 0 else 1)

/-- Reads one line of the input into variables, of which the last one gets all that is left. -/
def runRead (s : Session) (names : List Bytes) : Session :=
  let line := s.input.takeWhile (· ≠ '\n')
  let whole := s.input.contains '\n'
  let blank (c : Char) : Bool := c = ' ' || c = '\t'
  let rec go (s : Session) (rest : Bytes) : List Bytes → Session
    | [] => s
    | [last] =>
      s.assign last ((rest.dropWhile blank).reverse.dropWhile blank).reverse
    | name :: names =>
      let rest := rest.dropWhile blank
      let first := rest.takeWhile fun c => !blank c
      go (s.assign name first) (rest.drop first.length) names
  let names := names.filter fun name => name != ['-', 'r']
  (go { s with input := (s.input.drop line.length).drop 1 } line names).withStatus (if whole then 0 else 1)

/-- Goes to another directory. -/
def changeDirectory (s : Session) (name : Bytes) : Session :=
  match s.tree.find s.directory (shown name) with
  | .ok (steps, .directory) =>
    let s := { s with directory := ⟨.root, steps⟩ }
    (s.assign "PWD".toList (bytesOf s.directory.chars)).withStatus 0
  | _ => (s.fault ("cd: can't cd to ".toList ++ name)).withStatus 2

/-- The commands that a script finds in itself or in the system under the same rules. -/
def tool? (s : Session) (name : String) (arguments : List Bytes) : Option Session :=
  match name with
  | ":" => some (s.withStatus 0)
  | "true" => some (s.withStatus 0)
  | "false" => some (s.withStatus 1)
  | "printf" => some <| match arguments with
    | [] => (s.fault "printf: usage: printf format [arg ...]".toList).withStatus 2
    | format :: rest =>
      (s.print (formatted (rest.length + 1) format rest)).withStatus 0
  | "pwd" => some ((s.print (bytesOf s.directory.chars ++ ['\n'])).withStatus 0)
  | "test" => some (s.runTest "test" arguments)
  | "[" => some <|
    if arguments.getLast? = some [']'] then s.runTest "[" arguments.dropLast
    else (s.fault "[: missing ]".toList).withStatus 2
  | "cat" => some (s.filterFiles "cat" id arguments)
  | "head" => some (s.runHead arguments)
  | "wc" => some (s.runCount arguments)
  | "seq" => some (s.runSequence arguments)
  | "sleep" => some (s.runSleep "sleep".toList arguments)
  | "env" => some (s.runPrintenv [])
  | "printenv" => some (s.runPrintenv arguments)
  | _ => none

/-- The commands that change the script itself. -/
def ownCommand? (s : Session) (name : String) (arguments : List Bytes) : Option Session :=
  match name with
  | "echo" => some ((s.print (echo arguments)).withStatus 0)
  | "cd" => some (s.changeDirectory (arguments.head?.getD ((s.lookup? "HOME".toList).getD [])))
  | "read" => some (s.runRead arguments)
  | "wait" => some (s.withStatus 0)
  | "trap" => some (s.withStatus 0)
  | "shift" => some <|
    let count := (arguments.head?.map number).getD 1
    { s with parameters := s.parameters.drop count }.withStatus 0
  | "set" => some <|
    match arguments with
    | ['-', '-'] :: words => { s with parameters := words }.withStatus 0
    | ('-' :: flags) :: _ => { s with strict := s.strict || flags.contains 'e' }.withStatus 0
    | ('+' :: flags) :: _ => { s with strict := s.strict && !flags.contains 'e' }.withStatus 0
    | words => { s with parameters := words }.withStatus 0
  | "unset" => some <|
    { s with bindings := s.bindings.filter fun v => !arguments.contains v.name }.withStatus 0
  | "export" => some <| (arguments.foldl (fun s a =>
      let name := a.takeWhile (· ≠ '=')
      if name.length < a.length then (s.assign name (a.drop (name.length + 1))).exportName name
      else s.exportName name) s).withStatus 0
  | _ => none

end Session

end ApiLint.Shell
