import ApiLint.Shell.Reader
import ApiLint.Shell.Tools

/-! Running scripts, as deep as there is fuel. In the outer layer a linter that is a script runs here, so
that what it does is a function of its input and of the files around it. -/

namespace ApiLint.Shell

/-- What runs a script and gives what it printed. -/
abbrev Capture := Session → Bytes → Session × Bytes

def pieceText (capture : Capture) : Nat → Session → Word → Session × Bytes
  | 0, s, _ => (s, [])
  | _, s, [] => (s, [])
  | fuel + 1, s, piece :: rest =>
    let (s, front) : Session × Bytes :=
      match piece with
      | .text content _ => (s, content)
      | .parameter name fallback _ =>
        match s.parameter? name, fallback with
        | some value, none => (s, value)
        | some value, some fallback =>
          if value.isEmpty then
            pieceText capture fuel s (doubleQuoted false (fallback.length + 1) fallback).1
          else (s, value)
        | none, some fallback =>
          pieceText capture fuel s (doubleQuoted false (fallback.length + 1) fallback).1
        | none, none => (s, [])
      | .length name _ => (s, (toString ((s.parameter? name).getD []).length).toList)
      | .arithmetic expression _ =>
        let (s, text) := pieceText capture fuel s
          (doubleQuoted false (expression.length + 1) expression).1
        let lookup (name : Bytes) : Bytes := (s.parameter? name).getD []
        (s, (((evaluate lookup text).map toString).getD "").toList)
      | .output script _ => capture s script
    let (s, behind) := pieceText capture fuel s rest
    (s, front ++ behind)

def isQuoted : Piece → Bool
  | .text _ quoted => quoted
  | .parameter _ _ quoted => quoted
  | .length _ quoted => quoted
  | .arithmetic _ quoted => quoted
  | .output _ quoted => quoted

def isBlankByte (c : Char) : Bool := c = ' ' || c = '\t' || c = '\n'

/-- Words in the making: those done, the last one first, and the one that goes on. -/
structure Fields where
  done : List Bytes
  current : Option Bytes

namespace Fields

def add (f : Fields) (text : Bytes) : Fields :=
  { f with current := some (f.current.getD [] ++ text) }

def close (f : Fields) : Fields :=
  match f.current with
  | some text => ⟨text :: f.done, none⟩
  | none => f

def addSplit (f : Fields) (text : Bytes) : Fields :=
  text.foldl (fun f c => if isBlankByte c then f.close else f.add [c]) f

end Fields

def addPiece (capture : Capture) (fuel : Nat) (state : Session × Fields) (piece : Piece) :
    Session × Fields :=
  let (s, fields) := state
  match piece with
  | .text content quoted => (s, if quoted || !content.isEmpty then fields.add content else fields)
  | .parameter ['@'] none true =>
    match s.parameters with
    | [] => (s, fields)
    | first :: rest => (s, rest.foldl (fun f p => f.close.add p) (fields.add first))
  | piece =>
    let (s, text) := pieceText capture fuel s [piece]
    (s, if isQuoted piece then fields.add text else fields.addSplit text)

def wordTexts (capture : Capture) (fuel : Nat) : Session → List Word → Session × List Bytes
  | s, [] => (s, [])
  | s, w :: rest =>
    let (s, fields) := w.foldl (addPiece capture fuel) (s, ⟨[], none⟩)
    let (s, more) := wordTexts capture fuel s rest
    (s, fields.close.done.reverse ++ more)

/-- Leads the descriptors of a session anew; the fault when a file cannot be had. -/
def redirect (capture : Capture) (fuel : Nat) : Session → List Redirection → Except Session Session
  | s, [] => .ok s
  | s, r :: rest =>
    let (s, target) := pieceText capture fuel s r.target
    let set (s : Session) (sink : Sink) : Session :=
      if r.descriptor = 1 then { s with sinks := (sink, s.sinks.2) }
      else if r.descriptor = 2 then { s with sinks := (s.sinks.1, sink) }
      else s
    let cannot (what : String) (fault : SystemFault) : Session :=
      let reason := match fault with
        | .numbered 2 _ _ => if what = "create" then "Directory nonexistent" else "No such file"
        | fault => faultText fault
      (s.fault ("cannot ".toList ++ what.toList ++ " ".toList ++ target ++ ": ".toList ++
        reason.toList)).withStatus 2
    let intoFile (keep : Bool) : Except Session Session :=
      if target = "/dev/null".toList then .ok (set s .nothing)
      else
        match s.tree.find s.directory (shown target) with
        | .ok (_, .directory) => .error (cannot "create" (.isADirectory ""))
        | .ok (steps, .file bytes executable) =>
          let s := { s with tree := s.tree.put steps (.file (if keep then bytes else []) executable) }
          .ok (set s (.file steps))
        | .ok (steps, .tool _) => .ok (set s (.file steps))
        | .ok _ => .error (cannot "create" (.permissionDenied ""))
        | .error fault =>
          let path := s.directory.join (Path.ofChars (shown target))
          match s.tree.at? path.parts.dropLast with
          | some .directory =>
            .ok (set { s with tree := s.tree.put path.parts (.file [] false) } (.file path.parts))
          | _ => .error (cannot "create" fault)
    let next : Except Session Session :=
      match r.way with
      | .copy =>
        match target with
        | ['1'] => .ok (set s s.sinks.1)
        | ['2'] => .ok (set s s.sinks.2)
        | _ => .ok (set s .nothing)
      | .document => .ok { s with input := target }
      | .read =>
        if target = "/dev/null".toList then .ok { s with input := [] }
        else
          match s.readFile target with
          | .ok bytes => .ok { s with input := bytes }
          | .error fault => .error (cannot "open" fault)
      | .write => intoFile false
      | .append => intoFile true
    match next with
    | .ok s => redirect capture fuel s rest
    | .error s => .error s

/-- Where the programs of the system are looked for. -/
def searchPath (s : Session) : List Bytes :=
  let path := (s.lookup? "PATH".toList).getD "/usr/local/bin:/usr/bin:/bin".toList
  Text.splitAt ':' path

def program? (s : Session) (name : Bytes) : Option (Bytes × Node) :=
  let look (path : Bytes) : Option (Bytes × Node) :=
    match s.tree.find s.directory (shown path) with
    | .ok (_, node) => some (path, node)
    | .error _ => none
  if name.contains '/' then look name
  else
    (searchPath s).findSome? fun directory =>
      match look (directory ++ '/' :: name) with
      | some (_, .directory) => none
      | found => found

/-- A session in which a script starts. -/
def Session.enter (s : Session) (name : Bytes) (parameters : List Bytes) : Session :=
  let place : Variable := ⟨"PWD".toList, bytesOf s.directory.chars, true⟩
  let kept := s.bindings.filter fun v => v.exported && v.name != place.name
  { s with name := name, parameters := parameters, bindings := place :: kept, status := 0, line := 1,
           strict := false }

/-- What is left of a session when a script in it has ended: what was read and written. -/
def Session.back (outer inner : Session) : Session :=
  { outer with input := inner.input, tree := inner.tree, output := inner.output, errors := inner.errors,
               captured := inner.captured, slept := inner.slept, status := inner.status }

/-- The status of a script by the way it ended. -/
def statusOf (s : Session) : Flow → Nat
  | .killed signal => 128 + signal
  | _ => s.status

def trimNewlines (text : Bytes) : Bytes :=
  (text.reverse.dropWhile (· = '\n')).reverse

/-- The script of a file that names its interpreter in the first line. -/
def scriptOf (bytes : List UInt8) : Bytes :=
  bytes.map fun b => Char.ofNat b.toNat

/-- What a run of the shell with arguments reads: its name, its parameters, and the script. -/
def shellArguments (s : Session) (called : Bytes) (arguments : List Bytes) :
    Except Bytes (Bytes × List Bytes × Bytes) :=
  match arguments with
  | [] => .ok (called, [], s.input)
  | ['-', 'e', 'c'] :: script :: parameters =>
    .ok (parameters.head?.getD called, parameters.drop 1, "set -e\n".toList ++ script)
  | ['-', 'c'] :: script :: name :: parameters => .ok (name, parameters, script)
  | [['-', 'c'], script] => .ok (called, [], script)
  | [['-', 'c']] => .error "-c requires an argument".toList
  | file :: parameters =>
    match s.readFile file with
    | .ok bytes => .ok (file, parameters, bytes)
    | .error _ => .error ("cannot open ".toList ++ file ++ ": No such file".toList)

/-- Runs a script; one that needs more fuel never ends. -/
def eval : Nat → Script → Session → Session × Flow
  | 0, _, s => ({ s with slept := 1 / 0 }, .exit)
  | fuel + 1, script, s =>
    -- a script in a session of its own
    let inner (s : Session) (text : Bytes) : Session × Flow :=
      match read text with
      | .ok script => eval fuel script s
      | .error fault =>
        (({ s with line := fault.line }.fault fault.message.toList).withStatus 2, .exit)
    let capture : Capture := fun s text =>
      let (t, flow) := inner { s with captured := [], sinks := (.captured, s.sinks.2) } text
      let printed := t.captured.reverse.flatten
      ({ s.back t with captured := s.captured, status := statusOf t flow }, trimNewlines printed)
    let nested (s : Session) (body : Script) : Session × Flow :=
      let (t, flow) := eval fuel body s
      match flow with
      | .killed n => (s.back t, .killed n)
      | _ => (s.back t, .next)
    let shell (s : Session) (called : Bytes) (arguments : List Bytes) : Session × Flow :=
      match shellArguments s called arguments with
      | .ok (name, parameters, text) =>
        let s := if arguments.isEmpty then { s with input := [] } else s
        inner (s.enter name parameters) text
      | .error message =>
        ((s.complain (called ++ ": 0: ".toList ++ message)).withStatus 2, .exit)
    let program (s : Session) (name : Bytes) (arguments : List Bytes) : Session :=
      match program? s name with
      | some (_, .tool "sh") =>
        let (t, flow) := shell s name arguments
        let told := match flow with
          | .killed 9 => s.back t |>.complain "Killed".toList
          | .killed 15 => s.back t |>.complain "Terminated".toList
          | _ => s.back t
        told.withStatus (statusOf t flow)
      | some (_, .tool tool) =>
        if tool = "echo" then (s.print (plainEcho arguments)).withStatus 0
        else (s.tool? tool arguments).getD (s.withStatus 1)
      | some (path, .file bytes true) =>
        let (t, flow) := inner (s.enter path arguments) (scriptOf bytes)
        s.back t |>.withStatus (statusOf t flow)
      | some _ => (s.fault (name ++ ": Permission denied".toList)).withStatus 126
      | none => (s.fault (name ++ ": not found".toList)).withStatus 127
    -- what is asked for as a condition may fail
    let asked (s : Session) (condition : Script) : Session × Flow :=
      let (t, flow) := eval fuel condition { s with strict := false }
      ({ t with strict := s.strict }, flow)
    match script with
    | .nothing => (s, .next)
    | .inOrder first second =>
      match eval fuel first s with
      | (s, .next) => eval fuel second s
      | ended => ended
    | .both first second =>
      match asked s first with
      | (s, .next) => if s.status = 0 then eval fuel second s else (s, .next)
      | ended => ended
    | .either first second =>
      match asked s first with
      | (s, .next) => if s.status = 0 then (s, .next) else eval fuel second s
      | ended => ended
    | .negated body =>
      match asked s body with
      | (s, .next) => (s.withStatus (if s.status = 0 then 1 else 0), .next)
      | ended => ended
    | .pipe source target =>
      let (t, flow) := nested { s with captured := [], sinks := (.captured, s.sinks.2) } source
      let passed := t.captured.reverse.flatten
      let s := { s.back t with captured := s.captured, input := s.input }
      match flow with
      | .killed n => (s, .killed n)
      | _ =>
        let (t, flow) := nested { s with input := passed } target
        ({ s.back t with input := s.input }, flow)
    | .branch condition yes no =>
      match asked s condition with
      | (s, .next) =>
        if s.status = 0 then eval fuel yes s
        else
          match no with
          | .nothing => (s.withStatus 0, .next)
          | no => eval fuel no s
      | ended => ended
    | .loop wanted condition body =>
      match asked s condition with
      | (t, .next) =>
        if (t.status = 0) = wanted then
          match eval fuel body t with
          | (t, .next) => eval fuel (.loop wanted condition body) t
          | (t, .again) => eval fuel (.loop wanted condition body) t
          | (t, .leave) => (t, .next)
          | ended => ended
        else (t.withStatus 0, .next)
      | ended => ended
    | .each name words body =>
      let (s, texts) := wordTexts capture fuel s words
      match texts with
      | [] => (s.withStatus 0, .next)
      | first :: rest =>
        let others := rest.map fun text => [Piece.text text true]
        match eval fuel body (s.assign name first) with
        | (s, .leave) => (s, .next)
        | (s, .exit) => (s, .exit)
        | (s, .killed n) => (s, .killed n)
        | (s, _) => if rest.isEmpty then (s, .next) else eval fuel (.each name others body) s
    | .group body redirections =>
      match redirect capture fuel s redirections with
      | .ok t =>
        let (t, flow) := eval fuel body t
        ({ t with sinks := s.sinks }, flow)
      | .error t => ({ t with sinks := s.sinks }, .next)
    | .subshell body redirections =>
      match redirect capture fuel s redirections with
      | .ok t =>
        let (u, flow) := nested t body
        ({ u with sinks := s.sinks }, flow)
      | .error t => ({ t with sinks := s.sinks }, .next)
    | .simple command =>
      let s := { s with line := command.line }
      let (s, texts) := wordTexts capture fuel s command.words
      match redirect capture fuel s command.redirections with
      | .error t => ({ t with sinks := s.sinks }, .next)
      | .ok t =>
        let assign (t : Session) (a : Bytes × Word) : Session :=
          let (t, value) := pieceText capture fuel t a.2
          if texts.isEmpty then t.assign a.1 value else (t.assign a.1 value).exportName a.1
        let t := command.assignments.foldl assign t
        let own : Bool := texts.head?.any fun name => name ≠ "read".toList
        -- what a command was led to does not last
        let restored (u : Session) : Session :=
          let u := { u with sinks := s.sinks }
          let u := if texts.isEmpty || command.assignments.isEmpty then u
            else { u with bindings := s.bindings }
          if own && command.redirections.any fun r => r.descriptor = 0 then { u with input := s.input } else u
        match texts with
        | [] => (restored (t.withStatus (if command.assignments.isEmpty then 0 else t.status)), .next)
        | name :: arguments =>
          match String.ofList name with
          | "return" =>
            match arguments with
            | [] => (restored t, .exit)
            | code :: _ => (restored (t.withStatus (((int? code).getD 2).toNat % 256)), .exit)
          | "exit" =>
            match arguments with
            | [] => (restored t, .exit)
            | code :: _ =>
              match int? code with
              | some n =>
                if n < 0 then
                  (restored ((t.fault ("exit: Illegal number: ".toList ++ code)).withStatus 2), .exit)
                else (restored (t.withStatus (n.toNat % 256)), .exit)
              | none =>
                (restored ((t.fault ("exit: Illegal number: ".toList ++ code)).withStatus 2), .exit)
          | "break" => (restored (t.withStatus 0), .leave)
          | "continue" => (restored (t.withStatus 0), .again)
          | "kill" =>
            match killArguments arguments with
            | some (signal, numbers) =>
              if numbers.contains processNumber then
                if isDeadly signal then (restored t, .killed signal) else (restored (t.withStatus 0), .next)
              else (restored ((t.fault "kill: No such process\n".toList).withStatus 1), .next)
            | none => (restored (t.withStatus 2), .next)
          | "exec" =>
            match arguments with
            | [] => (t.withStatus 0, .next)
            | name :: arguments =>
              if name = "echo".toList then (restored ((t.print (plainEcho arguments)).withStatus 0), .exit)
              else (restored (program t name arguments), .exit)
          | "eval" =>
            let (u, flow) := inner t (arguments.intersperse [' ']).flatten
            (restored u, flow)
          | word =>
            let u := match t.ownCommand? word arguments with
              | some u => u
              | none =>
                match t.tool? word arguments with
                | some u =>
                  if ["cat", "head", "wc", "seq", "sleep", "env", "printenv"].contains word ∧
                      (program? t name).isNone then
                    (t.fault (name ++ ": not found".toList)).withStatus 127
                  else u
                | none => program t name arguments
            (restored u, if u.strict && u.status ≠ 0 then .exit else .next)

end ApiLint.Shell
