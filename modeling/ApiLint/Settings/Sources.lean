import ApiLint.Failure
import ApiLint.Settings.Basic
import ApiLint.Settings.Root
import ApiLint.Toml.Document

/-! Where settings come from: a table in the project file, a file of their own, the environment, and
explicit overrides, each of which goes before the ones named earlier. All sources are merged first, and
only what wins is checked. -/

namespace ApiLint.Settings

open Schema

/-- What comes of looking for a file. -/
inductive Found where
  /-- There is no such file, or what stands there is none. -/
  | missing
  /-- The system does not tell what stands there. -/
  | unseen (fault : SystemFault)
  /-- The file is there, and the system does not hand it out. -/
  | unread (fault : SystemFault)
  | bytes (bytes : List UInt8)
  deriving DecidableEq, Repr

/-- What the system tells about places: the directory that a relative path is read in, unless it is gone, and
whether links on the way to a place lead round in a loop. -/
structure Places where
  directory : Except SystemFault Path
  loops : Path → Bool

namespace Places

/-- Places without loops, where relative paths are read in the directory of all files. -/
def plain : Places := ⟨.ok (Path.ofString "/"), fun _ => false⟩

def resolve (places : Places) (p : Path) : Except SystemFault Path :=
  if p.isAbsolute then .ok (Path.resolve p p) else places.directory.map fun d => Path.resolve d p

end Places

/-- What the sources of settings hold, and the places around them. -/
structure Sources where
  projectFile : Found
  ownFile : Found
  places : Places
  environment : List (String × String)
  overrides : Fields

/-- Why settings cannot be loaded. -/
inductive LoadFault where
  | malformed (file : Path) (cause : Toml.Cause) (place : Option Text.Place)
  | notATable (file : Path)
  | invalid (faults : Faults)
  /-- A file that is no text in UTF-8. -/
  | encoding (fault : Text.DecodingFault)
  /-- A whole number with too many digits. -/
  | longInteger (digits : Nat)
  /-- A file with too many containers inside one another. -/
  | tooDeep
  /-- An included file that cannot be written out. -/
  | unwritten (fault : WritingFault)
  /-- A project root that the system has no name for. -/
  | unnamed (fault : Path.NamingFault)
  /-- A place that the system does not tell about. -/
  | unseen (fault : SystemFault)
  /-- A file that the system does not hand out. -/
  | unread (file : Path) (fault : SystemFault)
  /-- A directory that links lead to round in a loop. -/
  | looped (place : Path)
  deriving DecidableEq

def projectFileName : String := "pyproject.toml"

def ownFileName : String := ".speclint.toml"

/-- The message of a fault that the user is told on one line. -/
def LoadFault.message : LoadFault → String
  | malformed file cause place =>
    file.toString ++ ": invalid TOML: " ++ cause.message ++ Toml.placeText place
  | notATable file => file.toString ++ ": [tool.speclint] must be a table"
  | invalid _ => "invalid speclint configuration"
  | encoding fault => fault.message
  | longInteger n => longIntegerMessage n
  | tooDeep => "maximum recursion depth exceeded"
  | unwritten fault => fault.message
  | unnamed fault => fault.message
  | unseen fault => fault.message
  | unread file fault => file.toString ++ ": unable to read configuration: " ++ fault.message
  | looped place => "Symlink loop from " ++ Text.quotedString place.toString

/-- Whether a fault is told to the user as one of the settings. -/
def LoadFault.isReported : LoadFault → Bool
  | malformed _ _ _ => true
  | notATable _ => true
  | invalid _ => true
  | unread _ _ => true
  | _ => false

def readTable (file : Path) (bytes : List UInt8) : Except LoadFault Fields :=
  match Text.decode bytes with
  | .error fault => .error (.encoding fault)
  | .ok cs =>
    match Toml.read cs with
    | .ok fields => .ok fields
    | .error (.malformed cause place) => .error (.malformed file cause place)
    | .error (.longInteger n) => .error (.longInteger n)
    | .error .tooDeep => .error .tooDeep

/-- The value behind a path of keys; `none` when a value on the way is no table. -/
def valueAt? : List String → Value → Option Value
  | [], v => some v
  | key :: keys, .table fields =>
    valueAt? keys ((Fields.get? (Text.ofString key) fields).getD (.table []))
  | _ :: _, _ => none

def projectTable (file : Path) (fields : Fields) : Except LoadFault Fields :=
  match valueAt? ["tool", "speclint"] (.table fields) with
  | none => .ok []
  | some (.table fields) => .ok fields
  | some _ => .error (.notATable file)

/-- A key of a file, in which a hyphen and an underscore are the same. -/
def normalKey (key : Text) : Text :=
  key.map fun x => if x = .scalar '-' then .scalar '_' else x

def isIncludedFiles (key : Text) : Bool :=
  normalKey key = Text.ofString "included_files"

/-- The first fault of the included files that the fields of a file list. -/
def itemFault? (fields : Fields) : Option WritingFault :=
  fields.findSome? fun f =>
    match f.2 with
    | .list items =>
      if isIncludedFiles f.1 then items.findSome? (Value.writingFault? Value.deepestShown) else none
    | _ => none

def checkItems (fields : Fields) : Except LoadFault Unit :=
  match itemFault? fields with
  | some fault => .error (.unwritten fault)
  | none => .ok ()

/-- A list of included files as one text, with an item on each line. -/
def joinItems (items : List Value) : Value :=
  .text (Text.ofChars (Text.joinWith ['\n'] (items.map Value.shown)))

def normalValue (key : Text) (v : Value) : Value :=
  match v with
  | .list items => if key = Text.ofString "included_files" then joinItems items else v
  | _ => v

/-- The fields of a file under their normal names; the last spelling of a name counts. -/
def normalFields (fields : Fields) : Fields :=
  Fields.ofPairs (fields.map fun f => (normalKey f.1, normalValue (normalKey f.1) f.2))

/-- The variables of the environment that set something, with the names of what they set. -/
def environmentNames : List (String × String) :=
  [("SPECLINT_EXECUTABLE", "executable"), ("SPECLINT_RULESET", "ruleset"),
    ("SPECLINT_INCLUDED_FILES", "included_files"), ("SPECLINT_TIMEOUT", "timeout")]

/-- What the environment sets; a blank variable sets nothing. -/
def environmentFields (environment : List (String × String)) : Fields :=
  environmentNames.filterMap fun v =>
    (environment.lookup v.1).bind fun text =>
      if Text.blank text.toList then none else some (Text.ofString v.2, .string text)

/-- Overrides that are not null. -/
def givenFields (overrides : Fields) : Fields :=
  overrides.filter fun f =>
    match f.2 with
    | .null => false
    | _ => true

/-- Fields with others written over them. -/
def update (fields more : Fields) : Fields :=
  more.foldl (fun fields f => fields.put f.1 f.2) fields

/-- All sources as one table; `project` and `own` are the tables of the two files. -/
def merge (root : Path) (project own : Fields) (environment : List (String × String))
    (overrides : Fields) : Fields :=
  let start : Fields := [(Text.ofString "project_root", .text (Text.ofChars root.chars))]
  [normalFields project, normalFields own, environmentFields environment,
    givenFields overrides].foldl update start

/-- The steps to a project root that is read in `root`, as the text of the setting names them. -/
def rootSteps (root : Path) (fields : Fields) : List Text :=
  match fieldOf? "project_root" fields with
  | some (.text t) => root.parts.map Text.ofChars ++ Path.steps t
  | _ => []

/-- An absolute project root. A relative one is read in `root`; the way to it must have a name and no loop. -/
def placeRoot (places : Places) (root : Path) (steps : List Text) :
    Option Path → Except LoadFault (Option Path)
  | none => .ok none
  | some p =>
    if p.isAbsolute then .ok (some p)
    else
      match Path.namingFault? [] steps with
      | some fault => .error (.unnamed fault)
      | none =>
        match places.resolve (root.join p) with
        | .error fault => .error (.unseen fault)
        | .ok there => if places.loops there then .error (.looped there) else .ok (some there)

def place (places : Places) (root : Path) (steps : List Text) (s : Settings) : Except LoadFault Settings :=
  (placeRoot places root steps s.projectRoot).map fun p => { s with projectRoot := p }

def ofTables (places : Places) (root : Path) (project own : Fields) (environment : List (String × String))
    (overrides : Fields) : Except LoadFault Settings :=
  let fields := merge root project own environment overrides
  match ofFields fields with
  | .ok s => place places root (rootSteps root fields) s
  | .error faults => .error (.invalid faults)

def optionalTable (file : Path) : Found → Except LoadFault Fields
  | .missing => .ok []
  | .unseen fault => .error (.unseen fault)
  | .unread fault => .error (.unread file fault)
  | .bytes bytes => readTable file bytes

def load (root : Path) (sources : Sources) : Except LoadFault Settings := do
  let projectFile := root.child projectFileName
  let document ← optionalTable projectFile sources.projectFile
  let project ← projectTable projectFile document
  checkItems project
  let own ← optionalTable (root.child ownFileName) sources.ownFile
  checkItems own
  ofTables sources.places root project own sources.environment sources.overrides

end ApiLint.Settings
