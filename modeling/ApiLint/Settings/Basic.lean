import ApiLint.Issue.Basic
import ApiLint.Scope.Inclusion
import ApiLint.Settings.Root

/-! The settings of a project. They are checked as a whole, every fault being told, and unknown names
are refused. -/

namespace ApiLint

open Schema

structure Settings where
  executable : String
  ruleset : String
  includedFiles : String
  timeout : Float
  projectRoot : Option Path
  /-- Why the project root, as it was given, cannot be handed to the system. -/
  rootFault : Option Text.EncodingFault
  deriving DecidableEq

namespace Settings

def defaults : Settings where
  executable := "spectral"
  ruleset := ".spectral.yaml"
  includedFiles := "**/*.json\n**/*.yml\n**/*.yaml"
  timeout := Float.ofScientific 30 false 0
  projectRoot := none
  rootFault := none

def inclusionPatterns (s : Settings) : List (List Char) :=
  Scope.patterns s.includedFiles.toList

/-- The names that settings have, in the order in which they are checked. -/
def names : List String :=
  ["executable", "ruleset", "included_files", "timeout", "project_root"]

def checkString (v : Value) : Checked String :=
  (checkText v).map fun t => String.ofList (Text.shown t)

def checkTimeout (v : Value) : Checked Float :=
  Checked.ofRule (positiveFloat v)

def checkPath : Value → Checked (Option Path)
  | .null => .ok none
  | .text t => .ok (some (Path.ofChars (Text.shown t)))
  | _ => Checked.refused .path

/-- The fault of a project root that is given by its text. -/
def pathFault? : Option Value → Option Text.EncodingFault
  | some (.text t) => Text.nameFault? (Path.nameText t)
  | _ => none

def isName (key : Text) : Bool :=
  names.any fun name => Text.ofString name = key

/-- The names of fields that settings do not have. -/
def unknownKeys (fields : Fields) : List Text :=
  fields.keys.filter fun key => !isName key

/-- Refuses fields that settings do not have. -/
def checkKeys (fields : Fields) : Checked Unit :=
  match unknownKeys fields with
  | [] => .ok ()
  | key :: keys =>
    .error ⟨⟨[.key key], .unknownKey⟩, keys.map fun key => ⟨[.key key], .unknownKey⟩⟩

/-- The settings that fields give; what is left out keeps its default. -/
def ofFields (fields : Fields) : Checked Settings :=
  let d := defaults
  let made (executable ruleset includedFiles : String) (timeout : Float) (root : Option Path) : Settings :=
    ⟨executable, ruleset, includedFiles, timeout, root, pathFault? (fieldOf? "project_root" fields)⟩
  let run := Checked.apply (.ok made) (optional "executable" d.executable checkName fields)
  let ruled := Checked.apply run (optional "ruleset" d.ruleset checkName fields)
  let included := Checked.apply ruled (optional "included_files" d.includedFiles checkString fields)
  let timed := Checked.apply included (optional "timeout" d.timeout checkTimeout fields)
  let rooted := Checked.apply timed (optional "project_root" d.projectRoot checkPath fields)
  Checked.apply (rooted.map fun s _ => s) (checkKeys fields)

/-- Why a setting cannot be set. -/
inductive AssignFault where
  | invalid (faults : Faults)
  /-- The inclusion patterns follow from the included files and are not set themselves. -/
  | derived
  deriving DecidableEq

def derivedName : String := "inclusion_patterns"

/-- Settings with one of them set anew. -/
def assign (s : Settings) (name : String) (v : Value) : Except AssignFault Settings :=
  let checked {α : Type} (check : Value → Checked α) (set : α → Settings) :
      Except AssignFault Settings :=
    match Checked.under (keyStep name) (check v) with
    | .ok x => .ok (set x)
    | .error faults => .error (.invalid faults)
  if name = "executable" then checked checkName fun x => { s with executable := x }
  else if name = "ruleset" then checked checkName fun x => { s with ruleset := x }
  else if name = "included_files" then checked checkString fun x => { s with includedFiles := x }
  else if name = "timeout" then checked checkTimeout fun x => { s with timeout := x }
  else if name = "project_root" then
    checked checkPath fun x => { s with projectRoot := x, rootFault := pathFault? (some v) }
  else if name = derivedName then .error .derived
  else .error (.invalid (Faults.one [keyStep name] (.unknownAttribute name)))

end Settings

end ApiLint
