import ApiLint.CommandLine.Lint

/-! The command that tells whether a path is included, and the choice between the commands. -/

namespace ApiLint.CommandLine

namespace IncludedRequest

/-- The path that is looked at: as it was named, below the root. -/
def candidate (r : IncludedRequest) (root : Path) : Path := Path.join root r.path

def decide (r : IncludedRequest) (w : Workspace) (root : Path) (settings : Settings) : Outcome :=
  let (included, records) := inScope settings (r.candidate root)
  let label := r.path.toString
  if included then w.ended (.exit .ok) (said .ok r.emoji none (label ++ " is included")) records
  else w.ended (.exit .notIncluded) (said .info r.emoji none (label ++ " is not included")) records

def perform (r : IncludedRequest) (w : Workspace) : Outcome :=
  if r.named.contains '\x00' || r.root.chars.contains '\x00' then w.ended (.crash .nullCharacter) [] []
  else
    let root := Path.resolve w.directory r.root
    let outcome := match w.settings root [] with
      | .error fault => w.withoutSettings fault
      | .ok settings => r.decide w root settings
    { outcome with records := recordsFrom .warning outcome.records }

end IncludedRequest

/-- Does what the words of a command line ask for. -/
def perform (w : Workspace) (words : List Word) : Outcome :=
  match Request.ofWords words with
  | .error fault => w.ended (.usage fault) [] []
  | .ok .help => w.ended .help [] []
  | .ok (.lint r) => r.perform w
  | .ok (.included r) => r.perform w

end ApiLint.CommandLine
