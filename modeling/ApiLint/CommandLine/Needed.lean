import ApiLint.CommandLine.Included

/-! The files that a command looks at: the settings of its project, its document, and the linter. -/

namespace ApiLint.CommandLine

def Request.root : Request → Path
  | .lint r => r.root
  | .included r => r.root
  | .help => Path.ofChars []

def Request.documents : Request → List Path
  | .lint r => [r.path]
  | _ => []

/-- The files that have to be known before the settings are. -/
def neededFiles (directory : Path) (words : List Word) : List Path :=
  match Request.ofWords words with
  | .error _ => []
  | .ok request =>
    let root := Path.resolve directory request.root
    [root.child Settings.projectFileName, root.child Settings.ownFileName] ++
      request.documents.map (Path.resolve directory)

def linterFile? (w : Workspace) (words : List Word) : Option Path :=
  match Request.ofWords words with
  | .ok (.lint r) =>
    match w.settings (Path.resolve w.directory r.root) r.overrides with
    | .ok settings =>
      if settings.executable.toList.contains '/' then
        some (Path.join (settings.projectRoot.getD w.directory) (Path.ofString settings.executable))
      else none
    | .error _ => none
  | _ => none

/-- The directories that a command takes to be there. -/
def neededDirectories (directory : Path) (words : List Word) : List Path :=
  match Request.ofWords words with
  | .error _ => [directory]
  | .ok request => [directory, Path.resolve directory request.root]

end ApiLint.CommandLine
