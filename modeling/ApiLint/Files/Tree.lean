import ApiLint.Failure
import ApiLint.Files.Path

/-! Trees of files, in which the only links are such as lead round in a loop. A directory is there when it is
listed or when something is listed below it. A name is followed step by step: every step but the last has to
end in a directory that can be looked into. -/

namespace ApiLint

/-- What stands at a place of a tree. A tool is a program that the system brings. -/
inductive Node where
  | file (bytes : List UInt8) (executable : Bool)
  | tool (name : String)
  | directory
  /-- A directory that cannot be looked into. -/
  | closed
  /-- A file that cannot be read. -/
  | locked
  /-- A link that leads to itself. -/
  | loop
  deriving DecidableEq, Repr

structure Tree where
  nodes : List (List (List Char) × Node)
  deriving DecidableEq, Repr

namespace SystemFault

def notADirectory (file : String) : SystemFault :=
  numbered 20 "Not a directory" (some file)

def isADirectory (file : String) : SystemFault :=
  numbered 21 "Is a directory" (some file)

def nameTooLong (file : String) : SystemFault :=
  numbered 36 "File name too long" (some file)

def linkLoop (file : String) : SystemFault :=
  numbered 40 "Too many levels of symbolic links" (some file)

end SystemFault

/-- Why a name leads nowhere. -/
inductive Obstacle where
  | missing
  | notADirectory
  | closed
  | tooLong
  | loop
  deriving DecidableEq, Repr

namespace Obstacle

def fault : Obstacle → String → SystemFault
  | missing => .noSuchFile
  | notADirectory => .notADirectory
  | closed => .permissionDenied
  | tooLong => .nameTooLong
  | loop => .linkLoop

/-- Whether one who asks for a file takes it that there is none; of the others he is told. -/
def meansNone : Obstacle → Bool
  | missing => true
  | notADirectory => true
  | loop => true
  | closed => false
  | tooLong => false

end Obstacle

namespace Tree

/-- The bytes that a step of a name may have, and those of a whole name with one more behind it. -/
def longestStep : Nat := 255

def longestName : Nat := 4096

def byteLength (cs : List Char) : Nat :=
  cs.foldl (fun length c => length + c.utf8Size) 0

/-- What stands at the end of steps from the root. -/
def at? (t : Tree) (steps : List (List Char)) : Option Node :=
  match t.nodes.find? fun n => n.1 = steps with
  | some n => some n.2
  | none =>
    if steps.isEmpty || t.nodes.any fun n => steps.isPrefixOf n.1 then some .directory else none

def put (t : Tree) (steps : List (List Char)) (node : Node) : Tree :=
  ⟨(steps, node) :: t.nodes.filter fun n => n.1 != steps⟩

/-- Follows steps from a directory, which is given by its own steps in reverse. -/
def follow (t : Tree) (walked : List (List Char)) : List (List Char) → Except Obstacle (List (List Char))
  | [] => .ok walked.reverse
  | part :: parts =>
    match t.at? walked.reverse with
    | some .directory =>
      if part.isEmpty || part = ['.'] then t.follow walked parts
      else if part = ['.', '.'] then t.follow walked.tail parts
      else if longestStep < byteLength part then .error .tooLong
      else t.follow (part :: walked) parts
    | some .closed => if part.isEmpty then t.follow walked parts else .error .closed
    | some .loop => .error .loop
    | some _ => .error .notADirectory
    | none => .error .missing

/-- Where a name leads from a directory, and what stands there. -/
def locate (t : Tree) (directory : Path) (name : List Char) : Except Obstacle (List (List Char) × Node) :=
  let start := if name.head? = some '/' then [] else directory.parts.reverse
  if name.isEmpty then .error .missing
  else if longestName ≤ byteLength name then .error .tooLong
  else
    match t.follow start (Text.splitAt '/' name) with
    | .error obstacle => .error obstacle
    | .ok steps =>
      match t.at? steps with
      | some .loop => .error .loop
      | some node => .ok (steps, node)
      | none => .error .missing

def find (t : Tree) (directory : Path) (name : List Char) :
    Except SystemFault (List (List Char) × Node) :=
  (t.locate directory name).mapError fun obstacle => obstacle.fault (String.ofList name)

/-- The bytes of a file. -/
def read (t : Tree) (directory : Path) (name : List Char) : Except SystemFault (List UInt8) :=
  match t.find directory name with
  | .ok (_, .file bytes _) => .ok bytes
  | .ok (_, .tool _) => .ok []
  | .ok (_, .locked) => .error (.permissionDenied (String.ofList name))
  | .ok _ => .error (.isADirectory (String.ofList name))
  | .error fault => .error fault

end Tree

end ApiLint
