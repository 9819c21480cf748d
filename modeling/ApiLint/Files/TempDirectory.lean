import ApiLint.Failure
import ApiLint.Files.Path

/-! The directory that documents are put into while they are linted. Every document has a file of its
own from the moment it is created until it is discarded. -/

namespace ApiLint

/-- A file of the directory, by a number that no other file there has. -/
structure TempFile where
  serial : Nat
  bytes : List UInt8
  deriving DecidableEq, Repr

/-- What keeps files from being made in a directory. -/
inductive Hindrance where
  | missing
  | noCreation (fault : SystemFault)
  | noWriting (fault : SystemFault)
  deriving DecidableEq, Repr

structure TempDirectory where
  path : Path
  hindrance : Option Hindrance
  files : List TempFile
  deriving DecidableEq, Repr

namespace TempDirectory

def serials (d : TempDirectory) : List Nat :=
  d.files.map TempFile.serial

/-- The least number past all the given ones. -/
def past : List Nat → Nat
  | [] => 0
  | n :: ns => max (n + 1) (past ns)

/-- A number that no file of the directory has. -/
def fresh (d : TempDirectory) : Nat :=
  past d.serials

def filePath (d : TempDirectory) (serial : Nat) : Path :=
  d.path.child ("spectral-input-" ++ toString serial ++ ".tmp")

/-- Creates an empty file under a number, which is taken to be free. -/
def createAs (d : TempDirectory) (serial : Nat) : Except SystemFault TempDirectory :=
  match d.hindrance with
  | some .missing => .error (.noSuchFile (d.filePath serial).toString)
  | some (.noCreation fault) => .error fault
  | _ => .ok { d with files := ⟨serial, []⟩ :: d.files }

/-- Puts bytes into a file. -/
def write (d : TempDirectory) (serial : Nat) (bytes : List UInt8) : Except SystemFault TempDirectory :=
  match d.hindrance with
  | some (.noWriting fault) => .error fault
  | _ =>
    .ok { d with files := d.files.map fun f => if f.serial = serial then { f with bytes := bytes } else f }

/-- The bytes of a file. -/
def read? (d : TempDirectory) (serial : Nat) : Option (List UInt8) :=
  (d.files.find? fun f => f.serial = serial).map TempFile.bytes

/-- Removes a file, if it is there. -/
def discard (d : TempDirectory) (serial : Nat) : TempDirectory :=
  { d with files := d.files.filter fun f => f.serial != serial }

/-- Puts a text into a new file; the file is gone again when the text cannot be written. -/
def materialize (d : TempDirectory) (encoding : Text.Encoding) (content : Text) :
    Except TempFileFault Nat × TempDirectory :=
  let serial := d.fresh
  match d.createAs serial with
  | .error fault => (.error (.system fault), d)
  | .ok created =>
    match Text.encode encoding content with
    | .error fault => (.error (.encoding fault), created.discard serial)
    | .ok bytes =>
      match created.write serial bytes with
      | .error fault => (.error (.system fault), created.discard serial)
      | .ok written => (.ok serial, written)

theorem lt_past {n : Nat} {ns : List Nat} (h : n ∈ ns) : n < past ns := by
  induction ns with
  | nil => simp at h
  | cons m ms ih =>
    simp only [past]
    rcases List.mem_cons.1 h with rfl | h
    · omega
    · have := ih h
      omega

theorem fresh_not_mem (d : TempDirectory) : d.fresh ∉ d.serials :=
  fun h => Nat.lt_irrefl _ (lt_past h)

end TempDirectory

end ApiLint
