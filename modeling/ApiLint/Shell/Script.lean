/-! Scripts of a small shell. Texts are bytes, each written as the character of its number. The shell with
its tools belongs to the outer layer: it plays the children that a command may name, and no result is about
it. -/

namespace ApiLint.Shell

abbrev Bytes := List Char

/-- A part of a word; what comes out of a quoted one is not split into words. -/
inductive Piece where
  | text (content : Bytes) (quoted : Bool)
  | parameter (name : Bytes) (fallback : Option Bytes) (quoted : Bool)
  | length (name : Bytes) (quoted : Bool)
  | arithmetic (expression : Bytes) (quoted : Bool)
  | output (script : Bytes) (quoted : Bool)
  deriving DecidableEq, Repr

abbrev Word := List Piece

/-- The text of a word without quotes and without anything to be filled in. -/
def literal? : Word → Option Bytes
  | [] => some []
  | .text content false :: rest => (literal? rest).map (content ++ ·)
  | _ => none

/-- Where a descriptor is led to. -/
inductive Way where
  | read
  | write
  | append
  | copy
  | document
  deriving DecidableEq, Repr

structure Redirection where
  descriptor : Nat
  way : Way
  target : Word
  deriving DecidableEq, Repr

/-- One command with the line that it stands in. -/
structure Simple where
  line : Nat
  assignments : List (Bytes × Word)
  words : List Word
  redirections : List Redirection
  deriving DecidableEq, Repr

inductive Script where
  | nothing
  | simple (s : Simple)
  | inOrder (first second : Script)
  | both (first second : Script)
  | either (first second : Script)
  | negated (s : Script)
  | pipe (source target : Script)
  | branch (condition yes no : Script)
  | loop (wanted : Bool) (condition body : Script)
  | each (name : Bytes) (words : List Word) (body : Script)
  | group (body : Script) (redirections : List Redirection)
  | subshell (body : Script) (redirections : List Redirection)
  deriving Repr

end ApiLint.Shell
