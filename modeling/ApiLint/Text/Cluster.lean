import ApiLint.Text.Width

/-! Characters that a terminal shows as one. A joiner binds the next character to what stands before it,
the emoji selector makes a character that can be an emoji two cells wide, and marks sit on their
neighbour. The width of a text is the sum of its characters' widths only where none of these occur. -/

namespace ApiLint.Text

/-- The zero-width joiner. -/
def joiner : Char := '\u200d'

/-- The selector that shows the character before it as an emoji. -/
def emojiSelector : Char := '\ufe0f'

/-- The cells of what follows the character `base`, the last one with a width if there is one. -/
def widthFrom (base : Option Char) : List Char → Nat
  | [] => 0
  | c :: rest =>
    if c = joiner then
      match rest with
      | [] => 0
      | _ :: behind => widthFrom base behind
    else if c = emojiSelector then
      if base.any widensAsEmoji then widthFrom none rest + 1 else widthFrom none rest
    else if charWidth c = 0 then widthFrom base rest
    else charWidth c + widthFrom (some c) rest

/-- The cells that a text takes on one line. -/
def width (cs : List Char) : Nat :=
  widthFrom none cs

/-- Characters that a terminal shows as one, and the cells that they take together. -/
structure Cluster where
  chars : List Char
  cells : Nat
  deriving DecidableEq, Repr

/-- The clusters of a text behind the beginning of one. -/
def clustersFrom (opened : Cluster) (base : Option Char) : List Char → List Cluster
  | [] => [opened]
  | c :: rest =>
    if c = joiner then
      match rest with
      | [] => [{ opened with chars := opened.chars ++ [c] }]
      | d :: behind => clustersFrom { opened with chars := opened.chars ++ [c, d] } base behind
    else if c = emojiSelector then
      let cells := if base.any widensAsEmoji then opened.cells + 1 else opened.cells
      clustersFrom ⟨opened.chars ++ [c], cells⟩ none rest
    else if charWidth c = 0 then
      clustersFrom { opened with chars := opened.chars ++ [c] } base rest
    else opened :: clustersFrom ⟨[c], charWidth c⟩ (some c) rest

/-- The clusters of a text; what stands in front of the first character with a width is one of its own. -/
def clusters : List Char → List Cluster
  | [] => []
  | c :: rest => clustersFrom ⟨[c], charWidth c⟩ (if charWidth c = 0 then none else some c) rest

@[simp] theorem width_nil : width [] = 0 := rfl

end ApiLint.Text
