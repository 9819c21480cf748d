import ApiLint.Report.Markup

/-! What the reader of markup makes of the parts of a text in which no bracket opens. Such a part comes
out as it is, but for what a terminal does not print, and backslashes at its end count for the tag
behind it. A closing tag that stands before all others closes nothing. -/

namespace ApiLint.Markup

section

variable {body rest name behind : List Char} {position backslashes : Nat}

theorem piecesFrom_nil : piecesFrom position backslashes [] = [.plain (List.replicate backslashes '\\')] := by
  rw [piecesFrom]

theorem piecesFrom_backslash :
    piecesFrom position backslashes ('\\' :: rest) = piecesFrom (position + 1) (backslashes + 1) rest := by
  rw [piecesFrom]

theorem piecesFrom_char {c : Char} (hslash : c ≠ '\\') (hbracket : c ≠ '[') :
    piecesFrom position backslashes (c :: rest) =
      .plain (List.replicate backslashes '\\' ++ [c]) :: piecesFrom (position + 1) 0 rest := by
  rw [piecesFrom]
  · exact hslash
  · exact hbracket

/-- A part without brackets gives plain pieces. Together with the backslashes that are still counted at
its end they spell it. -/
theorem piecesFrom_append (h : '[' ∉ body) (rest : List Char) (position backslashes : Nat) :
    ∃ (parts : List (List Char)) (position' backslashes' : Nat),
      piecesFrom position backslashes (body ++ rest) =
        parts.map Piece.plain ++ piecesFrom position' backslashes' rest ∧
      parts.flatten ++ List.replicate backslashes' '\\' = List.replicate backslashes '\\' ++ body := by
  induction body generalizing position backslashes with
  | nil => exact ⟨[], position, backslashes, rfl, by simp⟩
  -- A backslash is counted; any other character stands behind all that were counted before it.
  | cons c body ih =>
    obtain ⟨hc, hbody⟩ := List.ne_and_not_mem_of_not_mem_cons h
    by_cases hslash : c = '\\'
    · subst hslash
      obtain ⟨parts, position', backslashes', hpieces, hspell⟩ :=
        ih hbody (position + 1) (backslashes + 1)
      refine ⟨parts, position', backslashes', ?_, ?_⟩
      · rw [List.cons_append, piecesFrom_backslash, hpieces]
      · rw [hspell, List.replicate_succ', List.append_assoc, List.singleton_append]
    · obtain ⟨parts, position', backslashes', hpieces, hspell⟩ := ih hbody (position + 1) 0
      refine ⟨(List.replicate backslashes '\\' ++ [c]) :: parts, position', backslashes', ?_, ?_⟩
      · rw [List.cons_append, piecesFrom_char hslash hc.symm, hpieces, List.map_cons, List.cons_append]
      · rw [List.flatten_cons, List.append_assoc, hspell]
        simp

end

section

variable {emoji : List Char → List Char} {column : Nat} {opened : List Opened} {front ps : List Piece}

theorem printed_append (cs ds : List Char) :
    Console.printed (cs ++ ds) = Console.printed cs ++ Console.printed ds :=
  List.filter_append ..

def Piece.chars? : Piece → Option (List Char)
  | .plain cs => some cs
  | .escaped cs => some cs
  | .tag _ _ => none

theorem gathered_plain (parts : List (List Char)) (cs : List Char) :
    gathered ((cs :: parts).map Piece.plain) = [.plain (cs ++ parts.flatten)] := by
  induction parts generalizing cs with
  | nil => simp [gathered]
  | cons ds parts ih =>
    rw [List.map_cons, gathered, ih ds]
    rfl

end

/-- A text without brackets is one plain piece. -/
theorem pieces_of_not_mem {cs : List Char} (h : '[' ∉ cs) : pieces cs = [.plain cs] := by
  obtain ⟨parts, position, backslashes, hpieces, hspell⟩ := piecesFrom_append h [] 0 0
  have hall : piecesFrom 0 0 cs = (parts ++ [List.replicate backslashes '\\']).map Piece.plain := by
    rw [List.map_append, ← List.append_nil cs, hpieces, piecesFrom_nil]
    rfl
  have hflat : (parts ++ [List.replicate backslashes '\\']).flatten = cs := by
    simpa using hspell
  rw [pieces, hall]
  cases hparts : parts ++ [List.replicate backslashes '\\'] with
  | nil => simp at hparts
  | cons ds rest =>
    rw [hparts, List.flatten_cons] at hflat
    rw [gathered_plain, hflat]

section

variable {emoji : List Char → List Char} {body name rest tag : List Char} {o : Opened}

end

end ApiLint.Markup
