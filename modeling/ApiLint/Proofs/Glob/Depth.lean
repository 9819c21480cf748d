import ApiLint.Proofs.Glob.Language
import ApiLint.Proofs.Glob.Segments

/-! Patterns that tell paths apart by their depth alone. -/

namespace ApiLint.Glob

variable {sep : Char}

/-- The pattern of the paths with so many segments or more. -/
def atLeast (sep : Char) : Nat → List Char
  | 0 => sep :: span
  | n + 1 => sep :: '*' :: atLeast sep n

theorem atLeast_eq_cons (sep : Char) (n : Nat) : ∃ body, atLeast sep n = sep :: body := by
  cases n with
  | zero => exact ⟨_, rfl⟩
  | succ n => exact ⟨_, rfl⟩

theorem mem_atLeast {c : Char} {n : Nat} (h : c ∈ atLeast sep n) : c = sep ∨ c = '*' := by
  induction n with
  | zero => simpa [atLeast, span] using h
  | succ n ih =>
    simp only [atLeast, List.mem_cons] at h
    rcases h with hsep | hstar | h
    · exact Or.inl hsep
    · exact Or.inr hstar
    · exact ih h

theorem segments_atLeast (hsep : sep ≠ '*') (n : Nat) :
    segments sep (atLeast sep n) = List.replicate n ['*'] ++ [span] := by
  induction n with
  | zero =>
    rw [atLeast, segments_cons_sep]
    simp [segments, span, Text.splitAt, hsep.symm]
  | succ n ih =>
    obtain ⟨body, hbody⟩ := atLeast_eq_cons sep n
    have hstar : segments sep ['*'] = [['*']] := by simp [segments, Text.splitAt, hsep.symm]
    have hrest : segments sep body = List.replicate n ['*'] ++ [span] := by
      rw [← ih, hbody, segments_cons_sep]
    rw [atLeast, segments_cons_sep, hbody, ← List.singleton_append, segments_append, hstar, hrest]
    rfl

theorem matchesSegment_star (seg : List Char) : matchesSegment ['*'] seg = true := by
  have hglobs : globs ['*'] seg = true := (globs_star _ _).mpr ⟨seg, [], (List.append_nil seg).symm, rfl⟩
  exact hglobs

theorem covers_depth {n : Nat} {segs : List (List Char)} :
    Covers (List.replicate n ['*'] ++ [span]) segs ↔ n ≤ segs.length := by
  induction n generalizing segs with
  | zero =>
    have hall : Covers [span] segs := covers_span.mpr ⟨segs, [], (List.append_nil segs).symm, .nil⟩
    simpa using hall
  | succ n ih =>
    have hne : ['*'] ≠ span := by decide
    rw [List.replicate_succ, List.cons_append]
    cases segs with
    | nil => simp [covers_token hne]
    | cons seg segs => simp [covers_token_cons hne, matchesSegment_star, ih]

theorem matchesPath_atLeast (hsep : sep ≠ '*') {n : Nat} {path : List Char} :
    matchesPath sep (atLeast sep n) path = true ↔
      opened sep path = true ∧ n ≤ (segments sep path).length := by
  obtain ⟨body, hbody⟩ := atLeast_eq_cons sep n
  have hopened : opened sep (atLeast sep n) = true := by simp [hbody, opened]
  have hstart : startsWithSpan (atLeast sep n) = false := by
    simp [hbody, startsWithSpan, span, List.isPrefixOf, hsep.symm]
  have hspan : span ∈ segments sep (atLeast sep n) := by simp [segments_atLeast hsep]
  rw [matchesPath_iff, Admits, hopened, hstart, Spells, if_pos hspan, segments_atLeast hsep, covers_depth]
  simp

end ApiLint.Glob
