/-! Patterns for one segment of a path: `*` stands for any characters, `?` for exactly one, and every
other character for itself. -/

namespace ApiLint.Glob

/-- A text and all its endings, the longest first. -/
def suffixes {α : Type} : List α → List (List α)
  | [] => [[]]
  | x :: xs => (x :: xs) :: suffixes xs

/-- Whether a segment falls into consecutive pieces, one for each character of the pattern. -/
def globs : List Char → List Char → Bool
  | [], segment => segment.isEmpty
  | c :: pattern, segment =>
    if c = '*' then (suffixes segment).any (globs pattern)
    else
      match segment with
      | [] => false
      | x :: rest => (c = '?' || c = x) && globs pattern rest

/-- Whether a pattern has a character that does not stand for itself. -/
def hasWildcard (pattern : List Char) : Bool :=
  pattern.any fun c => c = '*' || c = '?'

/-- Whether a pattern matches a whole segment; one without wildcards is compared as it stands. -/
def matchesSegment (pattern segment : List Char) : Bool :=
  if hasWildcard pattern then globs pattern segment else pattern = segment

theorem mem_suffixes {α : Type} {xs ys : List α} : ys ∈ suffixes xs ↔ ∃ pre, xs = pre ++ ys := by
  induction xs with
  | nil => simp [suffixes, eq_comm]
  | cons x xs ih =>
    simp only [suffixes, List.mem_cons, ih]
    constructor
    · rintro (rfl | ⟨pre, rfl⟩)
      · exact ⟨[], rfl⟩
      · exact ⟨x :: pre, rfl⟩
    · rintro ⟨pre, h⟩
      cases pre with
      | nil => exact Or.inl h.symm
      | cons y pre =>
        simp only [List.cons_append, List.cons.injEq] at h
        exact Or.inr ⟨pre, h.2⟩

theorem globs_star (pattern segment : List Char) :
    globs ('*' :: pattern) segment = true ↔
      ∃ pre rest, segment = pre ++ rest ∧ globs pattern rest = true := by
  simp only [globs, if_true, List.any_eq_true, mem_suffixes]
  constructor
  · rintro ⟨rest, ⟨pre, h⟩, hg⟩
    exact ⟨pre, rest, h, hg⟩
  · rintro ⟨pre, rest, h, hg⟩
    exact ⟨rest, ⟨pre, h⟩, hg⟩

end ApiLint.Glob
