import ApiLint.Proofs.Glob.Plain
import ApiLint.Proofs.Glob.Segments

/-! Patterns that end with the separator. A span makes the end of a pattern meaningless, and without one
such a pattern asks for a separator at the end of a path. -/

namespace ApiLint.Glob

variable {sep : Char} {pattern path : List Char}

theorem closed_of_spells (hspan : span ∉ segments sep pattern) (h : Spells sep pattern path)
    (hclosed : closed sep pattern = true) : closed sep path = true := by
  rw [Spells, if_neg hspan] at h
  rcases h with ⟨-, he⟩ | ⟨front, -, -, hpath⟩
  · rw [← he, hclosed]
  · exact hpath

/-- A pattern with a span matches its own text without the separators at the end. -/
theorem exists_admits_not_closed (hspan : span ∈ segments sep pattern) :
    ∃ path, Admits sep pattern path ∧ closed sep path = false := by
  obtain ⟨path, hclosed, hsegs, hopened⟩ := exists_not_closed sep pattern
  refine ⟨path, ⟨Or.inl (hopened (List.ne_nil_of_mem hspan)), ?_⟩, hclosed⟩
  rw [Spells, if_pos hspan, hsegs]
  exact covers_self _

/-- A pattern that ends with the separator matches only paths that do, just when it has no span. -/
theorem matches_only_closed_iff (sep : Char) (pattern : List Char) :
    (∀ path, matchesPath sep pattern path = true → closed sep pattern = true →
        closed sep path = true) ↔
      (closed sep pattern = true → span ∉ segments sep pattern) := by
  simp only [matchesPath_iff]
  constructor
  · intro h hclosed hspan
    obtain ⟨path, hadmits, hopen⟩ := exists_admits_not_closed hspan
    rw [h path hadmits hclosed] at hopen
    cases hopen
  · intro h path hadmits hclosed
    exact closed_of_spells (h hclosed) hadmits.2 hclosed

theorem not_closed_of_closed_pattern :
    matchesPath '/' "/a/**/".toList "/a/b".toList = true ∧ closed '/' "/a/**/".toList = true ∧
      closed '/' "/a/b".toList = false := by
  decide +kernel

end ApiLint.Glob
