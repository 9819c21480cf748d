import ApiLint.Proofs.Glob.Language
import ApiLint.Proofs.Glob.Segments

/-! Tokens without wildcards stand for themselves alone, so that those at the front of a pattern have to
be at the front of a path. Tokens of any kind stand for themselves too, and for every text that has other
characters in the place of their wildcards. -/

namespace ApiLint.Glob

variable {f : Char → Char} {token : List Char} {group tokens segs : List (List Char)}

theorem globs_map (h : ∀ c, c ≠ '*' → c ≠ '?' → f c = c) (pattern : List Char) :
    globs pattern (pattern.map f) = true := by
  induction pattern with
  | nil => rfl
  | cons c pattern ih =>
    by_cases hstar : c = '*'
    · subst hstar
      exact (globs_star _ _).mpr ⟨[f '*'], pattern.map f, rfl, ih⟩
    · by_cases hone : c = '?'
      · simp [globs, hone, ih]
      · simp [globs, hstar, h c hstar hone, ih]

theorem not_hasWildcard_iff : hasWildcard token = false ↔ ∀ c ∈ token, c ≠ '*' ∧ c ≠ '?' := by
  simp [hasWildcard]

theorem matchesSegment_map (h : ∀ c, c ≠ '*' → c ≠ '?' → f c = c) (token : List Char) :
    matchesSegment token (token.map f) = true := by
  unfold matchesSegment
  split
  · exact globs_map h token
  · rename_i hw
    rw [Bool.not_eq_true, not_hasWildcard_iff] at hw
    have hplain : ∀ c ∈ token, f c = c := fun c hc => h c (hw c hc).1 (hw c hc).2
    rw [List.map_congr_left hplain, List.map_id', decide_eq_true_iff]

theorem covers_map (h : ∀ c, c ≠ '*' → c ≠ '?' → f c = c) (tokens : List (List Char)) :
    Covers tokens (tokens.map (List.map f)) := by
  induction tokens with
  | nil => exact .nil
  | cons token tokens ih =>
    by_cases hspan : token = span
    · subst hspan
      exact .many [span.map f] ih
    · exact .one hspan (matchesSegment_map h token) ih

theorem covers_self (tokens : List (List Char)) : Covers tokens tokens := by
  have hself := covers_map (fun c (_ : c ≠ '*') (_ : c ≠ '?') => rfl) tokens
  rwa [List.map_congr_left (fun token _ => List.map_id' token), List.map_id'] at hself

theorem eq_of_fits (h : ∀ token ∈ group, hasWildcard token = false) {taken : List (List Char)}
    (hf : Fits group taken) : group = taken := by
  induction hf with
  | nil => rfl
  | cons hm _ ih =>
    obtain ⟨htoken, hgroup⟩ := List.forall_mem_cons.mp h
    rw [matchesSegment, htoken, if_neg Bool.false_ne_true, decide_eq_true_iff] at hm
    rw [hm, ih hgroup]

theorem covers_append_plain (h : ∀ token ∈ group, hasWildcard token = false) :
    Covers (group ++ tokens) segs ↔ ∃ rest, segs = group ++ rest ∧ Covers tokens rest := by
  have hspan : span ∉ group := fun hm => absurd (h span hm) (by decide)
  rw [covers_append]
  constructor
  · rintro ⟨pre, rest, rfl, hc, hr⟩
    obtain rfl := eq_of_fits h ((covers_iff_fits hspan).mp hc)
    exact ⟨rest, rfl, hr⟩
  · rintro ⟨rest, rfl, hr⟩
    exact ⟨group, rest, rfl, covers_self group, hr⟩

/-- A token without wildcards stands for a segment of its own. -/
theorem mem_of_covers (h : Covers tokens segs) (hplain : hasWildcard token = false) (hm : token ∈ tokens) :
    token ∈ segs := by
  induction h with
  | nil => exact hm
  | one _ hmatch _ ih =>
    rcases List.mem_cons.mp hm with rfl | hm
    · rw [matchesSegment, hplain, if_neg Bool.false_ne_true, decide_eq_true_iff] at hmatch
      exact hmatch ▸ List.mem_cons_self
    · exact List.mem_cons_of_mem _ (ih hm)
  | many pre _ ih =>
    rcases List.mem_cons.mp hm with rfl | hm
    · cases hplain
    · exact List.mem_append_right _ (ih hm)

theorem mem_segments_of_spells {sep : Char} {pattern path : List Char} (h : Spells sep pattern path)
    (hplain : hasWildcard token = false) (hm : token ∈ segments sep pattern) :
    token ∈ segments sep path := by
  unfold Spells at h
  split at h
  · exact mem_of_covers h hplain hm
  · rcases h with ⟨hc, -⟩ | ⟨front, hfront, hc, -⟩
    · exact mem_of_covers hc hplain hm
    · rw [hfront, List.mem_append, List.mem_singleton] at hm
      rcases hm with hm | rfl
      · exact mem_of_covers hc hplain hm
      · cases hplain

/-- Tokens stand for segments, where the pattern and the path end with the separator or do not. -/
def StandFor (tokens segs : List (List Char)) (patternClosed pathClosed : Bool) : Prop :=
  (span ∈ tokens → Covers tokens segs) ∧
    (span ∉ tokens → (Covers tokens segs ∧ patternClosed = pathClosed) ∨
      ∃ front, tokens = front ++ [['*']] ∧ Covers front segs ∧ pathClosed = true)

theorem spells_iff_standFor {sep : Char} {pattern path : List Char} :
    Spells sep pattern path ↔ StandFor (segments sep pattern) (segments sep path)
      (closed sep pattern) (closed sep path) := by
  by_cases hspan : span ∈ segments sep pattern
  · simp [Spells, StandFor, hspan]
  · simp [Spells, StandFor, hspan]

section

variable {patternClosed pathClosed : Bool}

theorem standFor_of_covers (h : Covers tokens segs) (hclosed : patternClosed = pathClosed) :
    StandFor tokens segs patternClosed pathClosed :=
  ⟨fun _ => h, fun _ => Or.inl ⟨h, hclosed⟩⟩

/-- A pattern matches its own text, with other characters in the place of wildcards. -/
theorem matchesPath_map {sep : Char} (h : ∀ c, c ≠ '*' → c ≠ '?' → f c = c)
    (hsep : ∀ c, f c = sep ↔ c = sep) (pattern : List Char) :
    matchesPath sep pattern (pattern.map f) = true := by
  have hmem : ∀ c ∈ pattern, f c = sep ↔ c = sep := fun c _ => hsep c
  rw [matchesPath_iff, Admits, spells_iff_standFor, opened_map hmem, closed_map hmem,
    segments_map hmem]
  exact ⟨Or.inl rfl, standFor_of_covers (covers_map h _) rfl⟩

theorem standFor_append_plain (h : ∀ token ∈ group, hasWildcard token = false) (hne : tokens ≠ []) :
    StandFor (group ++ tokens) segs patternClosed pathClosed ↔
      ∃ rest, segs = group ++ rest ∧ StandFor tokens rest patternClosed pathClosed := by
  have hspan : span ∈ group ++ tokens ↔ span ∈ tokens := by
    rw [List.mem_append, or_iff_right]
    exact fun hm => absurd (h span hm) (by decide)
  -- A last token is one of those behind the plain ones.
  have hlast : ∀ front, group ++ tokens = front ++ [['*']] ↔
      ∃ back, tokens = back ++ [['*']] ∧ front = group ++ back := by
    intro front
    constructor
    · intro he
      obtain ⟨back, last, rfl⟩ := (List.eq_nil_or_concat tokens).resolve_left hne
      rw [List.concat_eq_append, ← List.append_assoc] at he
      obtain ⟨hfront, hstar⟩ := List.append_inj' he rfl
      exact ⟨back, by rw [List.concat_eq_append, hstar], hfront.symm⟩
    · rintro ⟨back, rfl, rfl⟩
      rw [List.append_assoc]
  unfold StandFor
  rw [hspan]
  by_cases hm : span ∈ tokens
  · simpa [hm] using covers_append_plain h
  · simp only [hm, not_false_eq_true, false_implies, true_implies, true_and]
    constructor
    · rintro (⟨hc, he⟩ | ⟨front, he, hc, hp⟩)
      · obtain ⟨rest, rfl, hr⟩ := (covers_append_plain h).mp hc
        exact ⟨rest, rfl, Or.inl ⟨hr, he⟩⟩
      · obtain ⟨back, hback, rfl⟩ := (hlast front).mp he
        obtain ⟨rest, rfl, hr⟩ := (covers_append_plain h).mp hc
        exact ⟨rest, rfl, Or.inr ⟨back, hback, hr, hp⟩⟩
    · rintro ⟨rest, rfl, ⟨hc, he⟩ | ⟨back, hback, hc, hp⟩⟩
      · exact Or.inl ⟨(covers_append_plain h).mpr ⟨rest, rfl, hc⟩, he⟩
      · exact Or.inr ⟨group ++ back, (hlast _).mpr ⟨back, hback, rfl⟩,
          (covers_append_plain h).mpr ⟨rest, rfl, hc⟩, hp⟩

end

end ApiLint.Glob
