import ApiLint.Glob.Pattern
import Mathlib.Data.List.Forall2
import Mathlib.Data.List.Induction

/-! What the tokens of a pattern stand for, apart from any way to find out. A group without spans stands
for as many segments as it has tokens, so the place of the first group behind a span decides the rest:
`covers_group` says that a place further left leaves at least as much to what follows. -/

namespace ApiLint.Glob

/-- The tokens stand for the segments: a span for any number of them, every other token for one that it
matches. -/
inductive Covers : List (List Char) → List (List Char) → Prop
  | nil : Covers [] []
  | one {token seg : List Char} {tokens segs : List (List Char)} :
      token ≠ span → matchesSegment token seg = true → Covers tokens segs →
      Covers (token :: tokens) (seg :: segs)
  | many {tokens rest : List (List Char)} (pre : List (List Char)) :
      Covers tokens rest → Covers (span :: tokens) (pre ++ rest)

abbrev Fits (group segs : List (List Char)) : Prop :=
  List.Forall₂ (fun token seg => matchesSegment token seg = true) group segs

theorem covers_nil_left {segs : List (List Char)} : Covers [] segs ↔ segs = [] := by
  constructor
  · intro h
    cases h
    rfl
  · rintro rfl
    exact .nil

theorem covers_span {tokens segs : List (List Char)} :
    Covers (span :: tokens) segs ↔ ∃ pre rest, segs = pre ++ rest ∧ Covers tokens rest := by
  constructor
  · intro h
    cases h with
    | one hne => exact absurd rfl hne
    | many pre h => exact ⟨pre, _, rfl, h⟩
  · rintro ⟨pre, rest, rfl, h⟩
    exact .many pre h

theorem covers_token {token : List Char} {tokens segs : List (List Char)} (hne : token ≠ span) :
    Covers (token :: tokens) segs ↔
      ∃ seg rest, segs = seg :: rest ∧ matchesSegment token seg = true ∧ Covers tokens rest := by
  constructor
  · intro h
    cases h with
    | one _ hm h => exact ⟨_, _, rfl, hm, h⟩
    | many => exact absurd rfl hne
  · rintro ⟨seg, rest, rfl, hm, h⟩
    exact .one hne hm h

theorem covers_token_cons {token seg : List Char} {tokens segs : List (List Char)}
    (hne : token ≠ span) :
    Covers (token :: tokens) (seg :: segs) ↔
      matchesSegment token seg = true ∧ Covers tokens segs := by
  rw [covers_token hne]
  constructor
  · rintro ⟨s, rest, he, hm, h⟩
    obtain ⟨rfl, rfl⟩ := List.cons.inj he
    exact ⟨hm, h⟩
  · rintro ⟨hm, h⟩
    exact ⟨seg, segs, rfl, hm, h⟩

theorem covers_append {front back segs : List (List Char)} :
    Covers (front ++ back) segs ↔
      ∃ pre rest, segs = pre ++ rest ∧ Covers front pre ∧ Covers back rest := by
  induction front generalizing segs with
  | nil => simp [covers_nil_left]
  | cons token front ih =>
    by_cases hne : token = span
    · subst hne
      simp only [List.cons_append, covers_span, ih]
      constructor
      · rintro ⟨a, _, rfl, b, rest, rfl, hf, hb⟩
        exact ⟨a ++ b, rest, by simp, ⟨a, b, rfl, hf⟩, hb⟩
      · rintro ⟨_, rest, rfl, ⟨a, b, rfl, hf⟩, hb⟩
        exact ⟨a, b ++ rest, by simp, b, rest, rfl, hf, hb⟩
    · simp only [List.cons_append, covers_token hne, ih]
      constructor
      · rintro ⟨seg, _, rfl, hm, b, rest, rfl, hf, hb⟩
        exact ⟨seg :: b, rest, rfl, ⟨seg, b, rfl, hm, hf⟩, hb⟩
      · rintro ⟨_, rest, rfl, ⟨seg, b, rfl, hm, hf⟩, hb⟩
        exact ⟨seg, b ++ rest, rfl, hm, b, rest, rfl, hf, hb⟩

theorem covers_nil_right {tokens : List (List Char)} :
    Covers tokens [] ↔ ∀ token ∈ tokens, token = span := by
  induction tokens with
  | nil => simp [covers_nil_left]
  | cons token tokens ih =>
    by_cases hne : token = span
    · subst hne
      simp [covers_span, ih]
    · simp [covers_token hne, hne]

theorem covers_iff_fits {group segs : List (List Char)} (h : span ∉ group) :
    Covers group segs ↔ Fits group segs := by
  induction group generalizing segs with
  | nil => simp [covers_nil_left]
  | cons token group ih =>
    obtain ⟨hne, h⟩ := List.ne_and_not_mem_of_not_mem_cons h
    cases segs with
    | nil => simp [covers_token hne.symm]
    | cons seg segs => rw [covers_token_cons hne.symm, ih h, Fits, Fits, List.forall₂_cons]

theorem Covers.length_le {group tokens segs : List (List Char)} (h : span ∉ group)
    (hc : Covers (group ++ tokens) segs) : group.length ≤ segs.length := by
  obtain ⟨pre, rest, rfl, hg, _⟩ := covers_append.mp hc
  have := ((covers_iff_fits h).mp hg).length_eq
  simp only [List.length_append]
  omega

theorem covers_append_fits {group tokens taken segs : List (List Char)} (h : span ∉ group)
    (hf : Fits group taken) : Covers (group ++ tokens) (taken ++ segs) ↔ Covers tokens segs := by
  induction hf with
  | nil => rfl
  | cons hm _ ih =>
    obtain ⟨hne, h⟩ := List.ne_and_not_mem_of_not_mem_cons h
    simp only [List.cons_append, covers_token_cons hne.symm, hm, true_and, ih h]

theorem covers_concat {token seg : List Char} {tokens segs : List (List Char)}
    (hne : token ≠ span) :
    Covers (tokens ++ [token]) (segs ++ [seg]) ↔
      matchesSegment token seg = true ∧ Covers tokens segs := by
  rw [covers_append]
  constructor
  · rintro ⟨pre, rest, he, hp, hr⟩
    obtain ⟨s, ss, rfl, hm, hss⟩ := (covers_token hne).mp hr
    obtain rfl := covers_nil_left.mp hss
    obtain ⟨rfl, hs⟩ := List.append_inj' he rfl
    obtain rfl := (List.cons.inj hs).1
    exact ⟨hm, hp⟩
  · rintro ⟨hm, h⟩
    exact ⟨segs, [seg], rfl, h, .one hne hm .nil⟩

theorem Covers.prepend {tokens segs : List (List Char)} (h : Covers (span :: tokens) segs)
    (pre : List (List Char)) : Covers (span :: tokens) (pre ++ segs) := by
  obtain ⟨front, rest, rfl, hc⟩ := covers_span.mp h
  exact covers_span.mpr ⟨pre ++ front, rest, by simp, hc⟩

theorem covers_span_span {tokens segs : List (List Char)} :
    Covers (span :: span :: tokens) segs ↔ Covers (span :: tokens) segs := by
  constructor
  · intro h
    obtain ⟨pre, rest, rfl, hc⟩ := covers_span.mp h
    exact hc.prepend pre
  · intro h
    exact covers_span.mpr ⟨[], segs, rfl, h⟩

/-- A group between two spans may stay where it fits first: wherever else it could stand, what follows
has no more segments than behind the first place. -/
theorem covers_group {group tokens taken segs : List (List Char)} (h : span ∉ group)
    (hf : Fits group taken) :
    Covers (span :: (group ++ span :: tokens)) (taken ++ segs) ↔ Covers (span :: tokens) segs := by
  constructor
  · intro hc
    obtain ⟨pre, rest, he, hr⟩ := covers_span.mp hc
    obtain ⟨other, behind, rfl, hg, hb⟩ := covers_append.mp hr
    have hlen := hf.length_eq
    have hother := ((covers_iff_fits h).mp hg).length_eq
    obtain ⟨more, rfl⟩ : ∃ more, segs = more ++ behind := by
      have hs : behind <:+ taken ++ segs := ⟨pre ++ other, by simp [he]⟩
      have hl := congrArg List.length he
      simp only [List.length_append] at hl
      obtain ⟨more, hm⟩ := List.suffix_of_suffix_length_le hs (List.suffix_append taken segs) (by omega)
      exact ⟨more, hm.symm⟩
    exact hb.prepend more
  · intro hc
    exact covers_span.mpr ⟨[], taken ++ segs, rfl, (covers_append_fits h hf).mpr hc⟩

theorem covers_group_cons {group tokens segs : List (List Char)} {seg : List Char} (h : span ∉ group)
    (hf : ∀ taken, taken <+: seg :: segs → ¬ Fits group taken) :
    Covers (span :: (group ++ span :: tokens)) (seg :: segs) ↔
      Covers (span :: (group ++ span :: tokens)) segs := by
  constructor
  · intro hc
    obtain ⟨pre, rest, he, hr⟩ := covers_span.mp hc
    cases pre with
    | nil =>
      obtain ⟨taken, behind, rfl, hg, _⟩ := covers_append.mp hr
      exact absurd ((covers_iff_fits h).mp hg) (hf taken ⟨behind, he.symm⟩)
    | cons s pre =>
      obtain ⟨_, rfl⟩ := List.cons.inj he
      exact covers_span.mpr ⟨pre, rest, rfl, hr⟩
  · intro hc
    exact hc.prepend [seg]

/-- The first tokens that match nothing: a token behind a group that fits, where a segment that it does
not match stands behind those of the group. -/
def Clash (tokens segs : List (List Char)) : Prop :=
  ∃ group token tokens' taken seg segs', tokens = group ++ token :: tokens' ∧
    segs = taken ++ seg :: segs' ∧ span ∉ group ∧ token ≠ span ∧ Fits group taken ∧
    matchesSegment token seg = false

def Reaches (tokens segs tokens' segs' : List (List Char)) : Prop :=
  ∃ group taken, tokens = group ++ tokens' ∧ segs = taken ++ segs' ∧ span ∉ group ∧ Fits group taken

theorem Clash.not_covers {tokens segs : List (List Char)} (h : Clash tokens segs) :
    ¬ Covers tokens segs := by
  obtain ⟨group, token, tokens', taken, seg, segs', rfl, rfl, hg, hne, hf, hm⟩ := h
  rw [covers_append_fits hg hf, covers_token_cons hne, hm]
  simp

theorem Clash.not_covers_of_concat {tokens segs : List (List Char)} {last : List Char}
    (h : Clash (tokens ++ [last]) segs) : ¬ Covers tokens segs := by
  obtain ⟨group, token, tokens', taken, seg, segs', he, rfl, hg, hne, hf, hm⟩ := h
  cases tokens' using List.reverseRecOn with
  | nil =>
    obtain ⟨rfl, _⟩ := List.append_inj' he rfl
    rw [← List.append_nil tokens, covers_append_fits hg hf, covers_nil_left]
    simp
  | append_singleton more =>
    rw [← List.cons_append, ← List.append_assoc] at he
    obtain ⟨rfl, _⟩ := List.append_inj' he rfl
    exact Clash.not_covers ⟨group, token, more, taken, seg, segs', rfl, rfl, hg, hne, hf, hm⟩

theorem Reaches.covers_iff {tokens segs tokens' segs' : List (List Char)}
    (h : Reaches tokens segs tokens' segs') : Covers tokens segs ↔ Covers tokens' segs' := by
  obtain ⟨group, taken, rfl, rfl, hg, hf⟩ := h
  exact covers_append_fits hg hf

theorem Clash.cons {token seg : List Char} {tokens segs : List (List Char)} (hne : token ≠ span)
    (hm : matchesSegment token seg = true) (h : Clash tokens segs) :
    Clash (token :: tokens) (seg :: segs) := by
  obtain ⟨group, t, tokens', taken, s, segs', rfl, rfl, hg, ht, hf, hts⟩ := h
  exact ⟨token :: group, t, tokens', seg :: taken, s, segs', rfl, rfl, by simp [hne.symm, hg], ht,
    .cons hm hf, hts⟩

theorem Reaches.cons {token seg : List Char} {tokens segs tokens' segs' : List (List Char)}
    (hne : token ≠ span) (hm : matchesSegment token seg = true)
    (h : Reaches tokens segs tokens' segs') :
    Reaches (token :: tokens) (seg :: segs) tokens' segs' := by
  obtain ⟨group, taken, rfl, rfl, hg, hf⟩ := h
  exact ⟨token :: group, seg :: taken, rfl, rfl, by simp [hne.symm, hg], .cons hm hf⟩

end ApiLint.Glob
