import ApiLint.Proofs.Glob.Language
import ApiLint.Proofs.Scope.Normal
import Mathlib.Data.List.Forall2

/-! Which of the two separators stands where, and to which one texts are brought, has no part in what is
included. Texts that are alike have one normal text, and the normal texts for the two separators have the
same segments and ends. -/

namespace ApiLint.Scope

open Glob

/-- Two characters are one, or both are separators. -/
def Alike (a b : Char) : Prop :=
  a = b ∨ (a = '/' ∨ a = '\\') ∧ (b = '/' ∨ b = '\\')

instance (a b : Char) : Decidable (Alike a b) :=
  inferInstanceAs (Decidable (_ ∨ _))

section

variable {sep : Char} {base base' path path' pattern pattern' value value' : List Char}
  {patterns patterns' : List (List Char)}

theorem Alike.normalChar_eq {a b : Char} (h : Alike a b) : normalChar sep a = normalChar sep b := by
  rcases h with rfl | ⟨ha, hb⟩
  · rfl
  · rw [normalChar, if_pos ha, normalChar, if_pos hb]

theorem normalize_of_alike (h : List.Forall₂ Alike value value') :
    normalize [sep] value = normalize [sep] value' := by
  rw [normalize_eq_map, normalize_eq_map]
  induction h with
  | nil => rfl
  | cons hc _ ih => rw [List.map_cons, List.map_cons, hc.normalChar_eq, ih]

theorem resolve_path (sep : Char) (base pattern : List Char) :
    resolve sep (.path base) pattern =
      .ok (if isRooted sep (normalize [sep] pattern) then normalize [sep] pattern
        else closeBase sep (normalize [sep] base) ++ normalize [sep] pattern) := by
  cases hrooted : isRooted sep (normalize [sep] pattern) with
  | true => exact resolve_rooted hrooted
  | false => exact resolve_relative hrooted

theorem resolve_of_alike (hbase : List.Forall₂ Alike base base')
    (hpattern : List.Forall₂ Alike pattern pattern') :
    resolve sep (.path base) pattern = resolve sep (.path base') pattern' := by
  rw [resolve_path, resolve_path, normalize_of_alike hbase, normalize_of_alike hpattern]

theorem anyMatches_of_alike (hbase : List.Forall₂ Alike base base')
    (hpatterns : List.Forall₂ (List.Forall₂ Alike) patterns patterns') (path : List Char) :
    anyMatches sep (.path base) path patterns = anyMatches sep (.path base') path patterns' := by
  induction hpatterns with
  | nil => rfl
  | cons hpattern _ ih =>
    have hempty : ∀ {a b : List Char}, List.Forall₂ Alike a b → a.isEmpty = b.isEmpty := by
      rintro _ _ (_ | _)
      · rfl
      · rfl
    simp only [anyMatches, hempty hpattern, resolve_of_alike hbase hpattern, ih]

end

section

variable {sep sep' : Char}

theorem sameShape_normalize (hsep : sep = '/' ∨ sep = '\\') (hsep' : sep' = '/' ∨ sep' = '\\')
    (value : List Char) : SameShape sep' sep (normalize [sep'] value) (normalize [sep] value) := by
  have hseps : ∀ c ∈ normalize [sep] value, normalChar sep' c = sep' ↔ c = sep :=
    fun c hc => normalChar_eq_sep_iff hsep hsep' hc
  have hplain : ∀ piece ∈ segments sep (normalize [sep] value), piece.map (normalChar sep') = piece := by
    intro piece hpiece
    refine (List.map_congr_left fun c hc => ?_).trans (List.map_id piece)
    obtain ⟨hmem, hne⟩ := exists_mem_segments_iff.mp ⟨piece, hpiece, hc⟩
    exact if_neg ((eq_or_plain_of_mem_normalize hmem).resolve_left hne)
  refine ⟨?_, closed_normalize hsep hsep' value, ?_⟩
  · rw [← map_normalize hsep value, opened_map hseps]
  · rw [← map_normalize hsep value, segments_map hseps, List.map_congr_left hplain, List.map_id']

/-- A character that is no separator stays where it is, and no other becomes it. -/
theorem normalChar_eq_plain_iff (hsep : sep = '/' ∨ sep = '\\') {x : Char} (hx : ¬ (x = '/' ∨ x = '\\'))
    (c : Char) : normalChar sep c = x ↔ c = x := by
  unfold normalChar
  split
  · rename_i hc
    constructor
    · rintro rfl
      exact absurd hsep hx
    · rintro rfl
      exact absurd hc hx
  · rfl

theorem startsWithSpan_normalize (hsep : sep = '/' ∨ sep = '\\') (value : List Char) :
    startsWithSpan (normalize [sep] value) = startsWithSpan value := by
  have hstar := normalChar_eq_plain_iff hsep (show ¬ ('*' = '/' ∨ '*' = '\\') by decide)
  rw [normalize_eq_map, Bool.eq_iff_iff, startsWithSpan, startsWithSpan, List.isPrefixOf_iff_prefix,
    List.isPrefixOf_iff_prefix]
  rcases value with _ | ⟨c, _ | ⟨d, value⟩⟩
  · rfl
  · simp [span]
  · simp [span, eq_comm (a := '*'), hstar]

theorem hasDrive_normalize (hsep : sep = '/' ∨ sep = '\\') (value : List Char) :
    hasDrive (normalize [sep] value) = hasDrive value := by
  have hcolon := normalChar_eq_plain_iff hsep (show ¬ (':' = '/' ∨ ':' = '\\') by decide)
  have hletter : ∀ c, isDriveLetter (normalChar sep c) = isDriveLetter c := by
    intro c
    by_cases hc : c = '/' ∨ c = '\\'
    · rw [normalChar, if_pos hc]
      rcases hsep with rfl | rfl <;> rcases hc with rfl | rfl <;> decide
    · rw [normalChar, if_neg hc]
  rw [normalize_eq_map]
  rcases value with _ | ⟨c, _ | ⟨d, value⟩⟩
  · rfl
  · rfl
  · by_cases hd : d = ':'
    · subst hd
      simp only [List.map_cons, (hcolon ':').mpr rfl, hasDrive, hletter]
    · have hd' : normalChar sep d ≠ ':' := fun h => hd ((hcolon d).mp h)
      simp [hasDrive, hd, hd']

theorem isRooted_normalize (hsep : sep = '/' ∨ sep = '\\') (hsep' : sep' = '/' ∨ sep' = '\\')
    (pattern : List Char) :
    isRooted sep' (normalize [sep'] pattern) = isRooted sep (normalize [sep] pattern) := by
  have hstar : ∀ {s : Char}, s = '/' ∨ s = '\\' →
      ((normalize [s] pattern).head? = some '*' ↔ pattern.head? = some '*') := by
    intro s hs
    have hx := normalChar_eq_plain_iff hs (show ¬ ('*' = '/' ∨ '*' = '\\') by decide)
    simp [normalize_eq_map, hx]
  rw [isRooted, isRooted, (sameShape_normalize hsep hsep' pattern).opened, hasDrive_normalize hsep,
    hasDrive_normalize hsep', decide_eq_decide.mpr ((hstar hsep').trans (hstar hsep).symm)]

theorem exists_resolve (base pattern : List Char) :
    ∃ raw, ∀ sep, sep = '/' ∨ sep = '\\' →
      resolve sep (.path base) pattern = .ok (normalize [sep] raw) := by
  have hslash : '/' = '/' ∨ '/' = '\\' := Or.inl rfl
  cases hrooted : isRooted '/' (normalize ['/'] pattern) with
  | true =>
    refine ⟨pattern, fun sep hsep => resolve_rooted ?_⟩
    rw [isRooted_normalize hslash hsep, hrooted]
  | false =>
    refine ⟨closeBase '/' (normalize ['/'] base) ++ pattern, fun sep hsep => ?_⟩
    have hrooted' : isRooted sep (normalize [sep] pattern) = false :=
      (isRooted_normalize hslash hsep pattern).trans hrooted
    rw [resolve_relative hrooted', normalize_append, normalize_closeBase hslash hsep]

/-- Each pattern is resolved to normal forms of one text, so each match comes out alike. -/
theorem exists_anyMatches (base path : List Char) (patterns : List (List Char)) :
    ∃ answer, ∀ sep, sep = '/' ∨ sep = '\\' →
      anyMatches sep (.path base) (normalize [sep] path) patterns = .ok answer := by
  induction patterns with
  | nil => exact ⟨false, fun _ _ => rfl⟩
  | cons pattern patterns ih =>
    obtain ⟨rest, hrest⟩ := ih
    by_cases hempty : pattern.isEmpty
    · exact ⟨rest, fun sep hsep => (if_pos hempty).trans (hrest sep hsep)⟩
    · obtain ⟨raw, hraw⟩ := exists_resolve base pattern
      refine ⟨matchesPath '/' (normalize ['/'] raw) (normalize ['/'] path) || rest,
        fun sep hsep => ?_⟩
      have hslash : '/' = '/' ∨ '/' = '\\' := Or.inl rfl
      have hmatch : matchesPath sep (normalize [sep] raw) (normalize [sep] path) =
          matchesPath '/' (normalize ['/'] raw) (normalize ['/'] path) := by
        refine (sameShape_normalize hslash hsep raw).matchesPath ?_
          (sameShape_normalize hslash hsep path)
        rw [startsWithSpan_normalize hsep, startsWithSpan_normalize hslash]
      rw [anyMatches, if_neg hempty, hraw sep hsep]
      cases hm : matchesPath '/' (normalize ['/'] raw) (normalize ['/'] path) with
      | true => simp [bind, Except.bind, pure, Except.pure, hmatch, hm]
      | false => simp [bind, Except.bind, hmatch, hm, hrest sep hsep]

end

/-- A document is included or not whichever of the two separators texts are brought to, and whichever of
them is written where. -/
theorem isIncluded_whichever_separator {base base' path path' : List Char}
    {patterns patterns' : List (List Char)} (hbase : List.Forall₂ Alike base base')
    (hpath : List.Forall₂ Alike path path')
    (hpatterns : List.Forall₂ (List.Forall₂ Alike) patterns patterns') :
    (∃ answer, ∀ sep, sep = '/' ∨ sep = '\\' →
      isIncluded sep (.path base) (.path path) patterns = .ok answer) ∧
    ∀ sep, isIncluded sep (.path base) (.path path) patterns =
      isIncluded sep (.path base') (.path path') patterns' := by
  refine ⟨exists_anyMatches base path patterns, fun sep => ?_⟩
  rw [isIncluded_path, isIncluded_path, normalize_of_alike hpath]
  exact anyMatches_of_alike hbase hpatterns _

theorem isIncluded_mixed_separators :
    let patterns := ["specs\\**/*.json".toList]
    let patterns' := ["specs/**\\*.json".toList]
    let path := "C:/proj/specs\\v1/a.json".toList
    let path' := "C:\\proj/specs/v1\\a.json".toList
    List.Forall₂ Alike "C:\\proj".toList "C:/proj".toList ∧ List.Forall₂ Alike path path' ∧
      List.Forall₂ (List.Forall₂ Alike) patterns patterns' ∧
      isIncluded '\\' (.path "C:\\proj".toList) (.path path) patterns = .ok true ∧
      isIncluded '/' (.path "C:/proj".toList) (.path path') patterns' = .ok true := by
  intro patterns patterns' path path'
  have hbase : List.Forall₂ Alike "C:\\proj".toList "C:/proj".toList := by decide
  have hpath : List.Forall₂ Alike path path' := by decide
  have hpatterns : List.Forall₂ (List.Forall₂ Alike) patterns patterns' := by decide
  obtain ⟨⟨answer, hanswer⟩, hsame⟩ := isIncluded_whichever_separator hbase hpath hpatterns
  have htrue : isIncluded '\\' (.path "C:\\proj".toList) (.path path) patterns = .ok true := by
    decide +kernel
  obtain rfl := Except.ok.inj (htrue.symm.trans (hanswer '\\' (Or.inr rfl)))
  exact ⟨hbase, hpath, hpatterns, htrue, (hsame '/').symm.trans (hanswer '/' (Or.inl rfl))⟩

end ApiLint.Scope
