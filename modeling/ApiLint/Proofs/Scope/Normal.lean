import ApiLint.Proofs.Glob.Segments
import ApiLint.Scope.Inclusion

/-! Normal texts, in which one separator stands for both kinds, a base directory that ends with it, and
what a single pattern includes once it is resolved. -/

namespace ApiLint.Scope

open Glob

variable {sep sep' : Char}

def normalChar (sep c : Char) : Char :=
  if c = '/' ∨ c = '\\' then sep else c

theorem replace_eq_map (c new : Char) (cs : List Char) :
    Text.replace c [new] cs = cs.map fun x => if x = c then new else x := by
  rw [Text.replace, List.map_eq_flatMap]
  congr 1
  funext x
  split <;> rfl

theorem normalize_eq_map (sep : Char) (value : List Char) :
    normalize [sep] value = value.map (normalChar sep) := by
  rw [normalize, replace_eq_map, replace_eq_map, List.map_map]
  refine List.map_congr_left fun c _ => ?_
  by_cases hc : c = '/'
  · simp [normalChar, hc]
  · simp [normalChar, hc]

theorem normalize_append (sep : Char) (front back : List Char) :
    normalize [sep] (front ++ back) = normalize [sep] front ++ normalize [sep] back := by
  simp only [normalize_eq_map, List.map_append]

theorem normalize_ne_nil {value : List Char} (h : value ≠ []) : normalize [sep] value ≠ [] := by
  rw [normalize_eq_map]
  simpa using h

theorem map_normalize (hsep : sep = '/' ∨ sep = '\\') (value : List Char) :
    (normalize [sep] value).map (normalChar sep') = normalize [sep'] value := by
  rw [normalize_eq_map, normalize_eq_map, List.map_map]
  refine List.map_congr_left fun c _ => ?_
  by_cases hc : c = '/' ∨ c = '\\'
  · simp only [Function.comp_apply, normalChar, if_pos hc, if_pos hsep]
  · simp only [Function.comp_apply, normalChar, if_neg hc]

theorem normalize_normalize (hsep : sep = '/' ∨ sep = '\\') (value : List Char) :
    normalize [sep'] (normalize [sep] value) = normalize [sep'] value := by
  rw [normalize_eq_map, map_normalize hsep]

/-- A normal text has no separator but its own. -/
theorem eq_or_plain_of_mem_normalize {value : List Char} {c : Char} (h : c ∈ normalize [sep] value) :
    c = sep ∨ ¬ (c = '/' ∨ c = '\\') := by
  rw [normalize_eq_map] at h
  obtain ⟨d, -, rfl⟩ := List.mem_map.mp h
  by_cases hd : d = '/' ∨ d = '\\'
  · exact Or.inl (if_pos hd)
  · rw [normalChar, if_neg hd]
    exact Or.inr hd

theorem normalChar_eq_sep_iff (hsep : sep = '/' ∨ sep = '\\') (hsep' : sep' = '/' ∨ sep' = '\\')
    {value : List Char} {c : Char} (h : c ∈ normalize [sep] value) :
    normalChar sep' c = sep' ↔ c = sep := by
  rcases eq_or_plain_of_mem_normalize h with rfl | hc
  · simp [normalChar, hsep]
  · rw [normalChar, if_neg hc]
    constructor
    · rintro rfl
      exact absurd hsep' hc
    · rintro rfl
      exact absurd hsep hc

theorem normalize_sep (hsep : sep = '/' ∨ sep = '\\') : normalize [sep'] [sep] = [sep'] := by
  simp [normalize_eq_map, normalChar, hsep]

theorem hasWildcard_normalize (hsep : sep = '/' ∨ sep = '\\') (value : List Char) :
    hasWildcard (normalize [sep] value) = hasWildcard value := by
  rw [normalize_eq_map, hasWildcard, List.any_map, hasWildcard]
  congr 1
  funext c
  by_cases hc : c = '/' ∨ c = '\\'
  · simp only [Function.comp_apply, normalChar, if_pos hc]
    rcases hsep with rfl | rfl <;> rcases hc with rfl | rfl <;> rfl
  · simp only [Function.comp_apply, normalChar, if_neg hc]

theorem closed_closeBase (sep : Char) (base : List Char) : closed sep (closeBase sep base) = true := by
  unfold closeBase
  split
  · assumption
  · exact closed_iff.mpr ⟨base, rfl⟩

theorem segments_closeBase (sep : Char) (base : List Char) :
    segments sep (closeBase sep base) = segments sep base := by
  unfold closeBase
  split
  · rfl
  · exact segments_concat_sep sep base

theorem closeBase_ne_nil (sep : Char) (base : List Char) : closeBase sep base ≠ [] := by
  intro h
  have hclosed := closed_closeBase sep base
  rw [h] at hclosed
  cases hclosed

theorem closed_normalize (hsep : sep = '/' ∨ sep = '\\') (hsep' : sep' = '/' ∨ sep' = '\\')
    (value : List Char) : closed sep' (normalize [sep'] value) = closed sep (normalize [sep] value) := by
  rw [← map_normalize hsep value]
  exact closed_map fun c hc => normalChar_eq_sep_iff hsep hsep' hc

theorem normalize_closeBase (hsep : sep = '/' ∨ sep = '\\') (hsep' : sep' = '/' ∨ sep' = '\\')
    (base : List Char) :
    normalize [sep'] (closeBase sep (normalize [sep] base)) = closeBase sep' (normalize [sep'] base) := by
  rw [closeBase, closeBase, closed_normalize hsep hsep']
  split
  · exact normalize_normalize hsep base
  · rw [normalize_append, normalize_normalize hsep, normalize_sep hsep]

section

variable {base : Place} {pattern resolved : List Char}

theorem isIncluded_path (sep : Char) (base : Place) (path : List Char) (patterns : List (List Char)) :
    isIncluded sep base (.path path) patterns = anyMatches sep base (normalize [sep] path) patterns :=
  rfl

theorem resolve_rooted (hrooted : isRooted sep (normalize [sep] pattern) = true) :
    resolve sep base pattern = .ok (normalize [sep] pattern) :=
  if_pos hrooted

theorem resolve_relative {directory : List Char} (hrooted : isRooted sep (normalize [sep] pattern) = false) :
    resolve sep (.path directory) pattern =
      .ok (closeBase sep (normalize [sep] directory) ++ normalize [sep] pattern) := by
  have hrelative : ¬ isRooted sep (normalize [sep] pattern) = true := by simp [hrooted]
  exact if_neg hrelative

theorem isIncluded_single (hne : pattern ≠ []) (hresolve : resolve sep base pattern = .ok resolved)
    (path : List Char) :
    isIncluded sep base (.path path) [pattern] =
      .ok (matchesPath sep resolved (normalize [sep] path)) := by
  have hempty : pattern.isEmpty = false := by simpa using hne
  simp only [isIncluded_path, anyMatches, hempty, hresolve, Bool.false_eq_true, if_false]
  cases hm : matchesPath sep resolved (normalize [sep] path) <;>
    simp [bind, Except.bind, pure, Except.pure, hm]

end

end ApiLint.Scope
