import ApiLint.Proofs.Glob.Plain
import ApiLint.Proofs.Scope.Normal

/-! Patterns that are read under a base directory. A base without wildcards bounds what they bring in, and
then only the rest of a path decides; a wildcard in the base stands for other directories too. -/

namespace ApiLint.Scope

open Glob

variable {sep : Char} {base pattern path rest : List Char}

theorem isIncluded_relative (hne : pattern ≠ [])
    (hrooted : isRooted sep (normalize [sep] pattern) = false) :
    isIncluded sep (.path base) (.path path) [pattern] =
      .ok (matchesPath sep (closeBase sep (normalize [sep] base) ++ normalize [sep] pattern)
        (normalize [sep] path)) :=
  isIncluded_single hne (resolve_relative hrooted) path

theorem segments_ne_nil_of_not_rooted (hne : pattern ≠ [])
    (hrooted : isRooted sep (normalize [sep] pattern) = false) :
    segments sep (normalize [sep] pattern) ≠ [] := by
  have hopen : opened sep (normalize [sep] pattern) = false := by
    simp only [isRooted, Bool.or_eq_false_iff] at hrooted
    exact hrooted.1.2
  cases hp : normalize [sep] pattern with
  | nil => exact absurd hp (normalize_ne_nil hne)
  | cons c p =>
    rw [hp, opened, decide_eq_false_iff_not, List.head?_cons, Option.some.injEq] at hopen
    exact segments_ne_nil List.mem_cons_self hopen

/-- Below a base without wildcards a path is matched when the rest of it is. -/
theorem spells_under_base (hsep : sep = '/' ∨ sep = '\\') (hbase : hasWildcard base = false)
    (hne : pattern ≠ []) (hrooted : isRooted sep (normalize [sep] pattern) = false) :
    Spells sep (closeBase sep (normalize [sep] base) ++ normalize [sep] pattern) path ↔
      ∃ segs, segments sep path = segments sep (normalize [sep] base) ++ segs ∧
        StandFor (segments sep (normalize [sep] pattern)) segs (closed sep (normalize [sep] pattern))
          (closed sep path) := by
  have hplain : ∀ token ∈ segments sep (normalize [sep] base), hasWildcard token = false := by
    intro token ht
    rw [not_hasWildcard_iff]
    intro c hc
    have hmem := (exists_mem_segments_iff.mp ⟨token, ht, hc⟩).1
    exact not_hasWildcard_iff.mp ((hasWildcard_normalize hsep base).trans hbase) c hmem
  rw [spells_iff_standFor, segments_append_of_closed (closed_closeBase sep _), segments_closeBase,
    closed_append (normalize_ne_nil hne),
    standFor_append_plain hplain (segments_ne_nil_of_not_rooted hne hrooted)]

/-- Every document that a relative pattern brings in lies below the base directory. -/
def KeepsBelow (sep : Char) (base : List Char) : Prop :=
  ∀ pattern path, pattern ≠ [] → isRooted sep (normalize [sep] pattern) = false →
    isIncluded sep (.path base) (.path path) [pattern] = .ok true →
      segments sep (normalize [sep] base) <+: segments sep (normalize [sep] path)

theorem keepsBelow_of_plain (hsep : sep = '/' ∨ sep = '\\') (hbase : hasWildcard base = false) :
    KeepsBelow sep base := by
  intro pattern path hne hrooted hincluded
  rw [isIncluded_relative hne hrooted, Except.ok.injEq, matchesPath_iff] at hincluded
  obtain ⟨segs, he, -⟩ := (spells_under_base hsep hbase hne hrooted).mp hincluded.2
  exact ⟨segs, he.symm⟩

def unmask (c : Char) : Char :=
  if c = '*' ∨ c = '?' then 'x' else c

theorem unmask_of_plain (c : Char) (hstar : c ≠ '*') (hone : c ≠ '?') : unmask c = c :=
  if_neg (by simp [hstar, hone])

theorem unmask_eq_sep_iff (hsep : sep = '/' ∨ sep = '\\') (c : Char) : unmask c = sep ↔ c = sep := by
  unfold unmask
  split
  · rename_i hc
    rcases hsep with rfl | rfl <;> rcases hc with rfl | rfl <;> decide
  · rfl

theorem normalize_map_unmask (hsep : sep = '/' ∨ sep = '\\') (value : List Char) :
    normalize [sep] (value.map unmask) = (normalize [sep] value).map unmask := by
  have hplain : unmask sep = sep := (unmask_eq_sep_iff hsep sep).mpr rfl
  rw [normalize_eq_map, normalize_eq_map, List.map_map, List.map_map]
  refine List.map_congr_left fun c _ => ?_
  simp only [Function.comp_apply]
  by_cases hc : c = '*' ∨ c = '?'
  · rcases hc with rfl | rfl <;> rfl
  · rw [unmask, if_neg hc]
    by_cases hslash : c = '/' ∨ c = '\\'
    · rw [normalChar, if_pos hslash, hplain]
    · rw [normalChar, if_neg hslash, unmask, if_neg hc]

theorem not_keepsBelow_of_wildcard (hsep : sep = '/' ∨ sep = '\\') (hbase : hasWildcard base = true) :
    ¬ KeepsBelow sep base := by
  intro hkeeps
  have hletter : normalize [sep] ['p'] = ['p'] := rfl
  have hrooted : isRooted sep (normalize [sep] ['p']) = false := by
    rcases hsep with rfl | rfl <;> decide
  let resolved := closeBase sep (normalize [sep] base) ++ ['p']
  have hnormal : normalize [sep] (resolved.map unmask) = resolved.map unmask := by
    rw [normalize_map_unmask hsep, normalize_append, normalize_closeBase hsep hsep, hletter]
  have hincluded : isIncluded sep (.path base) (.path (resolved.map unmask)) [['p']] = .ok true := by
    rw [isIncluded_relative (List.cons_ne_nil _ _) hrooted, hnormal, hletter,
      matchesPath_map unmask_of_plain (unmask_eq_sep_iff hsep)]
  have hbelow := hkeeps _ _ (List.cons_ne_nil _ _) hrooted hincluded
  rw [hnormal, segments_map fun c _ => unmask_eq_sep_iff hsep c,
    segments_append_of_closed (closed_closeBase sep _), segments_closeBase, List.map_append] at hbelow
  have hsame := (List.prefix_of_prefix_length_le hbelow (List.prefix_append _ _) (by simp)).eq_of_length
    (by simp)
  obtain ⟨c, hc, hwild⟩ : ∃ c ∈ normalize [sep] base, c = '*' ∨ c = '?' := by
    simpa [hasWildcard] using (hasWildcard_normalize hsep base).trans hbase
  have hne : c ≠ sep := by
    rcases hsep with rfl | rfl <;> rcases hwild with rfl | rfl <;> decide
  obtain ⟨token, ht, hmem⟩ := exists_mem_segments_iff.mpr ⟨hc, hne⟩
  have htoken := List.map_inj_left.mp ((List.map_id _).trans hsame) token ht
  have hletters := List.map_inj_left.mp ((List.map_id _).trans htoken) c hmem
  rw [unmask, if_pos hwild] at hletters
  rcases hwild with rfl | rfl <;> cases hletters

/-- The relative patterns under a base directory keep to the documents below it just when its name has no
wildcard. -/
theorem keepsBelow_iff (hsep : sep = '/' ∨ sep = '\\') (base : List Char) :
    KeepsBelow sep base ↔ hasWildcard base = false := by
  constructor
  · intro hkeeps
    rw [← Bool.not_eq_true]
    exact fun hbase => not_keepsBelow_of_wildcard hsep hbase hkeeps
  · exact keepsBelow_of_plain hsep

theorem keepsBelow_of_drive :
    let pattern := "specs/*.json".toList
    let path := "C:/proj/specs/a.json".toList
    ('\\' = '/' ∨ '\\' = '\\') ∧ hasWildcard "C:\\proj".toList = false ∧
      isIncluded '\\' (.path "C:\\proj".toList) (.path path) [pattern] = .ok true ∧
      segments '\\' (normalize ['\\'] "C:\\proj".toList) <+: segments '\\' (normalize ['\\'] path) := by
  intro pattern path
  have hplain : hasWildcard "C:\\proj".toList = false := by decide
  have hincluded : isIncluded '\\' (.path "C:\\proj".toList) (.path path) [pattern] = .ok true := by
    decide +kernel
  have hkeeps := (keepsBelow_iff (Or.inr rfl) _).mpr hplain
  exact ⟨Or.inr rfl, hplain, hincluded, hkeeps pattern path (by decide) (by decide) hincluded⟩

/-- A base with a star in its name brings in a document of another directory. -/
theorem isIncluded_beside_base :
    isRooted '/' (normalize ['/'] "x.yaml".toList) = false ∧
      isIncluded '/' (.path "/a*".toList) (.path "/ab/x.yaml".toList) ["x.yaml".toList] = .ok true ∧
      ¬ segments '/' (normalize ['/'] "/a*".toList) <+:
        segments '/' (normalize ['/'] "/ab/x.yaml".toList) := by
  decide +kernel

theorem spells_from_sep (hne : pattern ≠ []) :
    Spells sep (sep :: pattern) (sep :: rest) ↔
      StandFor (segments sep pattern) (segments sep rest) (closed sep pattern)
        (closed sep (sep :: rest)) := by
  rw [spells_iff_standFor, segments_cons_sep, segments_cons_sep, closed_cons hne]

/-- Under a base without wildcards only the rest of a path behind the base decides. -/
theorem isIncluded_below_base (hsep : sep = '/' ∨ sep = '\\') (hbase : hasWildcard base = false)
    (hne : pattern ≠ []) (hrooted : isRooted sep (normalize [sep] pattern) = false)
    (rest : List Char) :
    ∃ answer, isIncluded sep (.path base) (.path (closeBase sep (normalize [sep] base) ++ rest))
        [pattern] = .ok answer ∧
      matchPath sep (sep :: normalize [sep] pattern) (sep :: normalize [sep] rest) = some answer := by
  obtain ⟨answer, hanswer, hiff⟩ :=
    matchPath_decides sep (sep :: normalize [sep] pattern) (sep :: normalize [sep] rest)
  refine ⟨answer, ?_, hanswer⟩
  have hclosed : closed sep (closeBase sep (normalize [sep] base) ++ normalize [sep] rest) =
      closed sep (sep :: normalize [sep] rest) := by
    cases hrest : normalize [sep] rest with
    | nil =>
      rw [List.append_nil, closed_closeBase]
      exact (closed_iff.mpr ⟨[], rfl⟩).symm
    | cons c cs => rw [closed_append (List.cons_ne_nil _ _), closed_cons (List.cons_ne_nil _ _)]
  have hspells : Spells sep (closeBase sep (normalize [sep] base) ++ normalize [sep] pattern)
      (closeBase sep (normalize [sep] base) ++ normalize [sep] rest) ↔
        Spells sep (sep :: normalize [sep] pattern) (sep :: normalize [sep] rest) := by
    rw [spells_under_base hsep hbase hne hrooted, spells_from_sep (normalize_ne_nil hne),
      segments_append_of_closed (closed_closeBase sep _), segments_closeBase, hclosed]
    simp
  rw [isIncluded_relative hne hrooted, normalize_append, normalize_closeBase hsep hsep, Except.ok.injEq,
    Bool.eq_iff_iff, hiff, matchesPath_iff, Admits, Admits, hspells,
    opened_append (closeBase_ne_nil sep _), opened_append (closeBase_ne_nil sep _)]
  simp [opened]

theorem isIncluded_below_drive :
    let pattern := "specs/*.json".toList
    ('\\' = '/' ∨ '\\' = '\\') ∧ hasWildcard "C:/proj".toList = false ∧ pattern ≠ [] ∧
      isRooted '\\' (normalize ['\\'] pattern) = false ∧
      isIncluded '\\' (.path "C:/proj".toList) (.path "C:\\proj\\specs/a.json".toList) [pattern] =
        .ok true ∧
      matchPath '\\' "\\specs\\*.json".toList "\\specs\\a.json".toList = some true := by
  intro pattern
  obtain ⟨answer, hincluded, hmatch⟩ := isIncluded_below_base (Or.inr rfl)
    (show hasWildcard "C:/proj".toList = false by decide) (show pattern ≠ [] by decide)
    (show isRooted '\\' (normalize ['\\'] pattern) = false by decide) "specs/a.json".toList
  have htrue : matchPath '\\' "\\specs\\*.json".toList "\\specs\\a.json".toList = some true := by
    decide +kernel
  obtain rfl := Option.some.inj (htrue.symm.trans hmatch)
  exact ⟨Or.inr rfl, by decide, by decide, by decide, hincluded, hmatch⟩

end ApiLint.Scope
