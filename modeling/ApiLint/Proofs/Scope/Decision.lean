import ApiLint.Proofs.Files.Steps
import ApiLint.Proofs.Glob.Depth
import ApiLint.Proofs.Scope.Normal
import ApiLint.Proofs.Scope.Patterns
import ApiLint.Scope.Decision

/-! What the decision on a document depends on. Of its path only the ends and the segments count, so
absolute paths with the same steps decide alike; a path that steps back has more segments than the
resolved one, and a pattern of one line can tell them apart. -/

namespace ApiLint.Scope

open Glob

/-- Two texts are one path for every pattern. -/
structure SamePath (sep : Char) (a b : List Char) : Prop where
  opened : opened sep a = opened sep b
  closed : closed sep a = closed sep b
  segments : segments sep a = segments sep b

section

variable {sep : Char} {a b : List Char}

theorem SamePath.matchesPath (h : SamePath sep a b) (pattern : List Char) :
    matchesPath sep pattern a = matchesPath sep pattern b :=
  (SameShape.refl sep pattern).matchesPath rfl ⟨h.opened, h.closed, h.segments⟩

theorem SamePath.anyMatches (h : SamePath sep a b) (base : Place) (patterns : List (List Char)) :
    anyMatches sep base a patterns = anyMatches sep base b patterns := by
  induction patterns with
  | nil => rfl
  | cons pattern patterns ih => simp only [Scope.anyMatches, h.matchesPath, ih]

theorem exclusion_path (base : Place) (path : List Char) (patterns : List (List Char)) :
    exclusion [sep] base (.path path) patterns =
      if base.isMissing then some .missing
      else
        match isIncluded sep base (.path path) patterns with
        | .error fault => some (.fault fault)
        | .ok false => some .unmatched
        | .ok true => none := by
  have hmissing : (base.isMissing || (Place.path path).isMissing) = base.isMissing := Bool.or_false _
  rw [exclusion, hmissing]
  rfl

theorem decision_iff {base : Place} {path : List Char} {patterns : List (List Char)} :
    (decision [sep] base (.path path) patterns).1 = true ↔
      base.isMissing = false ∧ isIncluded sep base (.path path) patterns = .ok true := by
  rw [decision, exclusion_path]
  cases base.isMissing with
  | true => simp
  | false =>
    cases isIncluded sep base (.path path) patterns with
    | error fault => simp
    | ok included => cases included <;> simp

end

theorem normalize_atLeast (n : Nat) : normalize ['/'] (atLeast '/' n) = atLeast '/' n := by
  have hplain : ∀ c ∈ atLeast '/' n, normalChar '/' c = c := by
    intro c hc
    rcases mem_atLeast hc with rfl | rfl <;> rfl
  rw [normalize_eq_map, List.map_congr_left hplain, List.map_id']

theorem patterns_atLeast (n : Nat) : patterns (atLeast '/' n) = [atLeast '/' n] := by
  obtain ⟨body, hbody⟩ := atLeast_eq_cons '/' n
  have hne : atLeast '/' n ≠ [] := by simp [hbody]
  have hblank : ∀ c ∈ atLeast '/' n, Text.isBlank c = false := by
    intro c hc
    rcases mem_atLeast hc with rfl | rfl <;> decide
  have hend : ∀ c ∈ atLeast '/' n, Text.isLineEnd c = false := by
    intro c hc
    rcases mem_atLeast hc with rfl | rfl <;> decide
  have hpattern : IsPattern (atLeast '/' n) :=
    ⟨hne, fun c hc => hblank c (List.mem_of_head? hc), fun c hc => hblank c (List.mem_of_getLast? hc), hend⟩
  exact hpattern.patterns_eq

section

variable {p q : Path}

theorem normalize_absolute (h : p.isAbsolute = true) :
    normalize ['/'] p.chars =
      p.anchor.written ++ Text.joinWith ['/'] (p.parts.map (normalize ['/'])) := by
  have hanchor : normalize ['/'] p.anchor.written = p.anchor.written := by
    cases p.anchor <;> rfl
  have hparts : normalize ['/'] (Text.joinWith ['/'] p.parts) =
      Text.joinWith ['/'] (p.parts.map (normalize ['/'])) := by
    have hmap : normalize ['/'] = List.map (normalChar '/') := funext (normalize_eq_map '/')
    rw [hmap, Text.map_joinWith]
    rfl
  rw [Path.chars_absolute h, normalize_append, hanchor, hparts]

theorem opened_absolute (h : p.isAbsolute = true) : opened '/' (normalize ['/'] p.chars) = true := by
  rw [normalize_absolute h]
  cases hanchor : p.anchor with
  | relative => simp [Path.isAbsolute, hanchor] at h
  | root => rfl
  | doubleRoot => rfl

theorem segments_absolute (h : p.isAbsolute = true) :
    segments '/' (normalize ['/'] p.chars) =
      p.parts.flatMap fun part => segments '/' (normalize ['/'] part) := by
  have hbody : segments '/' (normalize ['/'] p.chars) =
      segments '/' (Text.joinWith ['/'] (p.parts.map (normalize ['/']))) := by
    rw [normalize_absolute h]
    cases p.anchor with
    | relative => rfl
    | root => exact segments_cons_sep '/' _
    | doubleRoot => exact (segments_cons_sep '/' _).trans (segments_cons_sep '/' _)
  rw [hbody, segments_joinWith, List.flatMap_map]

theorem closed_absolute (h : p.isAbsolute = true) :
    closed '/' (normalize ['/'] p.chars) =
      closed '/' ('/' :: Text.joinWith ['/'] (p.parts.map (normalize ['/']))) := by
  rw [normalize_absolute h]
  cases hanchor : p.anchor with
  | relative => simp [Path.isAbsolute, hanchor] at h
  | root => rfl
  | doubleRoot => exact closed_cons (List.cons_ne_nil _ _)

theorem isIncluded_atLeast (n : Nat) (base : Place) (h : p.isAbsolute = true) :
    isIncluded '/' base (.path p.chars) [atLeast '/' n] = .ok true ↔
      n ≤ (segments '/' (normalize ['/'] p.chars)).length := by
  obtain ⟨body, hbody⟩ := atLeast_eq_cons '/' n
  have hne : atLeast '/' n ≠ [] := by simp [hbody]
  have hrooted : isRooted '/' (normalize ['/'] (atLeast '/' n)) = true := by
    rw [normalize_atLeast, hbody]
    simp [isRooted, opened]
  rw [isIncluded_single hne (resolve_rooted hrooted), normalize_atLeast, Except.ok.injEq,
    matchesPath_atLeast (by decide), opened_absolute h]
  exact and_iff_right rfl

/-- How many separators stand in front of a path has no part in the decision. -/
theorem samePath_of_parts (hp : p.isAbsolute = true) (hq : q.isAbsolute = true)
    (hparts : p.parts = q.parts) :
    SamePath '/' (normalize ['/'] p.chars) (normalize ['/'] q.chars) where
  opened := (opened_absolute hp).trans (opened_absolute hq).symm
  closed := by rw [closed_absolute hp, closed_absolute hq, hparts]
  segments := by rw [segments_absolute hp, segments_absolute hq, hparts]

theorem samePath_resolve (h : p.isAbsolute = true) (hback : Path.back ∉ p.parts) (directory : Path) :
    SamePath '/' (normalize ['/'] p.chars) (normalize ['/'] (Path.resolve directory p).chars) := by
  have hparts : p.parts = (Path.resolve directory p).parts := by
    rw [Path.resolve_absolute directory h, Path.stepBack_of_not_mem hback]
    rfl
  exact samePath_of_parts h rfl hparts

/-- A step back is a segment of its own, which the resolved path lacks. -/
theorem length_segments_resolve_lt (h : p.isAbsolute = true) (hback : Path.back ∈ p.parts)
    (directory : Path) :
    (segments '/' (normalize ['/'] (Path.resolve directory p).chars)).length <
      (segments '/' (normalize ['/'] p.chars)).length := by
  obtain ⟨front, rest, hparts⟩ := List.append_of_mem hback
  have hkept : (Path.stepBack [] p.parts).Sublist (front ++ rest) := by
    have hsteps := Path.stepBack_sublist [] p.parts
    rw [hparts, List.filter_append, List.filter_cons_of_neg (by simp)] at hsteps
    rw [hparts]
    exact hsteps.trans (List.filter_sublist.append List.filter_sublist)
  have hone : segments '/' (normalize ['/'] Path.back) = [Path.back] := by decide
  have hle := (hkept.flatMap fun part => segments '/' (normalize ['/'] part)).length_le
  rw [segments_absolute (p := Path.resolve directory p) rfl, Path.resolve_absolute directory h,
    segments_absolute h, hparts]
  rw [hparts] at hle
  simp only [List.flatMap_append, List.flatMap_cons, List.length_append, hone] at hle ⊢
  simp only [List.length_singleton]
  omega

end

end ApiLint.Scope
