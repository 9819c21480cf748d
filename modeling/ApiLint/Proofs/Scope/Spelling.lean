import ApiLint.Proofs.Glob.Plain
import ApiLint.Proofs.Scope.Exclusion

/-! Directories that are spelled in two ways. Absolute paths with the same steps are one base for every
pattern. A base that steps back is lost to the patterns that are read under it: they match no path that does
not step back itself, and only rooted patterns bring in documents then. -/

namespace ApiLint.Scope

open Glob

section

variable {sep : Char} {a b base path pattern : List Char} {patterns : List (List Char)}

theorem startsWithSpan_of_opened (hsep : sep ≠ '*') (h : opened sep pattern = true) :
    startsWithSpan pattern = false := by
  cases pattern with
  | nil => rfl
  | cons c pattern =>
    obtain rfl : c = sep := by simpa [opened] using h
    simp [startsWithSpan, span, List.isPrefixOf, hsep.symm]

theorem opened_closeBase (h : opened sep base = true) : opened sep (closeBase sep base) = true := by
  unfold closeBase
  split
  · exact h
  · rwa [opened_append (by rintro rfl; cases h)]

/-- Of a base, too, only the ends and the segments count. -/
theorem matchesPath_under_samePath (hsep : sep ≠ '*') (h : SamePath sep a b) (hopened : opened sep a = true)
    (hne : pattern ≠ []) (path : List Char) :
    matchesPath sep (closeBase sep a ++ pattern) path = matchesPath sep (closeBase sep b ++ pattern) path := by
  have hfront : ∀ base, opened sep base = true → opened sep (closeBase sep base ++ pattern) = true := by
    intro base hbase
    rw [opened_append (closeBase_ne_nil sep base), opened_closeBase hbase]
  have ha := hfront a hopened
  have hb := hfront b (h.opened ▸ hopened)
  have hshape : SameShape sep sep (closeBase sep a ++ pattern) (closeBase sep b ++ pattern) := by
    refine ⟨ha.trans hb.symm, ?_, ?_⟩
    · rw [closed_append hne, closed_append hne]
    · rw [segments_append_of_closed (closed_closeBase sep a), segments_closeBase, h.segments,
        segments_append_of_closed (closed_closeBase sep b), segments_closeBase]
  refine hshape.matchesPath ?_ (SameShape.refl sep path)
  rw [startsWithSpan_of_opened hsep ha, startsWithSpan_of_opened hsep hb]

theorem matches_rooted_iff {base : Place} (hrooted : isRooted sep (normalize [sep] pattern) = true) :
    Matches sep base path pattern ↔ matchesPath sep (normalize [sep] pattern) path = true := by
  simp [Matches, resolve_rooted hrooted]

theorem matches_relative_iff (hrooted : isRooted sep (normalize [sep] pattern) = false) :
    Matches sep (.path base) path pattern ↔
      matchesPath sep (closeBase sep (normalize [sep] base) ++ normalize [sep] pattern) path =
        true := by
  simp [Matches, resolve_relative hrooted]

/-- With a base at hand some pattern has to match, whichever stand before it. -/
theorem anyMatches_path_iff :
    anyMatches sep (.path base) path patterns = .ok true ↔
      ∃ pattern ∈ patterns, pattern ≠ [] ∧ Matches sep (.path base) path pattern := by
  have hresolved : ∀ q, ¬ Unresolved sep (.path base) q := by
    rintro q ⟨-, value, ⟨⟩⟩
  rw [anyMatches_eq_true_iff]
  constructor
  · rintro ⟨front, pattern, back, rfl, hne, hmatch, -⟩
    exact ⟨pattern, by simp, hne, hmatch⟩
  · rintro ⟨pattern, hmem, hne, hmatch⟩
    obtain ⟨front, back, rfl⟩ := List.append_of_mem hmem
    exact ⟨front, pattern, back, rfl, hne, hmatch, fun q _ _ => hresolved q⟩

theorem matches_under_samePath_iff (hsep : sep ≠ '*') (h : SamePath sep (normalize [sep] a) (normalize [sep] b))
    (hopened : opened sep (normalize [sep] a) = true) (hne : pattern ≠ []) :
    Matches sep (.path a) path pattern ↔ Matches sep (.path b) path pattern := by
  cases hrooted : isRooted sep (normalize [sep] pattern) with
  | true => rw [matches_rooted_iff hrooted, matches_rooted_iff hrooted]
  | false =>
    rw [matches_relative_iff hrooted, matches_relative_iff hrooted,
      matchesPath_under_samePath hsep h hopened (normalize_ne_nil hne)]

/-- No segment of a path is a step back, both kinds of separator being taken for one. -/
def Straight (path : List Char) : Prop :=
  Path.back ∉ segments '/' (normalize ['/'] path)

/-- A path has a segment more than a directory whose segments it begins with. -/
def Below (directory path : List Char) : Prop :=
  ∃ seg more, segments '/' (normalize ['/'] path) = segments '/' (normalize ['/'] directory) ++ seg :: more

def RootedMatch (path : List Char) (patterns : List (List Char)) : Prop :=
  ∃ pattern ∈ patterns, isRooted '/' (normalize ['/'] pattern) = true ∧
    matchesPath '/' (normalize ['/'] pattern) (normalize ['/'] path) = true

theorem not_matches_of_back (hback : Path.back ∈ segments '/' (normalize ['/'] base))
    (hpath : Straight path) (hrooted : isRooted '/' (normalize ['/'] pattern) = false) :
    ¬ Matches '/' (.path base) (normalize ['/'] path) pattern := by
  rw [matches_relative_iff hrooted, matchesPath_iff]
  rintro ⟨-, hspells⟩
  have hmem : Path.back ∈
      segments '/' (closeBase '/' (normalize ['/'] base) ++ normalize ['/'] pattern) := by
    rw [segments_append_of_closed (closed_closeBase '/' _), segments_closeBase]
    exact List.mem_append_left _ hback
  exact hpath (mem_segments_of_spells hspells (by decide) hmem)

theorem isIncluded_under_back_iff (hback : Path.back ∈ segments '/' (normalize ['/'] base))
    (hpath : Straight path) :
    isIncluded '/' (.path base) (.path path) patterns = .ok true ↔ RootedMatch path patterns := by
  rw [isIncluded_path, anyMatches_path_iff]
  constructor
  · rintro ⟨pattern, hmem, -, hmatch⟩
    cases hrooted : isRooted '/' (normalize ['/'] pattern) with
    | true => exact ⟨pattern, hmem, hrooted, (matches_rooted_iff hrooted).mp hmatch⟩
    | false => exact absurd hmatch (not_matches_of_back hback hpath hrooted)
  · rintro ⟨pattern, hmem, hrooted, hmatch⟩
    have hne : pattern ≠ [] := by
      rintro rfl
      cases hrooted
    exact ⟨pattern, hmem, hne, (matches_rooted_iff hrooted).mpr hmatch⟩

def anythingBelow : List Char := "?*/**".toList

theorem matchesSegment_nonempty {seg : List Char} (h : seg ≠ []) : matchesSegment ['?', '*'] seg = true := by
  have hglobs : globs ['?', '*'] seg = true := by
    cases seg with
    | nil => exact absurd rfl h
    | cons c seg => simpa [globs] using (globs_star [] seg).mpr ⟨seg, [], (List.append_nil seg).symm, rfl⟩
  exact hglobs

theorem isIncluded_anythingBelow (hbase : opened '/' (normalize ['/'] base) = true)
    (hpath : opened '/' (normalize ['/'] path) = true) (hbelow : Below base path) :
    isIncluded '/' (.path base) (.path path) [anythingBelow] = .ok true := by
  obtain ⟨seg, more, hsegs⟩ := hbelow
  have hseg : seg ≠ [] := by
    have hmem : seg ∈ segments '/' (normalize ['/'] path) := by simp [hsegs]
    simpa using (List.mem_filter.mp hmem).2
  have hrooted : isRooted '/' (normalize ['/'] anythingBelow) = false := by decide
  have hpattern : segments '/' (normalize ['/'] anythingBelow) = [['?', '*'], span] := by decide
  have htokens :
      segments '/' (closeBase '/' (normalize ['/'] base) ++ normalize ['/'] anythingBelow) =
        segments '/' (normalize ['/'] base) ++ [['?', '*'], span] := by
    rw [segments_append_of_closed (closed_closeBase '/' _), segments_closeBase, hpattern]
  have hmore : Covers [span] more := covers_span.mpr ⟨more, [], (List.append_nil more).symm, .nil⟩
  rw [isIncluded_path, anyMatches_path_iff]
  refine ⟨anythingBelow, List.mem_singleton_self _, by decide, (matches_relative_iff hrooted).mpr ?_⟩
  rw [matchesPath_iff, Admits, opened_append (closeBase_ne_nil '/' _), opened_closeBase hbase, hpath, Spells,
    htokens, hsegs, if_pos (by simp)]
  exact ⟨Or.inl rfl, covers_append.mpr
    ⟨_, _, rfl, covers_self _, .one (by decide) (matchesSegment_nonempty hseg) hmore⟩⟩

end

section

variable {p q : Path}

/-- Absolute directories with the same steps bring in the same documents. -/
theorem isIncluded_of_parts (hp : p.isAbsolute = true) (hq : q.isAbsolute = true) (hparts : p.parts = q.parts)
    (path : List Char) (patterns : List (List Char)) :
    isIncluded '/' (.path p.chars) (.path path) patterns = .ok true ↔
      isIncluded '/' (.path q.chars) (.path path) patterns = .ok true := by
  have hsame := samePath_of_parts hp hq hparts
  rw [isIncluded_path, isIncluded_path, anyMatches_path_iff, anyMatches_path_iff]
  refine exists_congr fun pattern => and_congr_right fun _ => and_congr_right fun hne => ?_
  exact matches_under_samePath_iff (by decide) hsame (opened_absolute hp) hne

theorem back_mem_segments (hp : p.isAbsolute = true) (hback : Path.back ∈ p.parts) :
    Path.back ∈ segments '/' (normalize ['/'] p.chars) := by
  rw [segments_absolute hp, List.mem_flatMap]
  exact ⟨Path.back, hback, by decide⟩

end

end ApiLint.Scope
