import ApiLint.Proofs.Glob.Match

/-! The paths that a pattern stands for, and that the matcher answers for every pattern and path whether
the one is among the others. -/

namespace ApiLint.Glob

/-- The segments of a path are what the tokens of a pattern stand for. Without a span the two also agree
on a separator at the end, but that a last token `*` may stand for the empty segment behind one. -/
def Spells (sep : Char) (pattern path : List Char) : Prop :=
  if span ∈ segments sep pattern then Covers (segments sep pattern) (segments sep path)
  else
    (Covers (segments sep pattern) (segments sep path) ∧ closed sep pattern = closed sep path) ∨
      ∃ front, segments sep pattern = front ++ [['*']] ∧ Covers front (segments sep path) ∧
        closed sep path = true

def Admits (sep : Char) (pattern path : List Char) : Prop :=
  (opened sep path = opened sep pattern ∨ startsWithSpan pattern = true) ∧ Spells sep pattern path

def Decides (result : Option Bool) (p : Prop) : Prop :=
  ∃ answer, result = some answer ∧ (answer = true ↔ p)

theorem between_all (xs : List (List Char)) : between xs.toArray 0 xs.toArray.size = xs := by
  simp [between]

section

variable {tokens segs : Array (List Char)}

theorem onlySpans_decides {w : Window} (h : w.Inside tokens segs) (hend : w.segEnd ≤ w.seg) :
    Decides (onlySpans tokens w.token w.tokenEnd) (w.Covered tokens segs) := by
  refine ⟨_, onlySpans_eq h.tokenEnd_le, ?_⟩
  rw [decide_eq_true_iff, Window.Covered, between_of_le hend, covers_nil_right]

theorem onlySpans_decides_last {w : Window} (h : w.Inside tokens segs) (hs : w.Spanned tokens)
    (hlast : w.token + 1 = w.tokenEnd) :
    Decides (onlySpans tokens w.token w.tokenEnd) (w.Covered tokens segs) := by
  have he : between tokens w.token w.tokenEnd = [span] := by
    rw [hs.between_eq, between_of_le (Nat.le_of_eq hlast.symm)]
  refine ⟨_, onlySpans_eq h.tokenEnd_le, ?_⟩
  rw [decide_eq_true_iff, Window.Covered, he]
  exact ⟨fun _ => covers_span.mpr ⟨_, [], (List.append_nil _).symm, .nil⟩, by simp⟩

theorem matchSpanned_decides {w : Window} (h : w.Inside tokens segs) (hlt : w.token < w.tokenEnd)
    (hx : tokens[w.token]? = some span) :
    Decides (matchSpanned tokens segs w) (w.Covered tokens segs) := by
  rcases passBack_eq h hlt hx with ⟨hp, hnot⟩ | ⟨back, hp, hi, hiff, hback⟩
  · exact ⟨false, by simp [matchSpanned, hp], by simpa using hnot⟩
  · rw [← hiff]
    by_cases hend : back.segEnd ≤ back.seg
    · simpa only [matchSpanned, hp, hend, Option.bind_eq_bind, Option.bind_some, if_true] using
        onlySpans_decides hi hend
    · have hs := hback.resolve_right hend
      rcases passGroups_eq hi hs with ⟨hg, hnot⟩ | ⟨left, hg, hi', hiff', hleft⟩
      · exact ⟨false, by simp [matchSpanned, hp, hend, hg], by simpa using hnot⟩
      · rw [← hiff']
        simp only [matchSpanned, hp, hend, hg, Option.bind_eq_bind, Option.bind_some, if_false]
        rcases hleft with ⟨hlast, hs'⟩ | hend'
        · exact onlySpans_decides_last hi' hs' hlast
        · exact onlySpans_decides hi' hend'

end

theorem spells_iff_of_reaches {sep : Char} {pattern path : List Char} {tokens : List (List Char)}
    (h : Reaches (segments sep pattern) (segments sep path) tokens []) :
    Spells sep pattern path ↔
      (tokens = [] ∧ closed sep pattern = closed sep path) ∨
        (tokens = [['*']] ∧ closed sep path = true) ∨
        (tokens ≠ [] ∧ ∀ token ∈ tokens, token = span) := by
  have hcov := h.covers_iff.trans covers_nil_right
  obtain ⟨group, taken, hp, hs, hg, hf⟩ := h
  rw [List.append_nil] at hs
  by_cases hspan : span ∈ segments sep pattern
  · have hmem : span ∈ tokens := by
      rw [hp, List.mem_append] at hspan
      exact hspan.resolve_left hg
    have hne : tokens ≠ [] := List.ne_nil_of_mem hmem
    have hstar : tokens ≠ [['*']] := by
      rintro rfl
      simp [span] at hmem
    simp only [Spells, if_pos hspan, hcov, hne, hstar, false_and, false_or, ne_eq, not_false_eq_true,
      true_and]
  · have hnot : span ∉ tokens := fun hm => hspan (hp ▸ List.mem_append_right _ hm)
    have hall : (∀ token ∈ tokens, token = span) ↔ tokens = [] := by
      constructor
      · intro ha
        exact List.eq_nil_iff_forall_not_mem.mpr fun t ht => hnot (ha t ht ▸ ht)
      · rintro rfl
        simp
    have hlast : (∃ front, segments sep pattern = front ++ [['*']] ∧ Covers front (segments sep path) ∧
        closed sep path = true) ↔ tokens = [['*']] ∧ closed sep path = true := by
      constructor
      · rintro ⟨front, he, hc, hcl⟩
        have hfront : span ∉ front := fun hm => hspan (he ▸ List.mem_append_left _ hm)
        have hl := ((covers_iff_fits hfront).mp hc).length_eq
        rw [hs, ← hf.length_eq] at hl
        rw [hp] at he
        exact ⟨(List.append_inj he hl.symm).2, hcl⟩
      · rintro ⟨rfl, hcl⟩
        exact ⟨group, hp, hs ▸ (covers_iff_fits hg).mpr hf, hcl⟩
    simp only [Spells, if_neg hspan, hcov, hall, hlast, ne_eq, not_and_self, or_false]

theorem answerAtEnd_decides {sep : Char} {pattern path : List Char} {tokens : Array (List Char)}
    {w : Window} (h : w.tokenEnd ≤ tokens.size)
    (hr : Reaches (segments sep pattern) (segments sep path)
      (between tokens w.token w.tokenEnd) []) :
    Decides (answerAtEnd sep pattern path tokens w) (Spells sep pattern path) := by
  rw [spells_iff_of_reaches hr]
  by_cases hle : w.tokenEnd ≤ w.token
  · refine ⟨decide (closed sep pattern = closed sep path), if_pos hle, ?_⟩
    simp [between_of_le hle]
  · obtain ⟨token, ht⟩ := getElem?_isSome (show w.token < tokens.size by omega)
    have hb := between_cons (show w.token < w.tokenEnd by omega) ht
    rw [answerAtEnd, if_neg hle, ht, Option.bind_eq_bind, Option.bind_some, hb]
    have hlast : w.token + 1 = w.tokenEnd ↔ between tokens (w.token + 1) w.tokenEnd = [] := by
      rw [← List.length_eq_zero_iff, length_between h]
      omega
    by_cases hstar : w.token + 1 = w.tokenEnd ∧ token = ['*'] ∧ closed sep path
    · refine ⟨true, if_pos hstar, ?_⟩
      simp [hlast.mp hstar.1, hstar.2.1, hstar.2.2]
    · refine ⟨_, by rw [if_neg hstar]; exact onlySpans_eq h, ?_⟩
      rw [decide_eq_true_iff, hb]
      rw [hlast] at hstar
      constructor
      · intro ha
        exact Or.inr (Or.inr ⟨List.cons_ne_nil _ _, ha⟩)
      · rintro (⟨he, _⟩ | ⟨he, hc⟩ | ⟨_, ha⟩)
        · exact absurd he (List.cons_ne_nil _ _)
        · obtain ⟨rfl, hn⟩ := List.cons.inj he
          exact absurd ⟨hn, rfl, hc⟩ hstar
        · exact ha

theorem Clash.not_spells {sep : Char} {pattern path : List Char}
    (h : Clash (segments sep pattern) (segments sep path)) : ¬ Spells sep pattern path := by
  unfold Spells
  split
  · exact h.not_covers
  · rintro (⟨hc, _⟩ | ⟨front, he, hc, _⟩)
    · exact h.not_covers hc
    · exact Clash.not_covers_of_concat (he ▸ h) hc

theorem not_spells_of_reaches {sep : Char} {pattern path : List Char} {segs : List (List Char)}
    (h : Reaches (segments sep pattern) (segments sep path) [] segs) (hne : segs ≠ []) :
    ¬ Spells sep pattern path := by
  have hcov := h.covers_iff.trans covers_nil_left
  obtain ⟨group, taken, hp, hs, hg, hf⟩ := h
  rw [List.append_nil] at hp
  rw [Spells, if_neg (hp ▸ hg)]
  rintro (⟨hc, _⟩ | ⟨front, he, hc, _⟩)
  · exact hne (hcov.mp hc)
  · have hfront : span ∉ front := fun hm => hg (hp ▸ he ▸ List.mem_append_left _ hm)
    have hl := ((covers_iff_fits hfront).mp hc).length_eq
    have hlen := List.length_pos_iff.mpr hne
    have hgroup := congrArg List.length (hp.symm.trans he)
    rw [hs, List.length_append, ← hf.length_eq, hgroup, List.length_append] at hl
    omega

theorem matchTokens_decides (sep : Char) (pattern path : List Char) :
    Decides (matchTokens sep pattern path) (Spells sep pattern path) := by
  have hi : Window.Inside (segments sep pattern).toArray (segments sep path).toArray
      ⟨0, (segments sep pattern).toArray.size, 0, (segments sep path).toArray.size⟩ :=
    ⟨Nat.le_refl _, Nat.le_refl _⟩
  rcases passFront_eq hi with ⟨hp, hc⟩ | ⟨w, hp, hin, hr, hend⟩
  · rw [between_all, between_all] at hc
    refine ⟨false, ?_, by simpa using hc.not_spells⟩
    simp only [matchTokens, hp, Option.bind_eq_bind, Option.bind_some]
  · rw [between_all, between_all] at hr
    simp only [matchTokens, hp, Option.bind_eq_bind, Option.bind_some]
    by_cases hsegs : w.segEnd ≤ w.seg
    · rw [if_pos hsegs]
      rw [between_of_le hsegs] at hr
      exact answerAtEnd_decides hin.tokenEnd_le hr
    · rw [if_neg hsegs]
      by_cases htokens : w.tokenEnd ≤ w.token
      · rw [between_of_le htokens] at hr
        have hne := List.length_pos_iff.mp
          (by rw [length_between hin.segEnd_le]; omega : 0 < (between _ w.seg w.segEnd).length)
        exact ⟨false, if_pos htokens, by simpa using not_spells_of_reaches hr hne⟩
      · rw [if_neg htokens]
        have hx := (hend.resolve_left hsegs).resolve_left htokens
        have hspan : span ∈ segments sep pattern := by
          obtain ⟨group, _, hp', _⟩ := hr
          rw [hp', between_cons (by omega) hx]
          simp
        rw [Spells, if_pos hspan, hr.covers_iff]
        exact matchSpanned_decides hin (by omega) hx

theorem matchPath_decides (sep : Char) (pattern path : List Char) :
    Decides (matchPath sep pattern path) (Admits sep pattern path) := by
  unfold matchPath Admits
  split
  · rename_i h
    refine ⟨false, rfl, ?_⟩
    simp_all
  · rename_i h
    have hopen : opened sep path = opened sep pattern ∨ startsWithSpan pattern = true := by
      by_cases ho : opened sep path = opened sep pattern
      · exact Or.inl ho
      · exact Or.inr (by simpa [ho] using h)
    simpa only [hopen, true_and] using matchTokens_decides sep pattern path

theorem matchesPath_iff {sep : Char} {pattern path : List Char} :
    matchesPath sep pattern path = true ↔ Admits sep pattern path := by
  obtain ⟨answer, ha, hiff⟩ := matchPath_decides sep pattern path
  rw [matchesPath, decide_eq_true_iff, ha, Option.some_inj, hiff]

/-- Two texts, each with a separator of its own, fall into the same segments and begin and end alike. -/
structure SameShape (sep sep' : Char) (a b : List Char) : Prop where
  opened : opened sep a = opened sep' b
  closed : closed sep a = closed sep' b
  segments : segments sep a = segments sep' b

theorem SameShape.refl (sep : Char) (a : List Char) : SameShape sep sep a a :=
  ⟨rfl, rfl, rfl⟩

theorem SameShape.matchesPath {sep sep' : Char} {pattern pattern' path path' : List Char}
    (hpattern : SameShape sep sep' pattern pattern')
    (hspan : startsWithSpan pattern = startsWithSpan pattern')
    (hpath : SameShape sep sep' path path') :
    matchesPath sep pattern path = matchesPath sep' pattern' path' := by
  rw [Bool.eq_iff_iff, matchesPath_iff, matchesPath_iff, Admits, Admits, Spells, Spells,
    hpattern.opened, hpattern.closed, hpattern.segments, hspan, hpath.opened, hpath.closed,
    hpath.segments]

/-- The matcher ends with an answer for every pattern and path, and the answer is yes for the paths that
the pattern stands for and for no others. -/
theorem matchPath_total_and_exact (sep : Char) (pattern path : List Char) :
    ∃ answer, matchPath sep pattern path = some answer ∧ matchesPath sep pattern path = answer ∧
      (answer = true ↔ Admits sep pattern path) := by
  obtain ⟨answer, ha, hiff⟩ := matchPath_decides sep pattern path
  refine ⟨answer, ha, ?_, hiff⟩
  rw [Bool.eq_iff_iff, matchesPath_iff, hiff]

example : matchesPath '/' "/a/**/b/*.json".toList "/a/b/x/b/c.json".toList = true := by
  decide +kernel

end ApiLint.Glob
