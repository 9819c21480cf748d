import ApiLint.Proofs.Glob.Cover

/-! The matcher finds out what the tokens of a pattern stand for, and never looks where there is nothing.
Each pass keeps the answer: what it leaves in the window is covered exactly when what it found there
was. -/

namespace ApiLint.Glob

theorem between_of_le {xs : Array (List Char)} {start stop : Nat} (h : stop ≤ start) :
    between xs start stop = [] := by
  simp [between, Nat.sub_eq_zero_of_le h]

theorem between_cons {xs : Array (List Char)} {start stop : Nat} {x : List Char} (h : start < stop)
    (hx : xs[start]? = some x) : between xs start stop = x :: between xs (start + 1) stop := by
  obtain ⟨hlt, rfl⟩ := Array.getElem?_eq_some_iff.mp hx
  obtain ⟨n, hn⟩ : ∃ n, stop - start = n + 1 := ⟨stop - start - 1, by omega⟩
  have hn' : stop - (start + 1) = n := by omega
  simp only [between, Array.toList_extract, List.extract_eq_take_drop, hn, hn']
  rw [List.drop_eq_getElem_cons (by simpa using hlt), List.take_succ_cons]
  simp

theorem between_append {xs : Array (List Char)} {start middle stop : Nat} (h : start ≤ middle)
    (h' : middle ≤ stop) : between xs start stop = between xs start middle ++ between xs middle stop := by
  obtain ⟨a, rfl⟩ := Nat.exists_eq_add_of_le h
  obtain ⟨b, rfl⟩ := Nat.exists_eq_add_of_le h'
  simp only [between, Array.toList_extract, List.extract_eq_take_drop]
  rw [show start + a + b - start = a + b by omega, show start + a - start = a by omega,
    show start + a + b - (start + a) = b by omega, List.take_add, List.drop_drop]

theorem between_concat {xs : Array (List Char)} {start stop : Nat} {x : List Char} (h : start < stop)
    (hx : xs[stop - 1]? = some x) : between xs start stop = between xs start (stop - 1) ++ [x] := by
  rw [between_append (show start ≤ stop - 1 by omega) (show stop - 1 ≤ stop by omega),
    between_cons (by omega) hx, between_of_le (show stop ≤ stop - 1 + 1 by omega)]

theorem length_between {xs : Array (List Char)} {start stop : Nat} (h : stop ≤ xs.size) :
    (between xs start stop).length = stop - start := by
  simp [between]
  omega

theorem getElem?_isSome {xs : Array (List Char)} {i : Nat} (h : i < xs.size) :
    ∃ x, xs[i]? = some x :=
  ⟨xs[i], Array.getElem?_eq_getElem h⟩

section

variable {tokens segs : Array (List Char)}

theorem onlySpans_eq {start stop : Nat} (h : stop ≤ tokens.size) :
    onlySpans tokens start stop = some (decide (∀ token ∈ between tokens start stop, token = span)) := by
  fun_induction onlySpans tokens start stop with
  | case1 start hlt ih =>
    obtain ⟨token, ht⟩ := getElem?_isSome (show start < tokens.size by omega)
    rw [between_cons hlt ht, ht]
    by_cases hs : token = span
    · simp [hs, ih]
    · simp [hs]
  | case2 start hle => simp [between_of_le (show stop ≤ start by omega)]

theorem nextSpan_eq {start stop : Nat} (h : stop ≤ tokens.size) (hm : span ∈ between tokens start stop) :
    ∃ next, nextSpan tokens start stop = some next ∧ span ∉ between tokens start next ∧
      between tokens start stop = between tokens start next ++ between tokens next stop ∧
      tokens[next]? = some span := by
  fun_induction nextSpan tokens start stop with
  | case1 start hlt ih =>
    obtain ⟨token, ht⟩ := getElem?_isSome (show start < tokens.size by omega)
    simp only [ht, Option.bind_eq_bind, Option.bind_some]
    by_cases hs : token = span
    · subst hs
      refine ⟨start, if_pos rfl, ?_, ?_, ht⟩
      · simp [between_of_le (Nat.le_refl start)]
      · simp [between_of_le (Nat.le_refl start)]
    · rw [between_cons hlt ht] at hm ⊢
      obtain ⟨next, hn, hnot, he, hx⟩ := ih (by simpa [Ne.symm hs] using hm)
      have hb := nextSpan_bounds tokens hn
      refine ⟨next, by simp [hs, hn], ?_, ?_, hx⟩
      · rw [between_cons (by omega) ht]
        simp [hnot, Ne.symm hs]
      · rw [between_cons (by omega) ht, he, List.cons_append]
  | case2 start hle => simp [between_of_le (show stop ≤ start by omega)] at hm

theorem groupFits_eq {group : List (List Char)} {place : Nat} (h : place + group.length ≤ segs.size) :
    ∃ fits, groupFits segs group place = some fits ∧
      (fits = true ↔ Fits group (between segs place (place + group.length))) := by
  induction group generalizing place with
  | nil => exact ⟨true, rfl, by simp [between_of_le]⟩
  | cons token group ih =>
    simp only [List.length_cons] at h ⊢
    obtain ⟨seg, hs⟩ := getElem?_isSome (show place < segs.size by omega)
    obtain ⟨fits, hf, hiff⟩ := ih (show place + 1 + group.length ≤ segs.size by omega)
    rw [between_cons (by omega) hs, Nat.add_comm group.length 1, ← Nat.add_assoc]
    by_cases hm : matchesSegment token seg = true
    · exact ⟨fits, by simp [groupFits, hs, hm, hf], by simp [Fits, hm] at hiff ⊢; exact hiff⟩
    · exact ⟨false, by simp [groupFits, hs, hm], by simp [Fits, hm]⟩

/-- A group is put where it fits first, and what follows decides the rest; or it fits nowhere. -/
theorem findGroup_eq {group : List (List Char)} {start stop : Nat} (h : stop ≤ segs.size)
    (hle : start ≤ stop) (hg : span ∉ group) :
    (findGroup segs group start stop = some none ∧
      ∀ tokens, ¬ Covers (span :: (group ++ span :: tokens)) (between segs start stop)) ∨
    ∃ found, findGroup segs group start stop = some (some found) ∧ found + group.length ≤ stop ∧
      ∀ tokens, Covers (span :: (group ++ span :: tokens)) (between segs start stop) ↔
        Covers (span :: tokens) (between segs (found + group.length) stop) := by
  fun_induction findGroup segs group start stop with
  | case1 start hroom ih =>
    obtain ⟨fits, hf, hiff⟩ := groupFits_eq (show start + group.length ≤ segs.size by omega)
    simp only [hf, Option.bind_eq_bind, Option.bind_some]
    cases fits with
    | true =>
      refine Or.inr ⟨start, rfl, hroom, fun tokens => ?_⟩
      rw [between_append (Nat.le_add_right start group.length) hroom]
      exact covers_group hg (hiff.mp rfl)
    | false =>
      have hnot : ∀ taken, taken <+: between segs start stop → ¬ Fits group taken := by
        intro taken ht hfit
        apply Bool.false_ne_true
        apply hiff.mpr
        rw [between_append (Nat.le_add_right start group.length) hroom] at ht
        have hl : (between segs start (start + group.length)).length = start + group.length - start :=
          length_between (by omega)
        have := List.prefix_of_prefix_length_le ht (List.prefix_append _ _)
          (by rw [hl, ← hfit.length_eq]; omega)
        rwa [this.eq_of_length (by rw [hl, ← hfit.length_eq]; omega)] at hfit
      -- a group without tokens fits everywhere, so a segment is left here
      have hlt : start < stop := by
        rcases Nat.lt_or_ge start stop with hlt | hge
        · exact hlt
        · obtain rfl : group = [] := List.length_eq_zero_iff.mp (by omega)
          exact absurd .nil (hnot [] List.nil_prefix)
      obtain ⟨seg, hs⟩ := getElem?_isSome (show start < segs.size by omega)
      rw [between_cons hlt hs] at hnot ⊢
      simpa only [covers_group_cons hg hnot, Bool.false_eq_true, if_false] using ih hlt
  | case2 start hgt =>
    refine Or.inl ⟨rfl, fun tokens hc => ?_⟩
    obtain ⟨pre, rest, he, hr⟩ := covers_span.mp hc
    have hl := hr.length_le hg
    have := congrArg List.length he
    rw [length_between h, List.length_append] at this
    omega

structure Window.Inside (tokens segs : Array (List Char)) (w : Window) : Prop where
  tokenEnd_le : w.tokenEnd ≤ tokens.size
  segEnd_le : w.segEnd ≤ segs.size

def Window.Covered (tokens segs : Array (List Char)) (w : Window) : Prop :=
  Covers (between tokens w.token w.tokenEnd) (between segs w.seg w.segEnd)

/-- The window has tokens, of which the first and the last are spans. -/
structure Window.Spanned (tokens : Array (List Char)) (w : Window) : Prop where
  lt : w.token < w.tokenEnd
  first : tokens[w.token]? = some span
  last : tokens[w.tokenEnd - 1]? = some span

theorem Window.Spanned.between_eq {w : Window} (h : w.Spanned tokens) :
    between tokens w.token w.tokenEnd = span :: between tokens (w.token + 1) w.tokenEnd :=
  between_cons h.lt h.first

theorem Window.Spanned.next {w : Window} (h : w.Spanned tokens) (hi : w.Inside tokens segs)
    (hne : w.token + 1 ≠ w.tokenEnd) :
    ∃ next, nextSpan tokens (w.token + 1) w.tokenEnd = some next ∧
      span ∉ between tokens (w.token + 1) next ∧
      between tokens w.token w.tokenEnd =
        span :: (between tokens (w.token + 1) next ++ between tokens next w.tokenEnd) ∧
      ∀ seg, Window.Spanned tokens { w with token := next, seg := seg } := by
  have hlt := h.lt
  have hm : span ∈ between tokens (w.token + 1) w.tokenEnd := by
    rw [between_concat (by omega) h.last]
    simp
  obtain ⟨next, hn, hnot, he, hx⟩ := nextSpan_eq hi.tokenEnd_le hm
  exact ⟨next, hn, hnot, by rw [h.between_eq, he],
    fun _ => ⟨(nextSpan_bounds tokens hn).2, hx, h.last⟩⟩

/-- The groups are put one after the other; a window that is left has one span, or no segments. -/
theorem passGroups_eq {w : Window} (h : w.Inside tokens segs) (hs : w.Spanned tokens) :
    (passGroups tokens segs w = some .mismatch ∧ ¬ w.Covered tokens segs) ∨
    ∃ left, passGroups tokens segs w = some (.left left) ∧ left.Inside tokens segs ∧
      (left.Covered tokens segs ↔ w.Covered tokens segs) ∧
      (left.token + 1 = left.tokenEnd ∧ left.Spanned tokens ∨ left.segEnd ≤ left.seg) := by
  fun_induction passGroups tokens segs w with
  | case1 w hw hn =>
    obtain ⟨next, hn', _⟩ := hs.next h hw.1
    rw [hn] at hn'
    cases hn'
  | case2 w hw hn hb ih =>
    obtain ⟨next, hn', _, he, hs'⟩ := hs.next h hw.1
    obtain rfl := Option.some.inj (hn.symm.trans hn')
    have hiff : Window.Covered tokens segs { w with token := w.token + 1 } ↔ w.Covered tokens segs := by
      simp only [Window.Covered, he, (hs' w.seg).between_eq, between_of_le (Nat.le_refl _),
        List.nil_append, covers_span_span]
    simpa only [hn, if_true, hiff] using ih ⟨h.tokenEnd_le, h.segEnd_le⟩ (hs' w.seg)
  | case3 w hw next hn hb hne group ih =>
    obtain ⟨next', hn', hg, he, hs'⟩ := hs.next h hw.1
    obtain rfl := Option.some.inj (hn.symm.trans hn')
    rw [(hs' w.seg).between_eq] at he
    rcases findGroup_eq h.segEnd_le (Nat.le_of_lt hw.2) (show span ∉ group from hg) with ⟨hf, hnot⟩ | ⟨found, hf, _, hiff⟩
    · refine Or.inl ⟨by rw [hf]; rfl, ?_⟩
      rw [Window.Covered, he]
      exact hnot _
    · have hiff' : Window.Covered tokens segs { w with token := next, seg := found + group.length } ↔
          w.Covered tokens segs := by
        rw [Window.Covered, Window.Covered, he, hiff, (hs' (found + group.length)).between_eq]
      simpa only [hf, Option.bind_eq_bind, Option.bind_some, hiff'] using
        ih found ⟨h.tokenEnd_le, h.segEnd_le⟩ (hs' _)
  | case4 w hw =>
    refine Or.inr ⟨w, rfl, h, Iff.rfl, ?_⟩
    by_cases he : w.token + 1 = w.tokenEnd
    · exact Or.inl ⟨he, hs⟩
    · exact Or.inr (by omega)

theorem passBack_eq {w : Window} (h : w.Inside tokens segs) (hlt : w.token < w.tokenEnd)
    (hx : tokens[w.token]? = some span) :
    (passBack tokens segs w = some .mismatch ∧ ¬ w.Covered tokens segs) ∨
    ∃ left, passBack tokens segs w = some (.left left) ∧ left.Inside tokens segs ∧
      (left.Covered tokens segs ↔ w.Covered tokens segs) ∧
      (left.Spanned tokens ∨ left.segEnd ≤ left.seg) := by
  have := h.tokenEnd_le
  have := h.segEnd_le
  fun_induction passBack tokens segs w with
  | case1 w hw ih =>
    obtain ⟨token, ht⟩ := getElem?_isSome (show w.tokenEnd - 1 < tokens.size by omega)
    obtain ⟨seg, hs⟩ := getElem?_isSome (show w.segEnd - 1 < segs.size by omega)
    simp only [ht, hs, Option.bind_eq_bind, Option.bind_some]
    by_cases he : token = span
    · subst he
      exact Or.inr ⟨w, if_pos rfl, h, Iff.rfl, Or.inl ⟨hw.1, hx, ht⟩⟩
    · have hcov : w.Covered tokens segs ↔ matchesSegment token seg = true ∧
          Window.Covered tokens segs
            { w with tokenEnd := w.tokenEnd - 1, segEnd := w.segEnd - 1 } := by
        rw [Window.Covered, between_concat hw.1 ht, between_concat hw.2 hs, covers_concat he,
          Window.Covered]
      by_cases hm : matchesSegment token seg = true
      · have hne : w.token ≠ w.tokenEnd - 1 := by
          intro heq
          rw [← heq, hx] at ht
          exact he (Option.some.inj ht).symm
        simpa only [he, hm, hcov, if_true, if_false, true_and] using
          ih ⟨by simp only; omega, by simp only; omega⟩ (by simp only; omega) hx
            (by simp only; omega) (by simp only; omega)
      · exact Or.inl ⟨by simp [he, hm], fun hc => hm (hcov.mp hc).1⟩
  | case2 w hw => exact Or.inr ⟨w, rfl, h, Iff.rfl, Or.inr (by omega)⟩

theorem passFront_eq {w : Window} (h : w.Inside tokens segs) :
    (passFront tokens segs w = some .mismatch ∧
      Clash (between tokens w.token w.tokenEnd) (between segs w.seg w.segEnd)) ∨
    ∃ left, passFront tokens segs w = some (.left left) ∧ left.Inside tokens segs ∧
      Reaches (between tokens w.token w.tokenEnd) (between segs w.seg w.segEnd)
        (between tokens left.token left.tokenEnd) (between segs left.seg left.segEnd) ∧
      (left.segEnd ≤ left.seg ∨ left.tokenEnd ≤ left.token ∨ tokens[left.token]? = some span) := by
  have := h.tokenEnd_le
  have := h.segEnd_le
  have hrefl : ∀ tokens segs, Reaches tokens segs tokens segs :=
    fun _ _ => ⟨[], [], rfl, rfl, by simp, .nil⟩
  fun_induction passFront tokens segs w with
  | case1 w hw ih =>
    obtain ⟨token, ht⟩ := getElem?_isSome (show w.token < tokens.size by omega)
    obtain ⟨seg, hs⟩ := getElem?_isSome (show w.seg < segs.size by omega)
    simp only [ht, hs, Option.bind_eq_bind, Option.bind_some]
    by_cases he : token = span
    · subst he
      exact Or.inr ⟨w, if_pos rfl, h, hrefl _ _, Or.inr (Or.inr ht)⟩
    · rw [between_cons hw.1 ht, between_cons hw.2 hs]
      by_cases hm : matchesSegment token seg = true
      · simp only [he, hm, if_true, if_false]
        rcases ih ⟨h.tokenEnd_le, h.segEnd_le⟩ h.tokenEnd_le h.segEnd_le with
          ⟨hp, hc⟩ | ⟨left, hp, hi, hr, hend⟩
        · exact Or.inl ⟨hp, hc.cons he hm⟩
        · exact Or.inr ⟨left, hp, hi, hr.cons he hm, hend⟩
      · rw [Bool.not_eq_true] at hm
        exact Or.inl ⟨by simp [he, hm], [], token, _, [], seg, _, rfl, rfl, by simp, he, .nil, hm⟩
  | case2 w hw => exact Or.inr ⟨w, rfl, h, hrefl _ _, by omega⟩

end

end ApiLint.Glob
