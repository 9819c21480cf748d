import ApiLint.Glob.Pattern
import ApiLint.Proofs.Text.Pieces
import Mathlib.Data.List.Induction

/-! The segments of a text that is put together, and how it begins and ends. -/

namespace ApiLint.Glob

variable {sep sep' : Char} {front back value : List Char}

theorem segments_append (sep : Char) (front back : List Char) :
    segments sep (front ++ sep :: back) = segments sep front ++ segments sep back := by
  rw [segments, Text.splitAt_append, List.filter_append, segments, segments]

theorem segments_cons_sep (sep : Char) (value : List Char) :
    segments sep (sep :: value) = segments sep value :=
  segments_append sep [] value

theorem segments_concat_sep (sep : Char) (value : List Char) :
    segments sep (value ++ [sep]) = segments sep value := by
  rw [segments_append]
  exact List.append_nil _

theorem segments_joinWith (sep : Char) (pieces : List (List Char)) :
    segments sep (Text.joinWith [sep] pieces) = pieces.flatMap (segments sep) := by
  fun_induction Text.joinWith [sep] pieces with
  | case1 => rfl
  | case2 piece => simp
  | case3 piece pieces hne ih =>
    rw [List.append_assoc, List.singleton_append, segments_append, ih, List.flatMap_cons]

theorem segments_map {f : Char → Char} (h : ∀ c ∈ value, f c = sep' ↔ c = sep) :
    segments sep' (value.map f) = (segments sep value).map (List.map f) := by
  rw [segments, Text.splitAt_map h, segments, List.filter_map]
  congr 2
  funext piece
  simp

theorem opened_map {f : Char → Char} (h : ∀ c ∈ value, f c = sep' ↔ c = sep) :
    opened sep' (value.map f) = opened sep value := by
  cases value with
  | nil => rfl
  | cons c value => simp [opened, h c List.mem_cons_self]

theorem closed_map {f : Char → Char} (h : ∀ c ∈ value, f c = sep' ↔ c = sep) :
    closed sep' (value.map f) = closed sep value := by
  cases hlast : value.getLast? with
  | none => simp [closed, hlast]
  | some c => simp [closed, hlast, h c (List.mem_of_getLast? hlast)]

theorem flatten_segments (sep : Char) (value : List Char) :
    (segments sep value).flatten = value.filter fun c => decide (c ≠ sep) := by
  rw [segments, List.flatten_filter_not_isEmpty, Text.flatten_splitAt]

theorem exists_mem_segments_iff {c : Char} :
    (∃ token ∈ segments sep value, c ∈ token) ↔ c ∈ value ∧ c ≠ sep := by
  rw [← List.mem_flatten, flatten_segments, List.mem_filter, decide_eq_true_iff]

theorem segments_ne_nil {c : Char} (hc : c ∈ value) (hne : c ≠ sep) : segments sep value ≠ [] := by
  obtain ⟨token, ht, -⟩ := exists_mem_segments_iff.mpr ⟨hc, hne⟩
  exact List.ne_nil_of_mem ht

theorem opened_append (h : front ≠ []) : opened sep (front ++ back) = opened sep front := by
  rw [opened, opened, List.head?_append_of_ne_nil _ h]

theorem closed_append (h : back ≠ []) : closed sep (front ++ back) = closed sep back := by
  rw [closed, closed, List.getLast?_append_of_ne_nil _ h]

theorem closed_cons {c : Char} (h : value ≠ []) : closed sep (c :: value) = closed sep value := by
  rw [← List.singleton_append, closed_append h]

theorem closed_iff : closed sep value = true ↔ ∃ body, value = body ++ [sep] := by
  rw [closed, decide_eq_true_iff, List.getLast?_eq_some_iff]

theorem segments_append_of_closed (h : closed sep front = true) :
    segments sep (front ++ back) = segments sep front ++ segments sep back := by
  obtain ⟨body, rfl⟩ := closed_iff.mp h
  rw [List.append_assoc, List.singleton_append, segments_append, segments_concat_sep]

/-- Separators at the end of a text have no part in its segments. -/
theorem exists_not_closed (sep : Char) (value : List Char) :
    ∃ body, closed sep body = false ∧ segments sep body = segments sep value ∧
      (segments sep value ≠ [] → opened sep body = opened sep value) := by
  induction value using List.reverseRecOn with
  | nil => exact ⟨[], rfl, rfl, fun _ => rfl⟩
  | append_singleton value c ih =>
    by_cases hc : c = sep
    · subst hc
      obtain ⟨body, hclosed, hsegs, hopened⟩ := ih
      rw [segments_concat_sep]
      refine ⟨body, hclosed, hsegs, fun hne => ?_⟩
      have hvalue : value ≠ [] := by
        rintro rfl
        exact hne rfl
      rw [hopened hne, opened_append hvalue]
    · refine ⟨value ++ [c], ?_, rfl, fun _ => rfl⟩
      simp [closed, hc]

end ApiLint.Glob
