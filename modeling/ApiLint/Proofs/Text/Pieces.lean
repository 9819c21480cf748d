import ApiLint.Text.Lines
import Mathlib.Data.List.Basic

/-! Texts cut at a separator. The pieces of two texts with a separator between them are those of the one
and of the other, and no character but the separator is lost. A text that ends no line is one line, and
only carriage returns change when terminators become line feeds. -/

namespace ApiLint.Text

theorem map_joinWith {α β : Type} (f : α → β) (sep : List α) (pieces : List (List α)) :
    (joinWith sep pieces).map f = joinWith (sep.map f) (pieces.map (List.map f)) := by
  fun_induction joinWith sep pieces with
  | case1 => rfl
  | case2 piece => rfl
  | case3 piece pieces hne ih =>
    have hmapped : pieces.map (List.map f) ≠ [] := fun h => hne (List.map_eq_nil_iff.mp h)
    rw [List.map_append, List.map_append, ih, List.map_cons, joinWith.eq_3 _ _ _ hmapped]

variable {α : Type} [DecidableEq α]

theorem splitAt_cons (sep x : α) (xs : List α) :
    splitAt sep (x :: xs) =
      if x = sep then [] :: splitAt sep xs else (splitAt sep xs).modifyHead (x :: ·) := by
  rw [splitAt]
  cases hs : splitAt sep xs with
  | nil => exact absurd hs (splitAt_ne_nil sep xs)
  | cons piece pieces => rfl

theorem splitAt_eq_splitOn (sep : α) (xs : List α) : splitAt sep xs = xs.splitOn sep := by
  induction xs with
  | nil => rfl
  | cons x xs ih => simp [splitAt_cons, List.splitOn_cons_eq_if_modifyHead, ih]

theorem splitAt_of_not_mem {sep : α} {xs : List α} (h : sep ∉ xs) : splitAt sep xs = [xs] := by
  induction xs with
  | nil => rfl
  | cons x xs ih =>
    simp only [List.mem_cons, not_or] at h
    rw [splitAt, if_neg (Ne.symm h.1), ih h.2]

theorem splitAt_append (sep : α) (front back : List α) :
    splitAt sep (front ++ sep :: back) = splitAt sep front ++ splitAt sep back := by
  simp only [splitAt_eq_splitOn, List.splitOn_append_cons_self]

theorem splitAt_map {β : Type} [DecidableEq β] {f : α → β} {sep : α} {sep' : β} {xs : List α}
    (h : ∀ x ∈ xs, f x = sep' ↔ x = sep) :
    splitAt sep' (xs.map f) = (splitAt sep xs).map (List.map f) := by
  induction xs with
  | nil => rfl
  | cons x xs ih =>
    obtain ⟨hx, hxs⟩ := List.forall_mem_cons.mp h
    rw [List.map_cons, splitAt_cons, splitAt_cons, ih hxs]
    by_cases he : x = sep
    · rw [if_pos he, if_pos (hx.mpr he)]
      rfl
    · cases hs : splitAt sep xs with
      | nil => exact absurd hs (splitAt_ne_nil sep xs)
      | cons piece pieces => simp [he, hx]

theorem flatten_splitAt (sep : α) (xs : List α) :
    (splitAt sep xs).flatten = xs.filter fun x => decide (x ≠ sep) := by
  induction xs with
  | nil => rfl
  | cons x xs ih =>
    rw [splitAt_cons]
    by_cases hx : x = sep
    · simp [hx, ih]
    · cases hs : splitAt sep xs with
      | nil => exact absurd hs (splitAt_ne_nil sep xs)
      | cons piece pieces =>
        rw [hs] at ih
        simpa [hx] using ih

theorem splitLines_of_one {line : List Char} (hne : line ≠ [])
    (h : ∀ c ∈ line, isLineEnd c = false) : splitLines line = [line] := by
  induction line with
  | nil => exact absurd rfl hne
  | cons c line ih =>
    obtain ⟨hc, hline⟩ := List.forall_mem_cons.mp h
    have hreturn : c ≠ '\r' := by
      rintro rfl
      cases hc
    cases line with
    | nil => simp [splitLines, hc]
    | cons d line => simp [splitLines, hc, hreturn, ih (List.cons_ne_nil _ _) hline]

theorem unifyNewlines_eq_self {cs : List Char} (h : '\r' ∉ cs) : unifyNewlines cs = cs := by
  fun_induction unifyNewlines cs with
  | case1 => rfl
  | case2 => exact absurd List.mem_cons_self h
  | case3 c rest _ ih =>
    simp only [List.mem_cons, not_or] at h
    rw [if_neg (Ne.symm h.1), ih h.2]

theorem not_mem_unifyNewlines (cs : List Char) : '\r' ∉ unifyNewlines cs := by
  fun_induction unifyNewlines cs with
  | case1 => exact List.not_mem_nil
  | case2 rest ih => simpa using ih
  | case3 c rest _ ih =>
    rw [List.mem_cons, not_or]
    refine ⟨?_, ih⟩
    split
    · decide
    · rename_i hc
      exact Ne.symm hc

theorem unifyNewlines_eq_self_iff {cs : List Char} : unifyNewlines cs = cs ↔ '\r' ∉ cs := by
  constructor
  · intro h
    rw [← h]
    exact not_mem_unifyNewlines cs
  · exact unifyNewlines_eq_self

end ApiLint.Text
