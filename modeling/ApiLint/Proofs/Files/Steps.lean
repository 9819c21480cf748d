import ApiLint.Files.Tree
import Mathlib.Data.List.Flatten
import Mathlib.Tactic.SplitIfs

/-! Steps through directories. What a resolved path keeps are steps of the path, none of which leads back, so
it is the path itself when that has no such step, and shorter otherwise. In a tree without links no name is
lost in a loop. -/

namespace ApiLint

namespace Path

def back : List Char := ['.', '.']

theorem stepBack_cons (walked : List (List Char)) (part : List Char) (parts : List (List Char)) :
    stepBack walked (part :: parts) =
      if part = back then stepBack walked.tail parts else stepBack (part :: walked) parts :=
  rfl

theorem stepBack_of_not_mem {walked parts : List (List Char)} (h : back ∉ parts) :
    stepBack walked parts = walked.reverse ++ parts := by
  induction parts generalizing walked with
  | nil => simp [stepBack]
  | cons part parts ih =>
    obtain ⟨hne, h⟩ := List.ne_and_not_mem_of_not_mem_cons h
    rw [stepBack_cons, if_neg (Ne.symm hne), ih h]
    simp

theorem stepBack_sublist (walked parts : List (List Char)) :
    (stepBack walked parts).Sublist (walked.reverse ++ parts.filter fun part => decide (part ≠ back)) := by
  induction parts generalizing walked with
  | nil => simp [stepBack]
  | cons part parts ih =>
    by_cases hpart : part = back
    · have htail : walked.tail.reverse.Sublist walked.reverse := (List.tail_sublist walked).reverse
      rw [stepBack_cons, if_pos hpart, List.filter_cons_of_neg (by simp [hpart])]
      exact (ih walked.tail).trans (htail.append_right _)
    · rw [stepBack_cons, if_neg hpart, List.filter_cons_of_pos (by simp [hpart])]
      simpa using ih (part :: walked)

variable {p : Path}

theorem resolve_absolute (directory : Path) (h : p.isAbsolute = true) :
    resolve directory p = ⟨.root, stepBack [] p.parts⟩ := by
  rw [resolve, join, if_pos h]

theorem isAbsolute_resolve (directory p : Path) : (resolve directory p).isAbsolute = true :=
  rfl

theorem chars_absolute (h : p.isAbsolute = true) :
    p.chars = p.anchor.written ++ Text.joinWith ['/'] p.parts := by
  have hne : (p.anchor.written ++ Text.joinWith ['/'] p.parts).isEmpty = false := by
    cases hanchor : p.anchor with
    | relative => simp [isAbsolute, hanchor] at h
    | root => rfl
    | doubleRoot => rfl
  rw [chars, hne]
  rfl

end Path

namespace Tree

variable {t : Tree}

theorem at?_ne_loop (h : ∀ n ∈ t.nodes, n.2 ≠ .loop) (steps : List (List Char)) :
    t.at? steps ≠ some .loop := by
  unfold at?
  cases hfind : t.nodes.find? fun n => n.1 = steps with
  | some n =>
    intro hloop
    exact h n (List.mem_of_find?_eq_some hfind) (Option.some.inj hloop)
  | none =>
    simp only
    split <;> simp

theorem follow_ne_loop (h : ∀ n ∈ t.nodes, n.2 ≠ .loop) (walked parts : List (List Char)) :
    t.follow walked parts ≠ .error .loop := by
  induction parts generalizing walked with
  | nil => simp [follow]
  | cons part parts ih =>
    have hhere := at?_ne_loop h walked.reverse
    rw [follow]
    split
    · split_ifs
      · exact ih walked
      · exact ih walked.tail
      · simp
      · exact ih (part :: walked)
    · split_ifs
      · exact ih walked
      · simp
    · contradiction
    · simp
    · simp

/-- Only a link can lead round in a loop. -/
theorem locate_ne_loop (h : ∀ n ∈ t.nodes, n.2 ≠ .loop) (directory : Path) (name : List Char) :
    t.locate directory name ≠ .error .loop := by
  have hhere := at?_ne_loop h
  have hfollow := follow_ne_loop h
  simp only [locate]
  split_ifs
  · simp
  · simp
  all_goals
    cases hsteps : t.follow _ (Text.splitAt '/' name) with
    | error obstacle =>
      rintro ⟨⟩
      exact hfollow _ _ hsteps
    | ok steps =>
      simp only
      split
      · exact absurd ‹_› (hhere _)
      · simp
      · simp

end Tree

end ApiLint
