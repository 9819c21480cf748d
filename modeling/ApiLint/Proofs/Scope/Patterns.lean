import ApiLint.Proofs.Text.Pieces
import ApiLint.Scope.Inclusion
import Mathlib.Data.List.TakeWhile

/-! The inclusion patterns of a text are the texts that stand on a line of their own between blanks, and
with a line feed between neighbours they are read again as they are. -/

namespace ApiLint

namespace Text

section

variable {p : Char → Bool} {cs : List Char} {c : Char}

theorem trimBy_eq_self (hhead : ∀ c ∈ cs.head?, p c = false) (hlast : ∀ c ∈ cs.getLast?, p c = false) :
    trimBy p cs = cs := by
  have hkeep : ∀ ds : List Char, (∀ c ∈ ds.head?, p c = false) → ds.dropWhile p = ds := by
    intro ds hds
    cases ds with
    | nil => rfl
    | cons d ds => exact List.dropWhile_cons_of_neg (by simp [hds d rfl])
  have hback : cs.reverse.dropWhile p = cs.reverse := hkeep cs.reverse (by simpa using hlast)
  rw [trimBy, hkeep cs hhead, hback, List.reverse_reverse]

theorem trimBy_prefix_dropWhile (p : Char → Bool) (cs : List Char) : trimBy p cs <+: cs.dropWhile p := by
  rw [trimBy, ← List.reverse_suffix, List.reverse_reverse]
  exact List.dropWhile_suffix p

theorem mem_of_mem_trimBy (h : c ∈ trimBy p cs) : c ∈ cs :=
  (List.dropWhile_suffix p).subset ((trimBy_prefix_dropWhile p cs).subset h)

theorem head?_trimBy (h : c ∈ (trimBy p cs).head?) : p c = false := by
  have hnot := List.head?_dropWhile_not p cs
  obtain ⟨rest, hrest⟩ := trimBy_prefix_dropWhile p cs
  obtain ⟨tail, htail⟩ := List.head?_eq_some_iff.mp h
  rw [← hrest, htail] at hnot
  exact hnot

theorem getLast?_trimBy (h : c ∈ (trimBy p cs).getLast?) : p c = false := by
  have hnot := List.head?_dropWhile_not p (cs.dropWhile p).reverse
  rw [trimBy, List.getLast?_reverse] at h
  rw [Option.mem_def.mp h] at hnot
  exact hnot

end

theorem not_isLineEnd_of_mem_splitLines (cs : List Char) :
    ∀ line ∈ splitLines cs, ∀ c ∈ line, isLineEnd c = false := by
  fun_induction splitLines cs with
  | case1 => exact nofun
  | case2 rest ih => exact List.forall_mem_cons.mpr ⟨nofun, ih⟩
  | case3 c rest _ _ ih => exact List.forall_mem_cons.mpr ⟨nofun, ih⟩
  | case4 c rest _ hc => simpa using hc
  | case5 c rest _ hc line lines hlines ih =>
    rw [hlines] at ih
    obtain ⟨hline, hrest⟩ := List.forall_mem_cons.mp ih
    have hfirst : isLineEnd c = false := by simpa using hc
    exact List.forall_mem_cons.mpr ⟨List.forall_mem_cons.mpr ⟨hfirst, hline⟩, hrest⟩

theorem splitLines_line_append {line : List Char} (h : ∀ c ∈ line, isLineEnd c = false) (rest : List Char) :
    splitLines (line ++ '\n' :: rest) = line :: splitLines rest := by
  induction line with
  | nil => rfl
  | cons c line ih =>
    obtain ⟨hc, hline⟩ := List.forall_mem_cons.mp h
    have hreturn : c ≠ '\r' := by
      rintro rfl
      cases hc
    rw [List.cons_append, splitLines.eq_3 _ _ (fun _ hr _ => hreturn hr), ih hline]
    simp [hc]

end Text

namespace Scope

/-- A text within one line, with no blank at its ends. -/
structure IsPattern (cs : List Char) : Prop where
  ne_nil : cs ≠ []
  head : ∀ c ∈ cs.head?, Text.isBlank c = false
  last : ∀ c ∈ cs.getLast?, Text.isBlank c = false
  line : ∀ c ∈ cs, Text.isLineEnd c = false

theorem isPattern_of_mem {text pattern : List Char} (h : pattern ∈ patterns text) : IsPattern pattern := by
  obtain ⟨hmem, hkept⟩ := List.mem_filter.mp h
  obtain ⟨line, hline, rfl⟩ := List.mem_map.mp hmem
  refine ⟨by simpa using hkept, fun c => Text.head?_trimBy, fun c => Text.getLast?_trimBy, fun c hc => ?_⟩
  exact Text.not_isLineEnd_of_mem_splitLines text line hline c (Text.mem_of_mem_trimBy hc)

namespace IsPattern

variable {pattern : List Char}

theorem trim_eq (h : IsPattern pattern) : Text.trim pattern = pattern :=
  Text.trimBy_eq_self h.head h.last

theorem patterns_eq (h : IsPattern pattern) : patterns pattern = [pattern] := by
  simp [patterns, Text.splitLines_of_one h.ne_nil h.line, h.trim_eq, h.ne_nil]

theorem patterns_append (h : IsPattern pattern) (rest : List Char) :
    patterns (pattern ++ '\n' :: rest) = pattern :: patterns rest := by
  simp [patterns, Text.splitLines_line_append h.line, h.trim_eq, h.ne_nil]

end IsPattern

/-- Texts that are patterns are read again from one text in which each stands on a line. -/
theorem patterns_joinWith {items : List (List Char)} (h : ∀ item ∈ items, IsPattern item) :
    patterns (Text.joinWith ['\n'] items) = items := by
  fun_induction Text.joinWith ['\n'] items with
  | case1 => rfl
  | case2 item => exact (h item List.mem_cons_self).patterns_eq
  | case3 item items hne ih =>
    obtain ⟨hitem, hitems⟩ := List.forall_mem_cons.mp h
    rw [List.append_assoc, List.singleton_append, hitem.patterns_append, ih hitems]

theorem patterns_joinWith_iff {items : List (List Char)} :
    patterns (Text.joinWith ['\n'] items) = items ↔ ∀ item ∈ items, IsPattern item := by
  constructor
  · intro h item hitem
    rw [← h] at hitem
    exact isPattern_of_mem hitem
  · exact patterns_joinWith

end Scope

end ApiLint
