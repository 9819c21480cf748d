import ApiLint.Settings.Root
import Mathlib.Data.List.Basic
import Mathlib.Data.List.TakeWhile

/-! What the system can be told by name. A name has bytes when each of its code points has, and a way has
them when every step of it has, also one that is left again. -/

namespace ApiLint

theorem Text.isSome_nameFault?_iff {t : Text} :
    (Text.nameFault? t).isSome ↔ ∃ x ∈ t, Text.isInName x = false := by
  unfold Text.nameFault?
  constructor
  · intro h
    split at h
    · cases h
    · rename_i x rest hrest
      have hx : x ∈ t.dropWhile Text.isInName := by
        rw [hrest]
        exact List.mem_cons_self
      have hnot := List.head?_dropWhile_not Text.isInName t
      rw [hrest] at hnot
      exact ⟨x, (List.dropWhile_sublist _).mem hx, by simpa using hnot⟩
  · rintro ⟨x, hx, hnot⟩
    split
    · rename_i hnil
      have hall := List.dropWhile_eq_nil_iff.mp hnil x hx
      rw [hnot] at hall
      cases hall
    · rfl

namespace Path

/-- The system has no name with this code point. -/
def IsUnnameable (x : CodePoint) : Prop :=
  x = .scalar '\x00' ∨ Text.isInName x = false

theorem mem_nameOf {walked : List Text} {x : CodePoint} (hx : x ≠ .scalar '/') :
    x ∈ nameOf walked ↔ ∃ step ∈ walked, x ∈ step := by
  simp [nameOf, hx]

theorem not_isUnnameable_of_mem_up {x : CodePoint} (h : x ∈ Text.ofString "..") : ¬ IsUnnameable x := by
  obtain rfl : x = .scalar '.' := by simpa [Text.ofString, Text.ofChars] using h
  rintro (hnull | hname)
  · exact absurd hnull (by decide)
  · cases hname

/-- Behind steps that can be named, a name has no bytes just when its last step has none. -/
theorem isSome_nameFault?_nameOf_iff {walked : List Text} (step : Text)
    (hwalked : ∀ s ∈ walked, ∀ x ∈ s, ¬ IsUnnameable x) :
    (Text.nameFault? (nameOf (step :: walked))).isSome ↔ ∃ x ∈ step, Text.isInName x = false := by
  rw [Text.isSome_nameFault?_iff]
  have hslash : ∀ x, Text.isInName x = false → x ≠ .scalar '/' := by
    rintro x hx rfl
    cases hx
  constructor
  · rintro ⟨x, hx, hnot⟩
    obtain ⟨s, hs, hmem⟩ := (mem_nameOf (hslash x hnot)).mp hx
    rcases List.mem_cons.mp hs with rfl | hs
    · exact ⟨x, hmem, hnot⟩
    · exact absurd (Or.inr hnot) (hwalked s hs x hmem)
  · rintro ⟨x, hx, hnot⟩
    exact ⟨x, (mem_nameOf (hslash x hnot)).mpr ⟨step, List.mem_cons_self, hx⟩, hnot⟩

/-- A way has a fault when a step of it cannot be named, even if `..` follows. -/
theorem isSome_namingFault?_iff {walked steps : List Text}
    (hwalked : ∀ step ∈ walked, ∀ x ∈ step, ¬ IsUnnameable x) :
    (namingFault? walked steps).isSome ↔ ∃ step ∈ steps, ∃ x ∈ step, IsUnnameable x := by
  induction steps generalizing walked with
  | nil => simp [namingFault?]
  | cons step more ih =>
    simp only [List.exists_mem_cons_iff]
    rw [namingFault?]
    split
    · rename_i hup
      have hstep : ¬ ∃ x ∈ step, IsUnnameable x :=
        fun ⟨_, hx, hun⟩ => not_isUnnameable_of_mem_up (hup ▸ hx) hun
      rw [ih fun s hs => hwalked s (List.mem_of_mem_tail hs), or_iff_right hstep]
    · have hname := isSome_nameFault?_nameOf_iff step hwalked
      cases hfault : Text.nameFault? (nameOf (step :: walked)) with
      | some fault =>
        rw [hfault] at hname
        obtain ⟨x, hx, hnot⟩ := hname.mp rfl
        exact iff_of_true rfl (Or.inl ⟨x, hx, Or.inr hnot⟩)
      | none =>
        have hclean : ¬ ∃ x ∈ step, Text.isInName x = false := by
          rw [← hname, hfault]
          exact Bool.false_ne_true
        simp only
        split
        · rename_i hnull
          exact iff_of_true rfl (Or.inl ⟨_, hnull, Or.inl rfl⟩)
        · rename_i hnull
          have hstep : ∀ x ∈ step, ¬ IsUnnameable x := by
            rintro x hx (rfl | hnot)
            · exact hnull hx
            · exact hclean ⟨x, hx, hnot⟩
          rw [ih (List.forall_mem_cons.mpr ⟨hstep, hwalked⟩), or_iff_right]
          rintro ⟨x, hx, hun⟩
          exact hstep x hx hun

end Path

end ApiLint
