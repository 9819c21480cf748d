import ApiLint.Console.Line
import ApiLint.Proofs.Text.Pieces
import ApiLint.Text.Lines
import ApiLint.Text.Printable

/-! Texts of printable characters. Such a text is one line without tabs and joiners, and a space is its
only blank. It takes no fewer cells than its parts do together, and no fewer than what is left of it when
characters go. -/

namespace ApiLint.Text

def Legible (cs : List Char) : Prop :=
  ∀ c ∈ cs, isPrintable c = true

instance (cs : List Char) : Decidable (Legible cs) :=
  decidable_of_iff (cs.all isPrintable = true) List.all_eq_true

section

variable {c : Char} {cs ds : List Char}

theorem isPrintable_eq_false {low high : Nat} (h : (low, high) ∈ unprintableRanges) (hlow : low ≤ c.toNat)
    (hhigh : c.toNat ≤ high) : isPrintable c = false := by
  have hpast : ∀ r ∈ unprintableRanges, 0x7f ≤ r.1 := by decide +kernel
  have hc : ¬ c.toNat < 0x7f := Nat.not_lt.mpr (Nat.le_trans (hpast _ h) hlow)
  have hany : (unprintableRanges.any fun r => r.1 ≤ c.toNat && c.toNat ≤ r.2) = true :=
    List.any_eq_true.mpr ⟨_, h, by simp [hlow, hhigh]⟩
  rw [isPrintable, if_neg hc, hany, Bool.not_true, Bool.and_false]

theorem isPrintable_of_isDigit (h : c.isDigit = true) : isPrintable c = true := by
  simp only [Char.isDigit, Bool.and_eq_true, decide_eq_true_eq, ge_iff_le, UInt32.le_iff_toNat_le] at h
  obtain ⟨hlow, hhigh⟩ := h
  have hlow : 48 ≤ c.toNat := hlow
  have hhigh : c.toNat ≤ 57 := hhigh
  rw [isPrintable, if_pos (by omega), decide_eq_true_eq]
  omega

theorem not_control_of_isPrintable (h : isPrintable c = true) : 0x20 ≤ c.toNat := by
  rw [isPrintable] at h
  split at h
  · exact of_decide_eq_true h
  · omega

theorem eq_space_of_isPrintable (hprintable : isPrintable c = true) (hblank : isBlank c = true) : c = ' ' := by
  let ranges := [(0x80, 0xA0), (0x1680, 0x1680), (0x1FFF, 0x200F), (0x2028, 0x202F), (0x205F, 0x206F),
    (0x2FFC, 0x3000)]
  have hmem : ∀ r ∈ ranges, r ∈ unprintableRanges := by decide +kernel
  have hranges : ∀ r ∈ ranges, ¬ (r.1 ≤ c.toNat ∧ c.toNat ≤ r.2) := by
    rintro ⟨low, high⟩ hr ⟨hlow, hhigh⟩
    rw [isPrintable_eq_false (hmem _ hr) hlow hhigh] at hprintable
    cases hprintable
  have hcontrol := not_control_of_isPrintable hprintable
  -- All blanks but the space are controls or lie in one of the ranges.
  simp only [isBlank, isWhite, Bool.or_eq_true, Bool.and_eq_true, decide_eq_true_eq, Char.le_def,
    UInt32.le_iff_toNat_le, ← Char.toNat_inj, Char.toNat] at hblank hcontrol hranges ⊢
  simp [ranges] at hblank hcontrol hranges ⊢
  omega

theorem not_isBlank_of_isDigit (h : c.isDigit = true) : isBlank c = false := by
  cases hblank : isBlank c with
  | false => rfl
  | true =>
    obtain rfl := eq_space_of_isPrintable (isPrintable_of_isDigit h) hblank
    cases h

theorem Legible.not_mem (h : Legible cs) (hc : isPrintable c = false) : c ∉ cs := by
  intro hmem
  rw [h c hmem] at hc
  cases hc

theorem Legible.of_subset (h : Legible ds) (hsub : cs ⊆ ds) : Legible cs :=
  fun c hc => h c (hsub hc)

theorem Legible.joiner_not_mem (h : Legible cs) : joiner ∉ cs :=
  h.not_mem (by decide +kernel)

theorem isBlank_of_isLineEnd (h : isLineEnd c = true) : isBlank c = true := by
  simp only [isLineEnd, isBlank, isWhite, Bool.or_eq_true, Bool.and_eq_true, decide_eq_true_eq, Char.le_def,
    UInt32.le_iff_toNat_le, ← Char.toNat_inj, Char.toNat] at h ⊢
  simp at h ⊢
  omega

theorem Legible.splitLines (h : Legible cs) (hne : cs ≠ []) : splitLines cs = [cs] := by
  refine splitLines_of_one hne fun c hc => ?_
  cases hend : isLineEnd c with
  | false => rfl
  | true =>
    rw [eq_space_of_isPrintable (h c hc) (isBlank_of_isLineEnd hend)] at hend
    cases hend

theorem Legible.printed (h : Legible cs) : Console.printed cs = cs := by
  refine List.filter_eq_self.mpr fun c hc => ?_
  by_contra hdropped
  have hcontrol := not_control_of_isPrintable (h c hc)
  simp only [Console.isDropped, Bool.not_eq_true, Bool.not_eq_false', Bool.or_eq_true, decide_eq_true_eq] at hdropped
  rcases hdropped with (((rfl | rfl) | rfl) | rfl) | rfl <;> exact absurd hcontrol (by decide)

theorem Legible.expandTabs (h : Legible cs) : Console.expandTabs cs = cs := by
  have htab : '\t' ∉ cs := h.not_mem (by decide)
  rw [Console.expandTabs, Console.tabParts, splitAt_of_not_mem htab, Console.filledParts]
  cases cs <;> simp

/-- A text of printable characters is printed as it is, on one line. -/
theorem Legible.lines (h : Legible cs) : Console.lines cs = [cs] := by
  have hfeed : '\n' ∉ cs := h.not_mem (by decide)
  rw [Console.lines, h.printed, splitAt_of_not_mem hfeed, List.map_singleton, h.expandTabs]

end

section Width

variable {c : Char} {cs ds : List Char}

def gain (base : Option Char) : Nat :=
  if base.any widensAsEmoji then 1 else 0

theorem gain_le_one (base : Option Char) : gain base ≤ 1 := by
  unfold gain
  split <;> omega

theorem widthFrom_cons (hc : c ≠ joiner) (base : Option Char) (cs : List Char) :
    widthFrom base (c :: cs) =
      if c = emojiSelector then gain base + widthFrom none cs
      else if charWidth c = 0 then widthFrom base cs
      else charWidth c + widthFrom (some c) cs := by
  rw [widthFrom.eq_def]
  simp only [hc, if_false, gain]
  split_ifs <;> omega

/-- Without joiners, fewer characters take no more cells, but that an emoji selector may come to stand
behind another character. -/
theorem widthFrom_le_of_sublist (h : cs.Sublist ds) (hj : joiner ∉ ds) (base base' : Option Char) :
    widthFrom base cs ≤ widthFrom base' ds + (gain base - gain base') := by
  -- A character that goes takes at least the cell with it that a selector behind it may gain.
  induction h generalizing base base' with
  | slnil => exact Nat.zero_le _
  | cons d hsub ih =>
    obtain ⟨hd, hj⟩ := List.ne_and_not_mem_of_not_mem_cons hj
    rw [widthFrom_cons hd.symm]
    have hgain := gain_le_one base
    have hnone : gain none = 0 := rfl
    split_ifs with hselector hzero
    · have := ih hj base none
      omega
    · exact ih hj base base'
    · have := ih hj base (some d)
      omega
  | cons_cons d hsub ih =>
    obtain ⟨hd, hj⟩ := List.ne_and_not_mem_of_not_mem_cons hj
    rw [widthFrom_cons hd.symm, widthFrom_cons hd.symm]
    split_ifs with hselector hzero
    · have := ih hj none none
      omega
    · exact ih hj base base'
    · have := ih hj (some d) (some d)
      omega

theorem width_le_of_sublist (h : cs.Sublist ds) (hj : joiner ∉ ds) : width cs ≤ width ds :=
  widthFrom_le_of_sublist h hj none none

theorem widthFrom_add_le (base : Option Char) (hcs : joiner ∉ cs) (hds : joiner ∉ ds) :
    widthFrom base cs + width ds ≤ widthFrom base (cs ++ ds) := by
  induction cs generalizing base with
  | nil =>
    have hle := widthFrom_le_of_sublist (List.Sublist.refl ds) hds none base
    have hnone : gain none = 0 := rfl
    rw [List.nil_append, width]
    simp only [widthFrom]
    omega
  | cons c cs ih =>
    obtain ⟨hc, hcs⟩ := List.ne_and_not_mem_of_not_mem_cons hcs
    rw [List.cons_append, widthFrom_cons hc.symm, widthFrom_cons hc.symm]
    split_ifs
    · have := ih none hcs
      omega
    · exact ih base hcs
    · have := ih (some c) hcs
      omega

theorem width_add_le (hcs : joiner ∉ cs) (hds : joiner ∉ ds) : width cs + width ds ≤ width (cs ++ ds) :=
  widthFrom_add_le none hcs hds

theorem widthFrom_spaces (base : Option Char) (n : Nat) : widthFrom base (List.replicate n ' ') = n := by
  induction n generalizing base with
  | zero => rfl
  | succ n ih =>
    have hspace : charWidth ' ' = 1 := by decide
    rw [List.replicate_succ, widthFrom_cons (by decide), if_neg (by decide), hspace, if_neg Nat.one_ne_zero, ih]
    omega

theorem widthFrom_append_spaces (base : Option Char) (hcs : joiner ∉ cs) (n : Nat) :
    widthFrom base (cs ++ List.replicate n ' ') = widthFrom base cs + n := by
  induction cs generalizing base with
  | nil => rw [List.nil_append, widthFrom_spaces, widthFrom, Nat.zero_add]
  | cons c cs ih =>
    obtain ⟨hc, hcs⟩ := List.ne_and_not_mem_of_not_mem_cons hcs
    rw [List.cons_append, widthFrom_cons hc.symm, widthFrom_cons hc.symm, ih _ hcs, ih _ hcs, ih _ hcs]
    split_ifs <;> omega

theorem width_append_spaces (hcs : joiner ∉ cs) (n : Nat) :
    width (cs ++ List.replicate n ' ') = width cs + n :=
  widthFrom_append_spaces none hcs n

end Width

end ApiLint.Text
