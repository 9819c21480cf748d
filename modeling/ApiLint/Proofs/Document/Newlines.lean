import ApiLint.Proofs.Document.Offsets
import ApiLint.Proofs.Faults
import ApiLint.Proofs.Projection.Batch
import ApiLint.Proofs.Text.Pieces
import Mathlib.Data.Nat.Count

/-! A text in which one line feed ends every line has the lines of the text that it was made from. What
lies on a line stays where it is there; its offset falls short by one for each terminator of two
characters on the way. -/

namespace ApiLint

instance (cs : List Char) : DecidablePred (SplitsBreak cs) := fun n =>
  decidable_of_iff (0 < n ∧ cs[n - 1]? = some '\r' ∧ cs[n]? = some '\n') <| by
    constructor
    · rintro ⟨hpos, hcr, hlf⟩
      exact ⟨n - 1, by omega, hcr, hlf⟩
    · rintro ⟨m, rfl, hcr, hlf⟩
      exact ⟨by omega, hcr, hlf⟩

/-- What becomes of an offset when every terminator becomes one line feed. -/
def unifiedOffset (cs : List Char) (n : Int) : Int :=
  n - Nat.count (SplitsBreak cs) n.toNat

def Line.unified (cs : List Char) (line : Line) : Line :=
  ⟨unifiedOffset cs line.start, unifiedOffset cs line.stop⟩

def LineIndex.unified (cs : List Char) (index : LineIndex) : LineIndex :=
  ⟨index.first.unified cs, index.rest.map (Line.unified cs)⟩

def Span.unified (cs : List Char) (s : Span) : Span :=
  ⟨unifiedOffset cs s.start, unifiedOffset cs s.stop⟩

def Annotation.unified (cs : List Char) (a : Annotation) : Annotation :=
  { a with span := a.span.unified cs }

def Projection.unified (cs : List Char) (p : Projection) : Projection :=
  { p with annotations := p.annotations.map fun a => a.unified cs }

section

variable {cs : List Char}

theorem unifiedOffset_succ {n : Nat} (h : ¬ SplitsBreak cs n) :
    unifiedOffset cs (n + 1 : Nat) = unifiedOffset cs n + 1 := by
  simp only [unifiedOffset, Int.toNat_natCast, Nat.count_succ, if_neg h]
  omega

theorem unifiedOffset_succ_of_splitsBreak {n : Nat} (h : SplitsBreak cs n) :
    unifiedOffset cs (n + 1 : Nat) = unifiedOffset cs n := by
  simp only [unifiedOffset, Int.toNat_natCast, Nat.count_succ, if_pos h]
  omega

theorem eq_unifiedOffset_succ {offset offset' : Nat} (hoffset : (offset : Int) = unifiedOffset cs offset')
    (hsplit : ¬ SplitsBreak cs offset') :
    ((offset + 1 : Nat) : Int) = unifiedOffset cs (offset' + 1 : Nat) := by
  rw [unifiedOffset_succ hsplit, ← hoffset]
  rfl

theorem not_splitsBreak_succ {n : Nat} {c : Char} (hc : cs[n]? = some c)
    (h : c = '\r' → cs[n + 1]? ≠ some '\n') : ¬ SplitsBreak cs (n + 1) := by
  rintro ⟨m, hm, hcr, hlf⟩
  obtain rfl : m = n := by omega
  rw [hc, Option.some.injEq] at hcr
  exact h hcr hlf

theorem Line.eq_unified {start offset start' offset' : Nat}
    (hstart : (start : Int) = unifiedOffset cs start')
    (hoffset : (offset : Int) = unifiedOffset cs offset') :
    (⟨start, offset⟩ : Line) = Line.unified cs ⟨start', offset'⟩ := by
  rw [Line.unified, hstart, hoffset]

theorem LineIndex.linesFrom_break {c : Char} {rest : List Char}
    (hne : ∀ rest', c = '\r' → rest = '\n' :: rest' → False) (hend : EndsLine c) (start offset : Nat) :
    linesFrom start offset (c :: rest) =
      ⟨⟨start, offset⟩, (linesFrom (offset + 1) (offset + 1) rest).lines⟩ := by
  rw [linesFrom.eq_3 _ _ _ _ hne]
  exact if_pos hend

theorem LineIndex.linesFrom_lineFeed (start offset : Nat) (rest : List Char) :
    linesFrom start offset ('\n' :: rest) =
      ⟨⟨start, offset⟩, (linesFrom (offset + 1) (offset + 1) rest).lines⟩ :=
  linesFrom_break (show ∀ rest', '\n' = '\r' → rest = '\n' :: rest' → False from nofun) (Or.inl rfl)
    start offset

theorem LineIndex.linesFrom_plain {c : Char} (hc : ¬ EndsLine c) (start offset : Nat) (rest : List Char) :
    linesFrom start offset (c :: rest) = linesFrom start (offset + 1) rest := by
  rw [linesFrom]
  · exact if_neg hc
  · rintro _ rfl
    exact absurd (Or.inr rfl) hc

/-- The lines of both texts in step, from an offset on that is inside no terminator. -/
theorem linesFrom_unifyNewlines {start offset start' offset' : Nat} {rest : List Char}
    (hstart : (start : Int) = unifiedOffset cs start')
    (hoffset : (offset : Int) = unifiedOffset cs offset')
    (hsplit : ¬ SplitsBreak cs offset') (hdrop : cs.drop offset' = rest) :
    LineIndex.linesFrom start offset (Text.unifyNewlines rest) =
      (LineIndex.linesFrom start' offset' rest).unified cs := by
  -- the old text sets the pace: a terminator of two characters there is one character in the new text
  induction start', offset', rest using LineIndex.linesFrom.induct generalizing start offset with
  | case1 start' offset' =>
    rw [Text.unifyNewlines, LineIndex.linesFrom, Line.eq_unified hstart hoffset]
    rfl
  | case2 start' offset' rest ih =>
    obtain ⟨hcr, _, hdrop⟩ := LineIndex.of_drop_eq_cons hdrop
    obtain ⟨hlf, _, hdrop⟩ := LineIndex.of_drop_eq_cons hdrop
    have hinside : SplitsBreak cs (offset' + 1) := ⟨offset', rfl, hcr, hlf⟩
    have hnext : ((offset + 1 : Nat) : Int) = unifiedOffset cs (offset' + 2 : Nat) := by
      rw [unifiedOffset_succ_of_splitsBreak hinside]
      exact eq_unifiedOffset_succ hoffset hsplit
    rw [Text.unifyNewlines, LineIndex.linesFrom_lineFeed, Line.eq_unified hstart hoffset,
      ih hnext hnext (not_splitsBreak_succ hlf fun h => absurd h (by decide)) hdrop]
    rfl
  | case3 start' offset' c rest hne hend ih =>
    obtain ⟨hc, _, hdrop⟩ := LineIndex.of_drop_eq_cons hdrop
    have hnext := eq_unifiedOffset_succ hoffset hsplit
    have hsplit' : ¬ SplitsBreak cs (offset' + 1) := by
      refine not_splitsBreak_succ hc fun hcr hlf => ?_
      rw [← List.head?_drop, hdrop, List.head?_eq_some_iff] at hlf
      obtain ⟨rest', hrest⟩ := hlf
      exact hne rest' hcr hrest
    have hfeed : Text.unifyNewlines (c :: rest) = '\n' :: Text.unifyNewlines rest := by
      rw [Text.unifyNewlines.eq_3 c rest hne]
      rcases hend with rfl | rfl <;> rfl
    rw [hfeed, LineIndex.linesFrom_lineFeed, LineIndex.linesFrom_break hne hend,
      Line.eq_unified hstart hoffset, ih hnext hnext hsplit' hdrop]
    rfl
  | case4 start' offset' c rest hne hend ih =>
    obtain ⟨hc, _, hdrop⟩ := LineIndex.of_drop_eq_cons hdrop
    have hnext := eq_unifiedOffset_succ hoffset hsplit
    have hkept : c ≠ '\r' := fun hcr => hend (Or.inr hcr)
    rw [Text.unifyNewlines.eq_3 c rest hne, if_neg hkept, LineIndex.linesFrom_plain hend,
      LineIndex.linesFrom_plain hend]
    exact ih hstart hnext (not_splitsBreak_succ hc fun hcr => absurd hcr hkept) hdrop

theorem ofChars_unifyNewlines (cs : List Char) :
    LineIndex.ofChars (Text.unifyNewlines cs) = (LineIndex.ofChars cs).unified cs :=
  linesFrom_unifyNewlines rfl rfl not_splitsBreak_zero List.drop_zero

theorem LineIndex.lines_unified (cs : List Char) (index : LineIndex) :
    (index.unified cs).lines = index.lines.map (Line.unified cs) :=
  rfl

theorem unifiedOffset_add {start n : Nat} (h : ∀ k, k < n → ¬ SplitsBreak cs (start + k)) :
    unifiedOffset cs (start + n : Nat) = unifiedOffset cs start + n := by
  have hcount : Nat.count (SplitsBreak cs) (start + n) = Nat.count (SplitsBreak cs) start := by
    rw [Nat.count_add, Nat.count_iff_forall_not.mpr h, Nat.add_zero]
  simp only [unifiedOffset, Int.toNat_natCast, hcount]
  omega

/-- On a line nothing moves. -/
theorem unifiedOffset_of_mem_lines {line : Line} (h : line ∈ (LineIndex.ofChars cs).lines) {n : Int}
    (hn : 0 ≤ n) (hle : line.start + n ≤ line.stop) :
    unifiedOffset cs (line.start + n) = unifiedOffset cs line.start + n := by
  have hd : LineIndex.DividesFrom cs (0 : Nat) (LineIndex.ofChars cs) := LineIndex.divides_ofChars cs
  have hbounds := hd.mem_bounds h
  obtain ⟨start, hstart⟩ := Int.eq_ofNat_of_zero_le (show 0 ≤ line.start by omega)
  obtain ⟨k, rfl⟩ := Int.eq_ofNat_of_zero_le hn
  rw [hstart]
  refine unifiedOffset_add fun j hj => ?_
  exact (hd.reaches_iff not_splitsBreak_zero (Nat.zero_le _) (by omega)).mp
    ⟨line, h, by omega, by omega⟩

theorem offset_unifyNewlines (p : Position) :
    p.offset (LineIndex.ofChars (Text.unifyNewlines cs)).lookup =
      (p.offset (LineIndex.ofChars cs).lookup).map (unifiedOffset cs) := by
  have hcount : ((LineIndex.ofChars cs).unified cs).count = (LineIndex.ofChars cs).count := by
    simp [LineIndex.count, LineIndex.lines_unified]
  rw [ofChars_unifyNewlines, LineIndex.offset_lookup, LineIndex.offset_lookup, hcount,
    LineIndex.lines_unified, List.getElem?_map]
  split
  · rfl
  · rename_i hnonneg
    cases hline : (LineIndex.ofChars cs).lines[p.line.toNat]? with
    | none => rfl
    | some line =>
      have hmem := List.mem_of_getElem? hline
      have hordered := (LineIndex.divides_ofChars cs).ordered line hmem
      have hstop := unifiedOffset_of_mem_lines hmem (show 0 ≤ line.stop - line.start by omega) (by omega)
      rw [show line.start + (line.stop - line.start) = line.stop by omega] at hstop
      simp only [Option.map_some, Line.unified, hstop]
      split
      · rw [if_pos (by omega)]
        rfl
      · rw [if_neg (by omega)]
        exact congrArg Except.ok (unifiedOffset_of_mem_lines hmem (by omega) (by omega)).symm

theorem unifiedOffset_le_iff {p q : Position} {m n : Int}
    (hm : p.offset (LineIndex.ofChars cs).lookup = .ok m)
    (hn : q.offset (LineIndex.ofChars cs).lookup = .ok n) :
    unifiedOffset cs m ≤ unifiedOffset cs n ↔ m ≤ n := by
  have hm' := (offset_unifyNewlines p).trans (congrArg (Except.map (unifiedOffset cs)) hm)
  have hn' := (offset_unifyNewlines q).trans (congrArg (Except.map (unifiedOffset cs)) hn)
  rw [offset_le_offset_iff hm' hn', offset_le_offset_iff hm hn]

theorem span_unifyNewlines {r : Range} {s : Span} :
    r.span (LineIndex.ofChars (Text.unifyNewlines cs)).lookup = .ok s ↔
      ∃ t, r.span (LineIndex.ofChars cs).lookup = .ok t ∧ t.unified cs = s := by
  obtain ⟨a, b⟩ := s
  simp only [Range.span_eq_ok_iff, offset_unifyNewlines, map_eq_ok_iff]
  constructor
  · rintro ⟨⟨m, hm, rfl⟩, ⟨n, hn, rfl⟩, hle⟩
    exact ⟨⟨m, n⟩, ⟨hm, hn, (unifiedOffset_le_iff hm hn).mp hle⟩, rfl⟩
  · rintro ⟨⟨m, n⟩, ⟨hm, hn, hle⟩, ⟨⟩⟩
    exact ⟨⟨m, hm, rfl⟩, ⟨n, hn, rfl⟩, (unifiedOffset_le_iff hm hn).mpr hle⟩

theorem annotation?_unifyNewlines (i : Issue) :
    i.annotation? (LineIndex.ofChars (Text.unifyNewlines cs)).lookup =
      (i.annotation? (LineIndex.ofChars cs).lookup).map fun a => a.unified cs := by
  cases hspan : i.span (LineIndex.ofChars cs).lookup with
  | ok t =>
    rw [Issue.annotation?_of_span hspan, Issue.annotation?_of_span (span_unifyNewlines.mpr ⟨t, hspan, rfl⟩)]
    rfl
  | error fault =>
    rw [Issue.annotation?_of_fault hspan]
    cases hspan' : i.span (LineIndex.ofChars (Text.unifyNewlines cs)).lookup with
    | ok s =>
      obtain ⟨t, ht, -⟩ := span_unifyNewlines.mp hspan'
      cases hspan.symm.trans ht
    | error fault' => exact Issue.annotation?_of_fault hspan'

theorem fits_eq_isSome (lookup : Lookup) (i : Issue) : i.fits lookup = (i.annotation? lookup).isSome := by
  cases hspan : i.span lookup with
  | ok t => rw [Issue.fits_of_span hspan, Issue.annotation?_of_span hspan, Option.isSome_some]
  | error fault => rw [Issue.fits_of_fault hspan, Issue.annotation?_of_fault hspan, Option.isSome_none]

/-- The same issues become annotations of both texts. -/
theorem ofIssues_unifyNewlines (cs : List Char) (issues : List Issue) :
    Projection.ofIssues (LineIndex.ofChars (Text.unifyNewlines cs)).lookup issues =
      (Projection.ofIssues (LineIndex.ofChars cs).lookup issues).unified cs := by
  unfold Projection.ofIssues
  split
  · rfl
  · simp only [Projection.unified, List.map_filterMap, fits_eq_isSome, annotation?_unifyNewlines,
      Option.isSome_map]

theorem unifiedOffset_eq_self (h : ∀ n, ¬ SplitsBreak cs n) (n : Int) : unifiedOffset cs n = n := by
  rw [unifiedOffset, Nat.count_iff_forall_not.mpr fun k _ => h k]
  exact Int.sub_zero n

/-- A terminator of two characters is what makes the lines of the texts differ. -/
theorem ofChars_unifyNewlines_eq_iff (cs : List Char) :
    LineIndex.ofChars (Text.unifyNewlines cs) = LineIndex.ofChars cs ↔ ∀ n, ¬ SplitsBreak cs n := by
  rw [ofChars_unifyNewlines]
  constructor
  · intro h
    have hlines : (LineIndex.ofChars cs).lines.map (Line.unified cs) = (LineIndex.ofChars cs).lines.map id :=
      (congrArg LineIndex.lines h).trans (List.map_id _).symm
    have hlast := List.map_inj_left.mp hlines _ (List.getLast_mem (by simp [LineIndex.lines]))
    have hlength := congrArg Line.stop hlast
    simp only [Line.unified, id, (LineIndex.divides_ofChars cs).stop_eq, unifiedOffset,
      Int.toNat_natCast] at hlength
    have hnone : Nat.count (SplitsBreak cs) cs.length = 0 := by omega
    intro n hn
    have hlt : n < cs.length := by
      obtain ⟨_, _, _, hlf⟩ := hn
      exact (List.getElem?_eq_some_iff.mp hlf).1
    exact Nat.count_iff_forall_not.mp hnone n hlt hn
  · intro h
    have hline : Line.unified cs = id :=
      funext fun line => by simp [Line.unified, unifiedOffset_eq_self h]
    simp [LineIndex.unified, hline]

end

end ApiLint
