import ApiLint.Projection.Span
import ApiLint.Proofs.Document.Lines
import ApiLint.Proofs.Faults

/-! Positions of a text and its flat offsets. The map from one to the other keeps the order, and it
reaches all offsets but the one inside a terminator of two characters. A position that has no offset is
told, unless a number in what is told is too long to be written. -/

namespace ApiLint

namespace RangeFault

def IsMisfit : RangeFault → Prop
  | lookup _ => False
  | unwritten => False
  | _ => True

theorem IsMisfit.written {f : RangeFault} (h : f.IsMisfit) : f.written.IsMisfit ∨ f.written = unwritten := by
  unfold RangeFault.written
  split
  · exact Or.inr rfl
  · exact Or.inl h

theorem IsMisfit.written_eq_unwritten_iff {f : RangeFault} (h : f.IsMisfit) :
    f.written = unwritten ↔ ∃ n ∈ f.numbers, isLong n = true := by
  unfold RangeFault.written
  split
  · rename_i hlong
    exact iff_of_true rfl (List.any_eq_true.mp hlong)
  · rename_i hshort
    refine iff_of_false ?_ fun hlong => hshort (List.any_eq_true.mpr hlong)
    rintro rfl
    exact h

end RangeFault

namespace LineIndex

theorem count_le_of_getElem? {index : LineIndex} {n : Int} (hn : 0 ≤ n)
    (h : index.lines[n.toNat]? = none) : index.count ≤ n := by
  have hlength := List.getElem?_eq_none_iff.mp h
  rw [count]
  omega

theorem lt_count_of_getElem? {index : LineIndex} {n : Int} {line : Line}
    (h : index.lines[n.toNat]? = some line) : n < index.count := by
  have hlength := (List.getElem?_eq_some_iff.mp h).1
  rw [count]
  omega

theorem offset_lookup (index : LineIndex) (p : Position) :
    p.offset index.lookup =
      if p.line < 0 ∨ p.character < 0 then .error (RangeFault.negative p).written
      else
        match index.lines[p.line.toNat]? with
        | none => .error (RangeFault.pastLines p.line index.count).written
        | some line =>
          if line.stop < line.start + p.character then .error (RangeFault.pastLine p.character p.line).written
          else .ok (line.start + p.character) := by
  unfold Position.offset
  by_cases hneg : p.line < 0 ∨ p.character < 0
  · rw [if_pos hneg, if_pos hneg]
  · rw [if_neg hneg, if_neg hneg]
    cases hl : index.lines[p.line.toNat]? with
    | none => exact if_pos (count_le_of_getElem? (by omega) hl)
    | some line =>
      have hlt : ¬ index.lookup.lineCount ≤ p.line := Int.not_le.mpr (lt_count_of_getElem? hl)
      rw [if_neg hlt]
      have hline : index.line p.line = .ok line := by
        rw [LineIndex.line, hl]
        exact if_neg (by omega)
      simp only [lookup, hline]
      rfl

theorem offset_eq_ok_iff {index : LineIndex} {p : Position} {n : Int} :
    p.offset index.lookup = .ok n ↔
      0 ≤ p.line ∧ 0 ≤ p.character ∧ ∃ line, index.lines[p.line.toNat]? = some line ∧
        p.character ≤ line.stop - line.start ∧ n = line.start + p.character := by
  rw [offset_lookup]
  split
  · rename_i h
    simp only [reduceCtorEq, false_iff]
    omega
  · rename_i h
    split
    · rename_i hl
      simp [hl]
    · rename_i line hl
      split
      · rename_i hlt
        simp only [reduceCtorEq, false_iff, hl, Option.some_inj, exists_eq_left']
        omega
      · rename_i hge
        simp only [Except.ok.injEq, hl, Option.some_inj, exists_eq_left']
        omega

theorem misfit_of_offset {index : LineIndex} {p : Position} {fault : RangeFault}
    (h : p.offset index.lookup = .error fault) : fault.IsMisfit ∨ fault = .unwritten := by
  rw [offset_lookup] at h
  split at h
  · obtain rfl := Except.error.inj h
    exact RangeFault.IsMisfit.written trivial
  · split at h
    · obtain rfl := Except.error.inj h
      exact RangeFault.IsMisfit.written trivial
    · split at h
      · obtain rfl := Except.error.inj h
        exact RangeFault.IsMisfit.written trivial
      · cases h

variable {cs : List Char}

theorem DividesFrom.pairwise {start : Int} {index : LineIndex} (h : DividesFrom cs start index) :
    index.lines.Pairwise fun line next => line.stop < next.start := by
  obtain ⟨line, rest⟩ := index
  induction rest generalizing start line with
  | nil => simp [lines]
  | cons next rest ih =>
    obtain ⟨_, _, _, ⟨hlt, _⟩, hr⟩ := dividesFrom_cons.mp h
    have hrest := ih next hr
    have ho := hr.ordered next (by simp [lines])
    refine List.pairwise_cons.mpr ⟨fun l hl => ?_, hrest⟩
    rcases List.mem_cons.mp hl with rfl | hl
    · exact hlt
    · have hl : next.stop < l.start := (List.pairwise_cons.mp hrest).1 l hl
      show line.stop < l.start
      omega

end LineIndex

/-- One position comes before another: on an earlier line, or further left on the same line. -/
def Position.Before (p q : Position) : Prop :=
  p.line < q.line ∨ (p.line = q.line ∧ p.character < q.character)

/-- A position lies in a text: on one of its lines, and no further right than the content goes. -/
def Position.Within (cs : List Char) (p : Position) : Prop :=
  0 ≤ p.line ∧ 0 ≤ p.character ∧
    ∃ line, (LineIndex.ofChars cs).lines[p.line.toNat]? = some line ∧
      p.character ≤ (cut cs line.start line.stop).length

/-- An offset lies inside a terminator of two characters. -/
def SplitsBreak (cs : List Char) (n : Nat) : Prop :=
  ∃ m, n = m + 1 ∧ cs[m]? = some '\r' ∧ cs[n]? = some '\n'

theorem not_splitsBreak_zero {cs : List Char} : ¬ SplitsBreak cs 0 := by
  rintro ⟨_, h, _⟩
  omega

namespace LineIndex

variable {cs : List Char}

theorem DividesFrom.mem_bounds {start : Nat} {index : LineIndex} (h : DividesFrom cs start index)
    {line : Line} (hl : line ∈ index.lines) : (start : Int) ≤ line.start ∧ line.stop ≤ cs.length := by
  obtain ⟨first, rest⟩ := index
  induction rest generalizing start first with
  | nil =>
    obtain ⟨hs, _, _, he⟩ := dividesFrom_single.mp h
    obtain rfl := List.mem_singleton.mp hl
    omega
  | cons next rest ih =>
    obtain ⟨hs, ho, _, ⟨hn, _⟩, hr⟩ := dividesFrom_cons.mp h
    obtain ⟨begin, hb⟩ := Int.eq_ofNat_of_zero_le (show 0 ≤ next.start by omega)
    rw [hb] at hr
    rcases List.mem_cons.mp hl with rfl | hl
    · have := hr.start_le
      omega
    · have := ih next hr hl
      omega

theorem not_splitsBreak_of_content {start stop n : Nat} (hs : ¬ SplitsBreak cs start)
    (hplain : ∀ c ∈ cut cs start stop, ¬ EndsLine c) (h : start ≤ n) (h' : n ≤ stop) :
    ¬ SplitsBreak cs n := by
  rcases Nat.eq_or_lt_of_le h with rfl | hlt
  · exact hs
  · rintro ⟨m, rfl, hm, _⟩
    exact hplain _ (mem_cut hm (by omega) (by omega)) (Or.inr rfl)

theorem splitsBreak_iff_of_terminates {stop begin n : Nat} (h : Terminates cs stop begin)
    (hlen : begin ≤ cs.length) (hlt : stop < n) (hle : n ≤ begin) :
    SplitsBreak cs n ↔ n < begin := by
  rcases (terminates_iff (by omega) hlen).mp h with ⟨hx, he⟩ | ⟨hx, hy, he⟩ | ⟨_, hy, he⟩
  · obtain rfl : n = stop + 1 := by omega
    simp [SplitsBreak, hx, he]
  · rcases Nat.lt_or_ge n begin with hn | hn
    · obtain rfl : n = stop + 1 := by omega
      exact iff_of_true ⟨stop, rfl, hx, hy⟩ hn
    · obtain rfl : n = stop + 2 := by omega
      simp [SplitsBreak, hy, he]
  · obtain rfl : n = stop + 1 := by omega
    simp [SplitsBreak, hy, he]

/-- The lines reach every offset but those inside a terminator. -/
theorem DividesFrom.reaches_iff {start n : Nat} {index : LineIndex} (h : DividesFrom cs start index)
    (hs : ¬ SplitsBreak cs start) (hn : start ≤ n) (hlen : n ≤ cs.length) :
    (∃ line ∈ index.lines, line.start ≤ n ∧ n ≤ line.stop) ↔ ¬ SplitsBreak cs n := by
  obtain ⟨line, rest⟩ := index
  induction rest generalizing start line with
  | nil =>
    obtain ⟨hl, _, hplain, he⟩ := dividesFrom_single.mp h
    rw [hl, he] at hplain
    exact iff_of_true ⟨line, by simp [lines], by omega, by omega⟩
      (not_splitsBreak_of_content hs hplain hn hlen)
  | cons next rest ih =>
    obtain ⟨hl, ho, hplain, ⟨hlt, ht⟩, hr⟩ := dividesFrom_cons.mp h
    obtain ⟨stop, he⟩ := Int.eq_ofNat_of_zero_le (show 0 ≤ line.stop by omega)
    obtain ⟨begin, hb⟩ := Int.eq_ofNat_of_zero_le (show 0 ≤ next.start by omega)
    rw [hb] at hr
    rw [he, hb] at ht
    rw [hl, he] at hplain
    have hbegin := hr.start_le
    rcases Nat.lt_or_ge n begin with hbefore | hafter
    · -- no later line comes as far back as this offset
      have hreach : (∃ l ∈ lines ⟨line, next :: rest⟩, l.start ≤ n ∧ n ≤ l.stop) ↔ n ≤ stop := by
        constructor
        · rintro ⟨l, hm, hle, hge⟩
          rcases List.mem_cons.mp hm with rfl | hm
          · omega
          · have := (hr.mem_bounds hm).1
            omega
        · exact fun hle => ⟨line, by simp [lines], by omega, by omega⟩
      rw [hreach]
      refine ⟨not_splitsBreak_of_content hs hplain hn, fun hnot => Nat.not_lt.mp fun hgt => hnot ?_⟩
      exact (splitsBreak_iff_of_terminates ht (by omega) hgt (by omega)).mpr hbefore
    · have hs' : ¬ SplitsBreak cs begin := by
        rw [splitsBreak_iff_of_terminates ht (by omega) (by omega) (Nat.le_refl begin)]
        exact Nat.lt_irrefl begin
      rw [← ih hs' hafter next hr]
      constructor
      · rintro ⟨l, hm, hle, hge⟩
        rcases List.mem_cons.mp hm with rfl | hm
        · omega
        · exact ⟨l, hm, hle, hge⟩
      · rintro ⟨l, hm, hle, hge⟩
        exact ⟨l, List.mem_cons_of_mem _ hm, hle, hge⟩

end LineIndex

theorem Range.span_eq_ok_iff {lookup : Lookup} {r : Range} {s : Span} :
    r.span lookup = .ok s ↔
      r.start.offset lookup = .ok s.start ∧ r.stop.offset lookup = .ok s.stop ∧ s.start ≤ s.stop := by
  unfold Range.span
  cases hm : r.start.offset lookup with
  | error fault => simp [bind, Except.bind]
  | ok m =>
    cases hn : r.stop.offset lookup with
    | error fault => simp [bind, Except.bind]
    | ok n =>
      obtain ⟨a, b⟩ := s
      simp only [bind, Except.bind, Except.ok.injEq]
      split
      · simp only [reduceCtorEq, false_iff]
        omega
      · simp only [pure, Except.pure, Except.ok.injEq, Span.mk.injEq]
        omega

theorem Range.misfit_of_span {index : LineIndex} {r : Range} {fault : RangeFault}
    (h : r.span index.lookup = .error fault) : fault.IsMisfit ∨ fault = .unwritten := by
  unfold Range.span at h
  cases hm : r.start.offset index.lookup with
  | error f =>
    simp only [hm, bind, Except.bind, Except.error.injEq] at h
    exact LineIndex.misfit_of_offset (h ▸ hm)
  | ok m =>
    cases hn : r.stop.offset index.lookup with
    | error f =>
      simp only [hm, hn, bind, Except.bind, Except.error.injEq] at h
      exact LineIndex.misfit_of_offset (h ▸ hn)
    | ok n =>
      simp only [hm, hn, bind, Except.bind] at h
      split at h
      · obtain rfl := Except.error.inj h
        exact RangeFault.IsMisfit.written trivial
      · cases h

section

variable {cs : List Char} {p q : Position} {m n : Int}

theorem length_content {line : Line} (h : line ∈ (LineIndex.ofChars cs).lines) :
    ((cut cs line.start line.stop).length : Int) = line.stop - line.start := by
  have hd : LineIndex.DividesFrom cs (0 : Nat) (LineIndex.ofChars cs) := LineIndex.divides_ofChars cs
  have ho := hd.ordered line h
  have hb := hd.mem_bounds h
  obtain ⟨a, ha⟩ := Int.eq_ofNat_of_zero_le (show 0 ≤ line.start by omega)
  obtain ⟨b, hb'⟩ := Int.eq_ofNat_of_zero_le (show 0 ≤ line.stop by omega)
  rw [ha, hb', length_cut (by omega)]
  omega

theorem within_iff : p.Within cs ↔ ∃ n, p.offset (LineIndex.ofChars cs).lookup = .ok n := by
  simp only [LineIndex.offset_eq_ok_iff, Position.Within]
  constructor
  · rintro ⟨hl, hc, line, hline, hle⟩
    rw [length_content (List.mem_of_getElem? hline)] at hle
    exact ⟨_, hl, hc, line, hline, hle, rfl⟩
  · rintro ⟨_, hl, hc, line, hline, hle, _⟩
    refine ⟨hl, hc, line, hline, ?_⟩
    rwa [length_content (List.mem_of_getElem? hline)]

/-- What is told of a position shows a number that is too long. The line is always shown, and the character
unless the line is past the last one. -/
def Position.TellsLong (cs : List Char) (p : Position) : Prop :=
  isLong p.line = true ∨
    isLong p.character = true ∧ (p.line < 0 ∨ p.character < 0 ∨ p.line < (LineIndex.ofChars cs).count)

theorem offset_eq_unwritten_iff :
    p.offset (LineIndex.ofChars cs).lookup = .error .unwritten ↔ ¬ p.Within cs ∧ p.TellsLong cs := by
  rw [within_iff, LineIndex.offset_lookup]
  unfold Position.TellsLong
  split
  · rename_i hneg
    have hmisfit : (RangeFault.negative p).IsMisfit := trivial
    rw [Except.error.injEq, hmisfit.written_eq_unwritten_iff]
    simp [RangeFault.numbers, ← or_assoc, hneg]
  · rename_i hnonneg
    rw [not_or] at hnonneg
    cases hline : (LineIndex.ofChars cs).lines[p.line.toNat]? with
    | none =>
      have hpast := LineIndex.count_le_of_getElem? (by omega) hline
      have hmisfit : (RangeFault.pastLines p.line (LineIndex.ofChars cs).count).IsMisfit := trivial
      rw [Except.error.injEq, hmisfit.written_eq_unwritten_iff]
      -- the number of lines is no longer than the line that is past them
      have hcount := isLong_of_le (Int.natCast_nonneg (LineIndex.ofChars cs).count) hpast
      have hbehind : ¬ (p.line < 0 ∨ p.character < 0 ∨ p.line < (LineIndex.ofChars cs).count) := by
        omega
      simp only [RangeFault.numbers, List.mem_cons, List.not_mem_nil, or_false, exists_eq_or_imp,
        exists_eq_left, reduceCtorEq, exists_false, not_false_eq_true, true_and, hbehind, and_false,
        or_iff_left_of_imp hcount]
    | some line =>
      have hwithin := LineIndex.lt_count_of_getElem? hline
      simp only
      split
      · have hmisfit : (RangeFault.pastLine p.character p.line).IsMisfit := trivial
        rw [Except.error.injEq, hmisfit.written_eq_unwritten_iff]
        simp [RangeFault.numbers, hwithin, or_comm]
      · simp

theorem line_lt_count (h : p.Within cs) : p.line < (LineIndex.ofChars cs).count := by
  obtain ⟨_, _, _, hline, _⟩ := h
  exact LineIndex.lt_count_of_getElem? hline

theorem not_within_of_count_le (h : (LineIndex.ofChars cs).count ≤ p.line) : ¬ p.Within cs :=
  fun hwithin => Int.not_le.mpr (line_lt_count hwithin) h

theorem nonneg_of_offset (hp : p.offset (LineIndex.ofChars cs).lookup = .ok m) : 0 ≤ m := by
  obtain ⟨_, hc, line, hline, _, rfl⟩ := LineIndex.offset_eq_ok_iff.mp hp
  have hd : LineIndex.DividesFrom cs (0 : Nat) (LineIndex.ofChars cs) := LineIndex.divides_ofChars cs
  have hbounds := (hd.mem_bounds (List.mem_of_getElem? hline)).1
  omega

theorem offset_lt_offset (hp : p.offset (LineIndex.ofChars cs).lookup = .ok m)
    (hq : q.offset (LineIndex.ofChars cs).lookup = .ok n) (h : p.Before q) : m < n := by
  obtain ⟨hpl, _, line, hline, hple, rfl⟩ := LineIndex.offset_eq_ok_iff.mp hp
  obtain ⟨hql, _, next, hnext, _, rfl⟩ := LineIndex.offset_eq_ok_iff.mp hq
  rcases h with hlt | ⟨heq, hlt⟩
  · obtain ⟨hi, rfl⟩ := List.getElem?_eq_some_iff.mp hline
    obtain ⟨hj, rfl⟩ := List.getElem?_eq_some_iff.mp hnext
    have := List.pairwise_iff_getElem.mp (LineIndex.divides_ofChars cs).pairwise _ _ hi hj (by omega)
    omega
  · rw [heq, hnext] at hline
    obtain rfl := Option.some.inj hline
    omega

theorem exists_offset_iff {k : Nat} :
    (∃ p : Position, p.offset (LineIndex.ofChars cs).lookup = .ok k) ↔
      k ≤ cs.length ∧ ¬ SplitsBreak cs k := by
  have hd : LineIndex.DividesFrom cs (0 : Nat) (LineIndex.ofChars cs) := LineIndex.divides_ofChars cs
  have hreach : (∃ p : Position, p.offset (LineIndex.ofChars cs).lookup = .ok k) ↔
      ∃ line ∈ (LineIndex.ofChars cs).lines, line.start ≤ k ∧ k ≤ line.stop := by
    simp only [LineIndex.offset_eq_ok_iff]
    constructor
    · rintro ⟨p, _, hc, line, hline, hle, he⟩
      exact ⟨line, List.mem_of_getElem? hline, by omega, by omega⟩
    · rintro ⟨line, hm, hle, hge⟩
      obtain ⟨i, hi⟩ := List.mem_iff_getElem?.mp hm
      exact ⟨⟨i, k - line.start⟩, by simp only; omega, by simp only; omega, line, by simpa using hi,
        by simp only; omega, by simp only; omega⟩
  rw [hreach]
  constructor
  · rintro ⟨line, hm, hle, hge⟩
    have hlen : k ≤ cs.length := by
      have := (hd.mem_bounds hm).2
      omega
    exact ⟨hlen, (hd.reaches_iff not_splitsBreak_zero (Nat.zero_le k) hlen).mp ⟨line, hm, hle, hge⟩⟩
  · rintro ⟨hlen, hnot⟩
    exact (hd.reaches_iff not_splitsBreak_zero (Nat.zero_le k) hlen).mpr hnot

theorem offset_le_offset_iff (hp : p.offset (LineIndex.ofChars cs).lookup = .ok m)
    (hq : q.offset (LineIndex.ofChars cs).lookup = .ok n) : m ≤ n ↔ ¬ q.Before p := by
  constructor
  · intro hle h
    have := offset_lt_offset hq hp h
    omega
  · intro h
    by_cases hpq : p.Before q
    · have := offset_lt_offset hp hq hpq
      omega
    · have hsame : p = q := by
        obtain ⟨pl, pc⟩ := p
        obtain ⟨ql, qc⟩ := q
        simp only [Position.Before] at h hpq
        simp only [Position.mk.injEq]
        omega
      subst hsame
      rw [hp, Except.ok.injEq] at hq
      omega

theorem Range.exists_span_iff {r : Range} :
    (∃ s, r.span (LineIndex.ofChars cs).lookup = .ok s) ↔
      r.start.Within cs ∧ r.stop.Within cs ∧ ¬ r.stop.Before r.start := by
  simp only [Range.span_eq_ok_iff]
  constructor
  · rintro ⟨s, hs, ht, hle⟩
    exact ⟨within_iff.mpr ⟨_, hs⟩, within_iff.mpr ⟨_, ht⟩, (offset_le_offset_iff hs ht).mp hle⟩
  · rintro ⟨hs, ht, hnot⟩
    obtain ⟨m, hm⟩ := within_iff.mp hs
    obtain ⟨n, hn⟩ := within_iff.mp ht
    exact ⟨⟨m, n⟩, hm, hn, (offset_le_offset_iff hm hn).mpr hnot⟩

theorem Range.span_eq_unwritten_iff {r : Range} :
    r.span (LineIndex.ofChars cs).lookup = .error .unwritten ↔
      (¬ r.start.Within cs ∧ r.start.TellsLong cs) ∨
      (r.start.Within cs ∧ ¬ r.stop.Within cs ∧ r.stop.TellsLong cs) ∨
      ∃ m n, r.start.offset (LineIndex.ofChars cs).lookup = .ok m ∧
        r.stop.offset (LineIndex.ofChars cs).lookup = .ok n ∧ n < m ∧ isLong m = true := by
  unfold Range.span
  rw [← offset_eq_unwritten_iff, ← offset_eq_unwritten_iff, within_iff]
  cases hm : r.start.offset (LineIndex.ofChars cs).lookup with
  | error f => simp [bind, Except.bind]
  | ok m =>
    cases hn : r.stop.offset (LineIndex.ofChars cs).lookup with
    | error f => simp [bind, Except.bind]
    | ok n =>
      simp only [bind, Except.bind, reduceCtorEq, false_or, Except.ok.injEq, exists_eq', and_false,
        exists_and_left, exists_eq_left']
      split
      · rename_i hlt
        have hmisfit : (RangeFault.reversed m n).IsMisfit := trivial
        rw [Except.error.injEq, hmisfit.written_eq_unwritten_iff]
        have hlong := isLong_of_le (nonneg_of_offset hn) (Int.le_of_lt hlt)
        simp [RangeFault.numbers, hlt, or_iff_right_of_imp hlong]
      · rename_i hle
        simp [pure, Except.pure, hle]

/-- An issue has a span in a text, between the offsets of its positions, when they lie there in their
order. Otherwise it is told how its range does not fit, unless that shows a number too long to be written.
Positions and offsets are in one order, and an offset without a position lies inside a terminator. -/
theorem issue_span_and_offsets (cs : List Char) :
    (∀ i : Issue, (∃ s, i.span (LineIndex.ofChars cs).lookup = .ok s) ↔
      i.range.start.Within cs ∧ i.range.stop.Within cs ∧ ¬ i.range.stop.Before i.range.start) ∧
    (∀ (i : Issue) (s : Span), i.span (LineIndex.ofChars cs).lookup = .ok s →
      i.range.start.offset (LineIndex.ofChars cs).lookup = .ok s.start ∧
        i.range.stop.offset (LineIndex.ofChars cs).lookup = .ok s.stop) ∧
    (∀ (i : Issue) (fault : RangeFault), i.span (LineIndex.ofChars cs).lookup = .error fault →
      fault.IsMisfit ∨ fault = .unwritten) ∧
    (∀ i : Issue, i.span (LineIndex.ofChars cs).lookup = .error .unwritten ↔
      (¬ i.range.start.Within cs ∧ i.range.start.TellsLong cs) ∨
      (i.range.start.Within cs ∧ ¬ i.range.stop.Within cs ∧ i.range.stop.TellsLong cs) ∨
      ∃ m n, i.range.start.offset (LineIndex.ofChars cs).lookup = .ok m ∧
        i.range.stop.offset (LineIndex.ofChars cs).lookup = .ok n ∧ n < m ∧ isLong m = true) ∧
    (∀ p : Position, p.Within cs ↔ ∃ n, p.offset (LineIndex.ofChars cs).lookup = .ok n) ∧
    (∀ (p q : Position) (m n : Int), p.offset (LineIndex.ofChars cs).lookup = .ok m →
      q.offset (LineIndex.ofChars cs).lookup = .ok n → p.Before q → m < n) ∧
    (∀ n : Int, (∃ p : Position, p.offset (LineIndex.ofChars cs).lookup = .ok n) ↔
      0 ≤ n ∧ n ≤ cs.length ∧ ¬ SplitsBreak cs n.toNat) := by
  refine ⟨fun i => Range.exists_span_iff, fun i s h => ?_, fun i _ => Range.misfit_of_span,
    fun i => Range.span_eq_unwritten_iff, fun p => within_iff, fun p q m n => offset_lt_offset, fun n => ?_⟩
  · obtain ⟨hs, ht, _⟩ := Range.span_eq_ok_iff.mp h
    exact ⟨hs, ht⟩
  rcases Int.lt_or_le n 0 with hneg | hnonneg
  · have hnot : ¬ ∃ p : Position, p.offset (LineIndex.ofChars cs).lookup = .ok n := by
      rintro ⟨p, hp⟩
      exact absurd (nonneg_of_offset hp) (by omega)
    exact iff_of_false hnot (by omega)
  · obtain ⟨k, rfl⟩ := Int.eq_ofNat_of_zero_le hnonneg
    rw [exists_offset_iff, Int.toNat_natCast, Int.ofNat_le]
    exact ⟨fun h => ⟨by omega, h⟩, fun h => h.2⟩

/-- A line whose number is too long is not in the text, and the issue on it is not told so. -/
theorem span_longLine :
    Issue.span (LineIndex.ofChars ['a']).lookup ⟨"a", "m", .error,
      ⟨⟨(Nat.pow 10 longestInteger : Nat), 0⟩, ⟨0, 0⟩⟩, none, [], none⟩ = .error .unwritten := by
  have hone : ((LineIndex.ofChars ['a']).count : Int) ≤ (Nat.pow 10 longestInteger : Nat) :=
    Int.ofNat_le.mpr (Nat.pow_pos (Nat.succ_pos 9))
  exact Range.span_eq_unwritten_iff.mpr (Or.inl ⟨not_within_of_count_le hone, Or.inl isLong_pow⟩)

end

end ApiLint
