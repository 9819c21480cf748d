import ApiLint.Document.LineIndex
import Mathlib.Data.List.Chain

/-! How lines divide a text: contents without terminators, one terminator between neighbours, nothing
left out and nothing twice. Every text is divided in one way only, and its index is that way. -/

namespace ApiLint

def cut (cs : List Char) (start stop : Int) : List Char :=
  (cs.take stop.toNat).drop start.toNat

def EndsLine (c : Char) : Prop :=
  c = '\n' ∨ c = '\r'

/-- Just one terminator stands between two offsets; a carriage return before a line feed is none by
itself. -/
def Terminates (cs : List Char) (start stop : Int) : Prop :=
  cut cs start stop = ['\n'] ∨ cut cs start stop = ['\r', '\n'] ∨
    (cut cs start stop = ['\r'] ∧ cs[stop.toNat]? ≠ some '\n')

namespace LineIndex

/-- The lines of an index divide a text from an offset on. -/
structure DividesFrom (cs : List Char) (start : Int) (index : LineIndex) : Prop where
  start_eq : index.first.start = start
  stop_eq : (index.lines.getLast (by simp [lines])).stop = cs.length
  ordered : ∀ line ∈ index.lines, line.start ≤ line.stop
  content : ∀ line ∈ index.lines, ∀ c ∈ cut cs line.start line.stop, ¬ EndsLine c
  terminated : index.lines.IsChain fun line next =>
    line.stop < next.start ∧ Terminates cs line.stop next.start

abbrev Divides (cs : List Char) (index : LineIndex) : Prop :=
  DividesFrom cs 0 index

/-- The contents of lines, each but the last with what stands between it and the next. -/
def joined (cs : List Char) : List Line → List Char
  | [] => []
  | [line] => cut cs line.start line.stop
  | line :: next :: rest =>
    cut cs line.start line.stop ++ cut cs line.stop next.start ++ joined cs (next :: rest)

end LineIndex

section

variable {cs : List Char} {start stop : Nat}

theorem cut_of_le (h : stop ≤ start) : cut cs start stop = [] := by
  simp only [cut, Int.toNat_natCast, List.drop_eq_nil_iff, List.length_take]
  omega

theorem cut_cons {c : Char} (h : start < stop) (hc : cs[start]? = some c) :
    cut cs start stop = c :: cut cs (start + 1 : Nat) stop := by
  obtain ⟨hlt, rfl⟩ := List.getElem?_eq_some_iff.mp hc
  simp only [cut, Int.toNat_natCast]
  rw [List.drop_eq_getElem_cons (by simp; omega)]
  simp

theorem mem_cut {c : Char} {i : Nat} (hc : cs[i]? = some c) (h : start ≤ i) (h' : i < stop) :
    c ∈ cut cs start stop := by
  simp only [cut, Int.toNat_natCast]
  refine List.mem_of_getElem? (i := i - start) ?_
  rw [List.getElem?_drop, List.getElem?_take_of_lt (by omega), Nat.add_sub_cancel' h, hc]

theorem cut_append {middle : Nat} (h : start ≤ middle) (h' : middle ≤ stop) :
    cut cs start stop = cut cs start middle ++ cut cs middle stop := by
  obtain ⟨a, rfl⟩ := Nat.exists_eq_add_of_le h
  obtain ⟨b, rfl⟩ := Nat.exists_eq_add_of_le h'
  simp only [cut, Int.toNat_natCast, List.drop_take]
  rw [show start + a + b - start = a + b by omega, show start + a - start = a by omega,
    show start + a + b - (start + a) = b by omega, List.take_add, List.drop_drop]

theorem cut_append_drop (h : start ≤ stop) : cut cs start stop ++ cs.drop stop = cs.drop start := by
  obtain ⟨a, rfl⟩ := Nat.exists_eq_add_of_le h
  simp only [cut, Int.toNat_natCast, List.drop_take]
  rw [Nat.add_sub_cancel_left, ← List.drop_drop, List.take_append_drop]

theorem length_cut (h : stop ≤ cs.length) : (cut cs start stop).length = stop - start := by
  simp only [cut, Int.toNat_natCast, List.length_drop, List.length_take]
  omega

theorem terminates_iff (h : start < stop) (h' : stop ≤ cs.length) :
    Terminates cs start stop ↔
      (cs[start]? = some '\n' ∧ stop = start + 1) ∨
        (cs[start]? = some '\r' ∧ cs[start + 1]? = some '\n' ∧ stop = start + 2) ∨
        (cs[start]? = some '\r' ∧ cs[start + 1]? ≠ some '\n' ∧ stop = start + 1) := by
  have hx := List.getElem?_eq_getElem (show start < cs.length by omega)
  rcases Nat.lt_or_ge (start + 1) stop with hlt | hge
  · have hy := List.getElem?_eq_getElem (show start + 1 < cs.length by omega)
    have hnil : cut cs (start + 2 : Nat) stop = [] ↔ stop = start + 2 := by
      rw [← List.length_eq_zero_iff, length_cut h']
      omega
    have hne : stop ≠ start + 1 := by omega
    simp only [Terminates, cut_cons h hx, cut_cons hlt hy, hnil, hx, hy, Option.some_inj,
      List.cons.injEq, reduceCtorEq, and_false, false_and, false_or, or_false, hne]
  · obtain rfl : stop = start + 1 := by omega
    have hne : start + 1 ≠ start + 2 := by omega
    simp only [Terminates, cut_cons h hx, cut_of_le (Nat.le_refl _), hx, Option.some_inj,
      List.cons.injEq, reduceCtorEq, and_false, false_or, and_true, hne, Int.toNat_natCast]

theorem Terminates.endsLine (h : Terminates cs start stop) (hlt : start < stop)
    (hle : stop ≤ cs.length) : ∃ c, cs[start]? = some c ∧ EndsLine c := by
  rcases (terminates_iff hlt hle).mp h with ⟨hc, _⟩ | ⟨hc, _⟩ | ⟨hc, _⟩
  · exact ⟨_, hc, Or.inl rfl⟩
  · exact ⟨_, hc, Or.inr rfl⟩
  · exact ⟨_, hc, Or.inr rfl⟩

end

namespace LineIndex

variable {cs : List Char}

theorem dividesFrom_single {start : Int} {line : Line} :
    DividesFrom cs start ⟨line, []⟩ ↔
      line.start = start ∧ line.start ≤ line.stop ∧ (∀ c ∈ cut cs line.start line.stop, ¬ EndsLine c) ∧
        line.stop = cs.length := by
  constructor
  · intro h
    exact ⟨h.start_eq, h.ordered line (by simp [lines]), h.content line (by simp [lines]), h.stop_eq⟩
  · rintro ⟨hs, ho, hc, he⟩
    exact ⟨hs, he, by simpa [lines] using ho, by simpa [lines] using hc, by simp [lines]⟩

theorem dividesFrom_cons {start : Int} {line next : Line} {rest : List Line} :
    DividesFrom cs start ⟨line, next :: rest⟩ ↔
      line.start = start ∧ line.start ≤ line.stop ∧ (∀ c ∈ cut cs line.start line.stop, ¬ EndsLine c) ∧
        (line.stop < next.start ∧ Terminates cs line.stop next.start) ∧
          DividesFrom cs next.start ⟨next, rest⟩ := by
  constructor
  · intro h
    have hchain := List.isChain_cons_cons.mp h.terminated
    refine ⟨h.start_eq, h.ordered line (by simp [lines]), h.content line (by simp [lines]), hchain.1,
      rfl, ?_, ?_, ?_, hchain.2⟩
    · simpa [lines] using h.stop_eq
    · exact fun l hl => h.ordered l (List.mem_cons_of_mem _ hl)
    · exact fun l hl => h.content l (List.mem_cons_of_mem _ hl)
  · rintro ⟨hs, ho, hc, ht, h⟩
    refine ⟨hs, ?_, ?_, ?_, List.isChain_cons_cons.mpr ⟨ht, h.terminated⟩⟩
    · simpa [lines] using h.stop_eq
    · exact fun l hl => (List.mem_cons.mp hl).elim (fun he => he ▸ ho) (h.ordered l)
    · exact fun l hl => (List.mem_cons.mp hl).elim (fun he => he ▸ hc) (h.content l)

theorem DividesFrom.start_le {start : Int} {index : LineIndex} (h : DividesFrom cs start index) :
    start ≤ cs.length := by
  obtain ⟨line, rest⟩ := index
  induction rest generalizing start line with
  | nil =>
    obtain ⟨rfl, ho, _, he⟩ := dividesFrom_single.mp h
    omega
  | cons next rest ih =>
    obtain ⟨rfl, ho, _, ⟨hlt, _⟩, hr⟩ := dividesFrom_cons.mp h
    have := ih _ hr
    omega

theorem DividesFrom.first_stop {start offset : Nat} {index : LineIndex} {c : Char}
    (h : DividesFrom cs start index) (hle : start ≤ offset)
    (hplain : ∀ d ∈ cut cs start offset, ¬ EndsLine d) (hc : cs[offset]? = some c) (he : EndsLine c) :
    ∃ next rest, index = ⟨⟨start, offset⟩, next :: rest⟩ ∧ (offset : Int) < next.start ∧
      Terminates cs offset next.start ∧ DividesFrom cs next.start ⟨next, rest⟩ := by
  obtain ⟨⟨first, last⟩, rest⟩ := index
  have hlt := (List.getElem?_eq_some_iff.mp hc).1
  have hcontent : ∀ stop : Nat, (∀ d ∈ cut cs start stop, ¬ EndsLine d) → stop ≤ offset := by
    intro stop hd
    rcases Nat.lt_or_ge offset stop with hlt | hge
    · exact absurd he (hd c (mem_cut hc hle hlt))
    · exact hge
  cases rest with
  | nil =>
    obtain ⟨rfl, ho, hd, rfl⟩ := dividesFrom_single.mp h
    have := hcontent cs.length hd
    omega
  | cons next rest =>
    obtain ⟨rfl, ho, hd, ⟨hn, ht⟩, hr⟩ := dividesFrom_cons.mp h
    simp only at ho hd hn ht
    obtain ⟨stop, rfl⟩ := Int.eq_ofNat_of_zero_le (show 0 ≤ last by omega)
    obtain ⟨begin, hb⟩ := Int.eq_ofNat_of_zero_le (show 0 ≤ next.start by omega)
    have hle' := hr.start_le
    have hstop : stop = offset := by
      refine Nat.le_antisymm (hcontent stop hd) (Nat.not_lt.mp fun hs => ?_)
      rw [hb] at ht
      obtain ⟨d, hd', hed⟩ := ht.endsLine (by omega) (by omega)
      exact hplain d (mem_cut hd' (by omega) hs) hed
    subst hstop
    exact ⟨next, rest, rfl, hn, ht, hr⟩

theorem plain_cut_self (n : Nat) : ∀ d ∈ cut cs n n, ¬ EndsLine d := by
  rw [cut_of_le (Nat.le_refl n)]
  exact fun _ hd => absurd hd List.not_mem_nil

theorem plain_cut_succ {start offset : Nat} {c : Char} (hle : start ≤ offset)
    (hplain : ∀ d ∈ cut cs start offset, ¬ EndsLine d) (hc : cs[offset]? = some c)
    (he : ¬ EndsLine c) : ∀ d ∈ cut cs start (offset + 1 : Nat), ¬ EndsLine d := by
  rw [cut_append hle (Nat.le_succ offset), cut_cons (Nat.lt_succ_self offset) hc,
    cut_of_le (Nat.le_refl _)]
  intro d hd
  rcases List.mem_append.mp hd with hd | hd
  · exact hplain d hd
  · rw [List.mem_singleton.mp hd]
    exact he

/-- Where a line ends, the next one begins behind the one terminator there. -/
theorem dividesFrom_break {start offset stop : Nat} {index : LineIndex} {c : Char} (hle : start ≤ offset)
    (hplain : ∀ d ∈ cut cs start offset, ¬ EndsLine d) (hc : cs[offset]? = some c) (he : EndsLine c)
    (hlt : offset < stop) (hlen : stop ≤ cs.length)
    (ht : ∀ n : Nat, offset < n → n ≤ cs.length → (Terminates cs offset n ↔ n = stop)) :
    DividesFrom cs start index ↔
      ∃ tail, DividesFrom cs stop tail ∧ index = ⟨⟨start, offset⟩, tail.first :: tail.rest⟩ := by
  constructor
  · intro h
    obtain ⟨next, rest, rfl, hn, hterm, hr⟩ := h.first_stop hle hplain hc he
    have := hr.start_le
    obtain ⟨n, hn'⟩ := Int.eq_ofNat_of_zero_le (show 0 ≤ next.start by omega)
    rw [hn'] at hterm hr
    obtain rfl := (ht n (by omega) (by omega)).mp hterm
    exact ⟨⟨next, rest⟩, hr, rfl⟩
  · rintro ⟨⟨next, rest⟩, h, rfl⟩
    have hs := h.start_eq
    simp only at hs
    refine dividesFrom_cons.mpr ⟨rfl, ?_, hplain, ?_, hs ▸ h⟩
    · simp only
      omega
    · rw [hs]
      exact ⟨by simp only; omega, (ht stop hlt hlen).mpr rfl⟩

theorem dividesFrom_end {start : Nat} {index : LineIndex} (hle : start ≤ cs.length)
    (hplain : ∀ d ∈ cut cs start cs.length, ¬ EndsLine d) :
    DividesFrom cs start index ↔ index = ⟨⟨start, cs.length⟩, []⟩ := by
  constructor
  · intro h
    obtain ⟨⟨first, last⟩, more⟩ := index
    cases more with
    | nil =>
      obtain ⟨rfl, _, _, rfl⟩ := dividesFrom_single.mp h
      rfl
    | cons next more =>
      obtain ⟨rfl, ho, _, ⟨hn, ht⟩, hr⟩ := dividesFrom_cons.mp h
      have := hr.start_le
      simp only at ho hn ht
      obtain ⟨stop, rfl⟩ := Int.eq_ofNat_of_zero_le (show 0 ≤ last by omega)
      obtain ⟨begin, hb⟩ := Int.eq_ofNat_of_zero_le (show 0 ≤ next.start by omega)
      rw [hb] at ht
      obtain ⟨d, hd, hed⟩ := ht.endsLine (by omega) (by omega)
      exact absurd hed (hplain d (mem_cut hd (by omega) (by omega)))
  · rintro rfl
    exact dividesFrom_single.mpr ⟨rfl, by simp only; omega, hplain, rfl⟩

theorem of_drop_eq_cons {offset : Nat} {c : Char} {rest : List Char} (h : cs.drop offset = c :: rest) :
    cs[offset]? = some c ∧ offset + 1 ≤ cs.length ∧ cs.drop (offset + 1) = rest := by
  have hlt : offset < cs.length := by
    have := congrArg List.length h
    simp only [List.length_drop, List.length_cons] at this
    omega
  rw [List.drop_eq_getElem_cons hlt, List.cons.injEq] at h
  exact ⟨by rw [List.getElem?_eq_getElem hlt, h.1], hlt, h.2⟩

/-- The lines from an offset on continue the one that is open there, and no other lines do. -/
theorem dividesFrom_iff {start offset : Nat} {rest : List Char} (hle : start ≤ offset)
    (hplain : ∀ d ∈ cut cs start offset, ¬ EndsLine d) (hlen : offset ≤ cs.length)
    (hr : cs.drop offset = rest) {index : LineIndex} :
    DividesFrom cs start index ↔ index = linesFrom start offset rest := by
  fun_induction linesFrom start offset rest generalizing index with
  | case1 start offset =>
    obtain rfl : offset = cs.length := Nat.le_antisymm hlen (List.drop_eq_nil_iff.mp hr)
    exact dividesFrom_end hle hplain
  | case2 start offset rest next ih =>
    obtain ⟨hc, _, hr⟩ := of_drop_eq_cons hr
    obtain ⟨hd, hlen, hr⟩ := of_drop_eq_cons hr
    have ht : ∀ n : Nat, offset < n → n ≤ cs.length →
        (Terminates cs offset n ↔ n = offset + 2) := by
      intro n hn hn'
      simp [terminates_iff hn hn', hc, hd]
    rw [dividesFrom_break hle hplain hc (Or.inr rfl) (show offset < offset + 2 by omega) hlen ht]
    simp only [ih (Nat.le_refl _) (plain_cut_self _) hlen hr, exists_eq_left, next]
  | case3 start offset c rest hne hend next ih =>
    obtain ⟨hc, hlen, hr⟩ := of_drop_eq_cons hr
    have hd : c = '\r' → cs[offset + 1]? ≠ some '\n' := by
      intro hcr hlf
      refine hne (rest.drop 1) hcr ?_
      rw [← hr, List.drop_drop, List.drop_eq_getElem_cons (List.getElem?_eq_some_iff.mp hlf).1,
        (List.getElem?_eq_some_iff.mp hlf).2]
    have ht : ∀ n : Nat, offset < n → n ≤ cs.length →
        (Terminates cs offset n ↔ n = offset + 1) := by
      intro n hn hn'
      rw [terminates_iff hn hn', hc]
      rcases hend with rfl | rfl
      · simp
      · simp [hd rfl]
    rw [dividesFrom_break hle hplain hc hend (show offset < offset + 1 by omega) hlen ht]
    simp only [ih (Nat.le_refl _) (plain_cut_self _) hlen hr, exists_eq_left, next]
  | case4 start offset c rest hne hend ih =>
    obtain ⟨hc, hlen, hr⟩ := of_drop_eq_cons hr
    exact ih (by omega) (plain_cut_succ hle hplain hc hend) hlen hr

theorem divides_ofChars (cs : List Char) : Divides cs (ofChars cs) :=
  (dividesFrom_iff (Nat.le_refl 0) (plain_cut_self 0) (Nat.zero_le _) List.drop_zero).mpr rfl

theorem DividesFrom.joined_eq {start : Nat} {index : LineIndex} (h : DividesFrom cs start index) :
    joined cs index.lines = cs.drop start := by
  obtain ⟨line, rest⟩ := index
  induction rest generalizing start line with
  | nil =>
    obtain ⟨hs, ho, _, he⟩ := dividesFrom_single.mp h
    rw [hs, he] at ho
    have hj : cut cs start cs.length ++ cs.drop cs.length = cs.drop start :=
      cut_append_drop (by omega)
    rw [List.drop_length, List.append_nil] at hj
    simpa only [lines, joined, hs, he] using hj
  | cons next rest ih =>
    obtain ⟨hs, ho, _, ⟨hn, _⟩, hr⟩ := dividesFrom_cons.mp h
    obtain ⟨stop, hb⟩ := Int.eq_ofNat_of_zero_le (show 0 ≤ line.stop by omega)
    obtain ⟨begin, hc⟩ := Int.eq_ofNat_of_zero_le (show 0 ≤ next.start by omega)
    rw [hc] at hr
    have hj := ih next hr
    simp only [lines] at hj
    simp only [lines, joined, hs, hb, hc, hj]
    rw [List.append_assoc, cut_append_drop (by omega), cut_append_drop (by omega)]

/-- The index of a text divides it, no other index does, and the lines with their terminators are the
whole text. -/
theorem divides_iff_and_joined (cs : List Char) :
    (∀ index : LineIndex, Divides cs index ↔ index = ofChars cs) ∧
      joined cs (ofChars cs).lines = cs :=
  ⟨fun _ => dividesFrom_iff (Nat.le_refl 0) (plain_cut_self 0) (Nat.zero_le _) List.drop_zero,
    (divides_ofChars cs).joined_eq⟩

example : (ofChars ['a', '\r', '\r', '\n', 'b', '\n']).lines = [⟨0, 1⟩, ⟨2, 2⟩, ⟨4, 5⟩, ⟨6, 6⟩] := by
  decide

end LineIndex

end ApiLint
