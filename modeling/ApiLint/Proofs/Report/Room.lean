import ApiLint.Proofs.Text.Legible
import ApiLint.Report.Layout
import Mathlib.Algebra.Order.BigOperators.Group.List
import Mathlib.Algebra.Order.Group.Nat
import Mathlib.Data.List.Forall2
import Mathlib.Data.List.SplitBy
import Mathlib.Data.List.TakeWhile

/-! Tables with room for their cells. A cell that fits its column is one line, filled up with spaces, and
each row of such cells is one line. When there are columns in which all cells fit and which together fit
the terminal, then the columns of the table are such columns. -/

namespace ApiLint.Layout

open Text (Legible joiner width)

section Cells

variable {n : Nat} {overflow : Overflow} {cs : List Char}

theorem flatten_attachBlanks (groups : List (List Char)) : (attachBlanks groups).flatten = groups.flatten := by
  fun_induction attachBlanks groups with
  | case1 word blanks rest ih => simp [ih]
  | case2 groups => rfl

theorem flatten_words (cs : List Char) : (words cs).flatten = cs := by
  have hgroups := List.flatten_splitBy (fun a b => Text.isBlank a = Text.isBlank b) cs
  unfold words
  split
  · rename_i blanks word rest heq
    rw [heq] at hgroups
    split <;> simpa [flatten_attachBlanks] using hgroups
  · exact hgroups

/-- Words that fit together stay on the line under way. -/
theorem foldl_addWord {ws : List (List Char)} {b : Breaking} (hj : joiner ∉ ws.flatten)
    (hfit : b.cells + width ws.flatten ≤ n) :
    ∃ cells, ws.foldl (Breaking.addWord n overflow) b = ⟨b.done, b.line ++ ws.flatten, cells⟩ := by
  -- The cells that count as used and the words to come fit together all the way.
  induction ws generalizing b with
  | nil => exact ⟨b.cells, by simp⟩
  | cons word ws ih =>
    obtain ⟨hword, hws⟩ : joiner ∉ word ∧ joiner ∉ ws.flatten := by
      simpa only [List.flatten_cons, List.mem_append, not_or] using hj
    have hadd := Text.width_add_le hword hws
    have hsize : width (word.reverse.dropWhile Text.isBlank).reverse ≤ width word := by
      refine Text.width_le_of_sublist ?_ hword
      simpa using (List.dropWhile_sublist Text.isBlank (l := word.reverse)).reverse
    rw [List.flatten_cons] at hfit
    have hstep : Breaking.addWord n overflow b word = ⟨b.done, b.line ++ word, b.cells + width word⟩ := by
      rw [Breaking.addWord, if_pos (by omega)]
      rfl
    obtain ⟨cells, hcells⟩ := ih (b := ⟨b.done, b.line ++ word, b.cells + width word⟩) hws (by simp only; omega)
    exact ⟨cells, by rw [List.foldl_cons, hstep, hcells, List.flatten_cons, List.append_assoc]⟩

theorem breakLine_of_le (hj : joiner ∉ cs) (h : width cs ≤ n) : breakLine n overflow cs = [cs] := by
  have hfit : (⟨[], [], 0⟩ : Breaking).cells + width (words cs).flatten ≤ n := by
    rwa [flatten_words, Nat.zero_add]
  obtain ⟨cells, hcells⟩ := foldl_addWord (by rwa [flatten_words]) hfit
  rw [breakLine, hcells, flatten_words]
  rfl

theorem fill_append_spaces (hj : joiner ∉ cs) {k : Nat} (h : width cs + k ≤ n) :
    fill n (cs ++ List.replicate k ' ') = fill n cs := by
  have hk : n - width cs = k + (n - (width cs + k)) := by omega
  rw [fill, fill, Text.width_append_spaces hj, hk, ← List.replicate_append_replicate, List.append_assoc]

/-- Blanks at the end of a line that are cut off are filled in again. -/
theorem exists_trimEnd_append (n : Nat) (hlegible : Legible cs) :
    ∃ k, cs = trimEnd n cs ++ List.replicate k ' ' := by
  let blanks := cs.reverse.takeWhile Text.isBlank
  let k := min blanks.length (cs.length - n)
  have hend : cs.drop (cs.length - k) = (blanks.take k).reverse := by
    have htake : cs.reverse.take k = blanks.take k := by
      conv_lhs => rw [← List.takeWhile_append_dropWhile (p := Text.isBlank) (l := cs.reverse)]
      exact List.take_append_of_le_length (Nat.min_le_left ..)
    rw [← htake, List.reverse_take, List.reverse_reverse, List.length_reverse]
  have hspaces : ∀ c ∈ cs.drop (cs.length - k), c = ' ' := by
    intro c hc
    have hmem : c ∈ blanks := List.mem_of_mem_take (List.mem_reverse.mp (hend ▸ hc))
    exact Text.eq_space_of_isPrintable (hlegible c (List.mem_of_mem_drop hc)) (List.mem_takeWhile_imp hmem)
  exact ⟨_, calc
    cs = cs.take (cs.length - k) ++ cs.drop (cs.length - k) := (List.take_append_drop ..).symm
    _ = trimEnd n cs ++ List.replicate _ ' ' := congrArg (_ ++ ·) (List.eq_replicate_of_mem hspaces)⟩

theorem fill_fill (hj : joiner ∉ cs) : fill n (fill n cs) = fill n cs := by
  have hnone : n - (width cs + (n - width cs)) = 0 := by omega
  conv_lhs => rw [fill, fill, Text.width_append_spaces hj, hnone]
  rw [List.replicate_zero, List.append_nil, fill]

theorem fit_trimEnd (hlegible : Legible cs) (h : width cs ≤ n) : fit n overflow (trimEnd n cs) = fill n cs := by
  obtain ⟨k, hk⟩ := exists_trimEnd_append n hlegible
  have hj : joiner ∉ trimEnd n cs := fun hmem => hlegible.joiner_not_mem (List.mem_of_mem_take hmem)
  have hwidth : width cs = width (trimEnd n cs) + k := by
    conv_lhs => rw [hk]
    exact Text.width_append_spaces hj k
  have hfill : fill n cs = fill n (trimEnd n cs) := by
    conv_lhs => rw [hk]
    exact fill_append_spaces hj (hwidth ▸ h)
  have hclip : clip n overflow (trimEnd n cs) = fill n (trimEnd n cs) := if_pos (by omega)
  rw [fit, hclip, fill_fill hj, hfill]

theorem cellLines_of_le (wraps : Bool) (hlegible : Legible cs) (h : width cs ≤ n) :
    cellLines n wraps overflow cs = [fill n cs] := by
  have hfeed : '\n' ∉ cs := hlegible.not_mem (by decide)
  have hpieces : linePieces n wraps overflow cs = [cs] := by
    rw [linePieces, breakLine_of_le hlegible.joiner_not_mem h, ite_self]
  simp [cellLines, Text.splitAt_of_not_mem hfeed, hlegible.expandTabs, hpieces, fit_trimEnd hlegible h]

def cell (w : Nat) (cs : List Char) : List Char :=
  ' ' :: fill (w - padding) cs ++ [' ']

theorem columnLines_of_le {w : Nat} (column : Column) (hw : padding < w) (hlegible : Legible cs)
    (h : width cs + padding ≤ w) : columnLines w column cs = [cell w cs] := by
  rw [columnLines, if_neg (Nat.not_le.mpr hw), cellLines_of_le column.wraps hlegible (by omega)]
  rfl

end Cells

section Lines

variable {widths : List Nat} {columns : List Column} {row : List (List Char)}

def Fits (widths : List Nat) (row : List (List Char)) : Prop :=
  List.Forall₂ (fun w cs => width cs + padding ≤ w) widths row

instance (widths : List Nat) (row : List (List Char)) : Decidable (Fits widths row) :=
  inferInstanceAs (Decidable (List.Forall₂ _ widths row))

def line (widths : List Nat) (row : List (List Char)) : List Char :=
  rowLine ((widths.zip row).map fun p => cell p.1 p.2)

/-- The lines of a table in which all cells fit their columns. -/
def sheet (widths : List Nat) (titles : List (List Char)) (rows : List (List (List Char))) :
    List (List Char) :=
  let blank := List.replicate (sumOf widths + frame) ' '
  let rule := ' ' :: List.replicate (sumOf widths + frame - 2) '─' ++ [' ']
  blank :: line widths titles :: rule :: rows.map (line widths) ++ [blank]

def titles (columns : List Column) : List (List Char) :=
  columns.map fun column => column.title.toList

theorem foldl_max_le_iff {ns : List Nat} {start bound : Nat} :
    ns.foldl max start ≤ bound ↔ start ≤ bound ∧ ∀ n ∈ ns, n ≤ bound := by
  induction ns generalizing start with
  | nil => simp
  | cons n ns ih => rw [List.foldl_cons, ih, Nat.max_le, List.forall_mem_cons, and_assoc]

/-- Cells of one line each beside one another. -/
theorem beside_single (cells : List (Nat × List Char)) :
    beside 1 (cells.map fun c => (c.1, [c.2])) = [rowLine (cells.map Prod.snd)] := by
  simp [beside, Function.comp_def]

theorem tallest_single_le (cells : List (Nat × List Char)) :
    tallest (cells.map fun c => (c.1, [c.2])) ≤ 1 := by
  rw [tallest, foldl_max_le_iff, List.map_map, List.forall_mem_map]
  exact ⟨Nat.zero_le _, fun _ _ => Nat.le_refl _⟩

theorem cells_of_fits (h : Fits widths row) (hlength : columns.length = row.length)
    (hwidths : ∀ w ∈ widths, padding < w) (hlegible : ∀ cs ∈ row, Legible cs) :
    ((widths.zip columns).zip row).map (fun p => (p.1.1, columnLines p.1.1 p.1.2 p.2)) =
      ((widths.zip row).map fun p => (p.1, cell p.1 p.2)).map fun c => (c.1, [c.2]) := by
  induction h generalizing columns with
  | nil => simp
  | cons hle _ ih =>
    obtain ⟨column, columns, rfl⟩ := List.exists_cons_of_length_eq_add_one hlength
    obtain ⟨hw, hwidths⟩ := List.forall_mem_cons.mp hwidths
    obtain ⟨hcs, hlegible⟩ := List.forall_mem_cons.mp hlegible
    have hrest := ih (Nat.succ.inj hlength) hwidths hlegible
    simp only [List.zip_cons_cons, List.map_cons, hrest, columnLines_of_le column hw hcs hle]

theorem rowLines_of_fits (h : Fits widths row) (hlength : columns.length = row.length)
    (hwidths : ∀ w ∈ widths, padding < w) (hlegible : ∀ cs ∈ row, Legible cs) :
    rowLines (widths.zip columns) row = [line widths row] := by
  rw [rowLines]
  simp only [cells_of_fits h hlength hwidths hlegible]
  rw [Nat.max_eq_left (tallest_single_le _), beside_single, List.map_map]
  rfl

/-- The titles stand on one line as a row does. -/
theorem headerLines_of_fits (h : Fits widths (titles columns)) (hwidths : ∀ w ∈ widths, padding < w)
    (hlegible : ∀ cs ∈ titles columns, Legible cs) :
    headerLines (widths.zip columns) = [line widths (titles columns)] := by
  let cells := (widths.zip columns).map fun c => (c.1, cell c.1 c.2.title.toList)
  have hcells : (widths.zip columns).map (fun c => (c.1, columnLines c.1 c.2 c.2.title.toList)) =
      cells.map fun c => (c.1, [c.2]) := by
    rw [List.map_map]
    refine List.map_congr_left fun ⟨w, column⟩ hmem => ?_
    have hle := (List.forall₂_iff_zip.mp (List.forall₂_map_right_iff.mp h)).2 hmem
    have hcolumn := hlegible _ (List.mem_map_of_mem (List.of_mem_zip hmem).2)
    exact congrArg (Prod.mk w) (columnLines_of_le column (hwidths w (List.of_mem_zip hmem).1) hcolumn hle)
  have hheight := tallest_single_le cells
  have hlines : (cells.map fun c => (c.1, [c.2])).map (fun c =>
        (c.1, List.replicate (tallest (cells.map fun c => (c.1, [c.2])) - c.2.length)
          (List.replicate c.1 ' ') ++ c.2)) =
      cells.map fun c => (c.1, [c.2]) := by
    rw [List.map_map]
    refine List.map_congr_left fun c _ => ?_
    simp [Nat.sub_eq_zero_of_le hheight]
  rw [headerLines]
  simp only [hcells, hlines]
  rw [Nat.max_eq_left hheight, beside_single, line, titles, List.zip_map_right, List.map_map, List.map_map]
  rfl

end Lines

section Widths

variable {limit : Nat} {cells : List (List Char)} {widths : List Nat} {columns : List Column}
  {rows : List (List (List Char))} {filled : List (Column × List (List Char))}

/-- Columns that are wide enough for all their cells. -/
def Holds (widths : List Nat) (filled : List (Column × List (List Char))) : Prop :=
  List.Forall₂ (fun w c => ∀ cs ∈ c.2, width cs + padding ≤ w) widths filled

theorem longestLine_of_legible {cs : List Char} (h : Legible cs) : longestLine cs = width cs := by
  cases cs with
  | nil => rfl
  | cons c cs => simp [longestLine, h.splitLines (List.cons_ne_nil c cs)]

theorem measure_le_iff {bound : Nat} (hlegible : ∀ cs ∈ cells, Legible cs) :
    measure limit cells ≤ bound ↔ ∀ cs ∈ cells, min (width cs + padding) limit ≤ bound := by
  rw [measure, foldl_max_le_iff, List.forall_mem_map]
  simp only [Nat.zero_le, true_and]
  exact forall₂_congr fun cs hcs => by rw [longestLine_of_legible (hlegible cs hcs)]

theorem length_distributeFrom (s : Sharing) (ratios : List Nat) :
    (distributeFrom s ratios).length = ratios.length := by
  induction ratios generalizing s with
  | nil => rfl
  | cons ratio ratios ih => simp [distributeFrom, ih]

theorem Holds.mono {widths' : List Nat} (h : Holds widths filled) (hle : List.Forall₂ (· ≤ ·) widths widths') :
    Holds widths' filled := by
  induction hle generalizing filled with
  | nil => exact h
  | cons hw _ ih =>
    cases h with
    | cons hcells hrest => exact .cons (fun cs hcs => (hcells cs hcs).trans hw) (ih hrest)

theorem le_add_zip (ns ms : List Nat) (h : ns.length = ms.length) :
    List.Forall₂ (· ≤ ·) ns ((ns.zip ms).map fun p => p.1 + p.2) := by
  induction ns generalizing ms with
  | nil => exact .nil
  | cons n ns ih =>
    obtain ⟨m, ms, rfl⟩ := List.exists_cons_of_length_eq_add_one h.symm
    exact .cons (Nat.le_add_right n m) (ih ms (Nat.succ.inj h))

/-- What columns ask for is enough, and no more than what is. -/
theorem holds_asked (hlegible : ∀ c ∈ filled, ∀ cs ∈ c.2, Legible cs) (hne : ∀ c ∈ filled, c.2 ≠ [])
    (h : Holds widths filled) (hlimit : ∀ w ∈ widths, w ≤ limit) :
    Holds (filled.map fun c => max 1 (measure limit c.2)) filled ∧
      List.Forall₂ (· ≤ ·) (filled.map fun c => max 1 (measure limit c.2)) widths := by
  induction h with
  | nil => exact ⟨.nil, .nil⟩
  | @cons w c widths filled hcells _ ih =>
    obtain ⟨hlegible, hlegibles⟩ := List.forall_mem_cons.mp hlegible
    obtain ⟨hne, hnes⟩ := List.forall_mem_cons.mp hne
    obtain ⟨hlimit, hlimits⟩ := List.forall_mem_cons.mp hlimit
    obtain ⟨hholds, hle⟩ := ih hlegibles hnes hlimits
    have hmeasure : ∀ cs ∈ c.2, min (width cs + padding) limit ≤ measure limit c.2 :=
      (measure_le_iff hlegible).mp (Nat.le_refl _)
    refine ⟨.cons (fun cs hcs => ?_) hholds, .cons (Nat.max_le.mpr ⟨?_, ?_⟩) hle⟩
    · have hfit := hcells cs hcs
      have hmin := hmeasure cs hcs
      rw [Nat.min_eq_left (hfit.trans hlimit)] at hmin
      exact hmin.trans (Nat.le_max_right ..)
    · obtain ⟨cs, hcs⟩ := List.exists_mem_of_ne_nil _ hne
      have hfit := hcells cs hcs
      rw [padding] at hfit
      omega
    · exact (measure_le_iff hlegible).mpr fun cs hcs => (Nat.min_le_left ..).trans (hcells cs hcs)

/-- Columns that fit are only made wider. -/
theorem holds_columnWidths (hlegible : ∀ c ∈ filled, ∀ cs ∈ c.2, Legible cs) (hne : ∀ c ∈ filled, c.2 ≠ [])
    (h : Holds widths filled) (hlimit : sumOf widths ≤ limit) :
    Holds (columnWidths limit filled) filled := by
  have hsingle : ∀ w ∈ widths, w ≤ limit :=
    fun w hw => (List.le_sum_of_mem hw).trans hlimit
  obtain ⟨hholds, hle⟩ := holds_asked hlegible hne h hsingle
  have hsum : sumOf (filled.map fun c => max 1 (measure limit c.2)) ≤ limit :=
    hle.sum_le_sum.trans hlimit
  rw [columnWidths]
  simp only [if_neg (Nat.not_lt.mpr hsum)]
  split
  · refine hholds.mono (le_add_zip _ _ ?_)
    rw [distribute, length_distributeFrom]
  · exact hholds

/-- The columns of a table hold its cells when each row fits them. -/
theorem holds_columnCells_iff (hrows : ∀ row ∈ rows, row.length = columns.length) :
    Holds widths (columnCells columns rows) ↔
      Fits widths (titles columns) ∧ ∀ row ∈ rows, Fits widths row := by
  -- The first column holds the first cells of all rows, and the others hold what is left of them.
  induction columns generalizing widths rows with
  | nil =>
    have hempty : ∀ row ∈ rows, row = [] := fun row hrow => List.length_eq_zero_iff.mp (hrows row hrow)
    have hnil : Holds widths (columnCells [] rows) ↔ Fits widths [] := by
      simp [Holds, Fits, columnCells]
    rw [hnil]
    refine ⟨fun h => ⟨h, fun row hrow => ?_⟩, fun h => h.1⟩
    rw [hempty row hrow]
    exact h
  | cons column columns ih =>
    have htail : ∀ row ∈ rows.map List.tail, row.length = columns.length := by
      rintro _ htail
      obtain ⟨row, hrow, rfl⟩ := List.mem_map.mp htail
      rw [List.length_tail, hrows row hrow, List.length_cons, Nat.add_sub_cancel]
    cases widths with
    | nil => exact iff_of_false nofun (fun h => nomatch h.1)
    | cons w widths =>
      have hrow : ∀ row ∈ rows, Fits (w :: widths) row ↔
          (∀ cs, row.head? = some cs → width cs + padding ≤ w) ∧ Fits widths row.tail := by
        intro row hrow
        obtain ⟨cs, rest, rfl⟩ := List.exists_cons_of_length_eq_add_one (hrows row hrow)
        simp [Fits]
      have hcells : (∀ row ∈ rows, Fits (w :: widths) row) ↔
          (∀ cs ∈ rows.filterMap List.head?, width cs + padding ≤ w) ∧
            ∀ row ∈ rows.map List.tail, Fits widths row := by
        rw [forall₂_congr hrow]
        simp only [List.mem_filterMap, List.forall_mem_map]
        exact ⟨fun h => ⟨fun cs ⟨row, hmem, hhead⟩ => (h row hmem).1 cs hhead, fun row hmem => (h row hmem).2⟩,
          fun h row hmem => ⟨fun cs hhead => h.1 cs ⟨row, hmem, hhead⟩, h.2 row hmem⟩⟩
      rw [hcells, columnCells, titles, List.map_cons, Holds, List.forall₂_cons, List.forall_mem_cons, Fits,
        List.forall₂_cons, ← Holds, ← Fits, ← titles, ih htail]
      exact and_and_and_comm

theorem forall_mem_columnCells {P : List Char → Prop} (htitles : ∀ cs ∈ titles columns, P cs)
    (hrows : ∀ row ∈ rows, ∀ cs ∈ row, P cs) :
    ∀ c ∈ columnCells columns rows, c.2 ≠ [] ∧ ∀ cs ∈ c.2, P cs := by
  induction columns generalizing rows with
  | nil => exact nofun
  | cons column columns ih =>
    obtain ⟨htitle, htitles⟩ := List.forall_mem_cons.mp htitles
    have htail : ∀ row ∈ rows.map List.tail, ∀ cs ∈ row, P cs := by
      rintro _ htail cs hcs
      obtain ⟨row, hrow, rfl⟩ := List.mem_map.mp htail
      exact hrows row hrow cs (List.mem_of_mem_tail hcs)
    refine List.forall_mem_cons.mpr
      ⟨⟨List.cons_ne_nil _ _, List.forall_mem_cons.mpr ⟨htitle, fun cs hcs => ?_⟩⟩, ih htitles htail⟩
    obtain ⟨row, hrow, hhead⟩ := List.mem_filterMap.mp hcs
    exact hrows row hrow cs (List.mem_of_head? hhead)

theorem padding_lt_of_fits {row : List (List Char)} (h : Fits widths row) (hpositive : ∀ cs ∈ row, 0 < width cs) :
    ∀ w ∈ widths, padding < w := by
  induction h with
  | nil => exact nofun
  | cons hle _ ih =>
    obtain ⟨hcs, hpositive⟩ := List.forall_mem_cons.mp hpositive
    exact List.forall_mem_cons.mpr ⟨by omega, ih hpositive⟩

/-- A table whose cells fit some columns, which together fit the terminal, is laid out with one line for
each row. -/
theorem tableLines_of_fits {n : Nat} (hsum : sumOf widths + frame ≤ n)
    (htitles : ∀ cs ∈ titles columns, 0 < width cs) (hrows : ∀ row ∈ rows, row.length = columns.length)
    (hlegible : ∀ row ∈ titles columns :: rows, ∀ cs ∈ row, Legible cs)
    (hfits : ∀ row ∈ titles columns :: rows, Fits widths row) :
    ∃ widths', (∀ row ∈ titles columns :: rows, Fits widths' row) ∧
      tableLines n columns rows = sheet widths' (titles columns) rows := by
  obtain ⟨htitle, hlegible⟩ := List.forall_mem_cons.mp hlegible
  have hfilled := forall_mem_columnCells htitle hlegible
  have hholds : Holds widths (columnCells columns rows) :=
    (holds_columnCells_iff hrows).mpr (List.forall_mem_cons.mp hfits)
  let widths' := columnWidths (n - frame) (columnCells columns rows)
  have hholds' : Holds widths' (columnCells columns rows) :=
    holds_columnWidths (fun c hc => (hfilled c hc).2) (fun c hc => (hfilled c hc).1) hholds (by omega)
  obtain ⟨hfitTitles, hfitRows⟩ := (holds_columnCells_iff hrows).mp hholds'
  have hwidths := padding_lt_of_fits hfitTitles htitles
  have hheader := headerLines_of_fits hfitTitles hwidths htitle
  have hbody : rows.flatMap (rowLines (widths'.zip columns)) = rows.map (line widths') := by
    rw [← List.flatMap_singleton' (rows.map _), List.flatMap_map]
    exact List.flatMap_congr fun row hrow =>
      rowLines_of_fits (hfitRows row hrow) (hrows row hrow).symm hwidths (hlegible row hrow)
  refine ⟨widths', List.forall_mem_cons.mpr ⟨hfitTitles, hfitRows⟩, ?_⟩
  simp only [tableLines, sizedColumns, sheet, widths'] at hheader hbody ⊢
  rw [hheader, hbody]
  rfl

end Widths

end ApiLint.Layout
