import ApiLint.Proofs.Report.Literal
import ApiLint.Proofs.Report.Room
import ApiLint.Proofs.Report.Table

/-! When a table of findings shows what they say. On a terminal with room for all cells it does so when
every code, message and document name is literal; otherwise markup takes something away. -/

namespace ApiLint

namespace Report

open Layout (Fits line sheet titles sumOf frame)
open Text (Legible)

def findingCells (a : Annotation) : List (List Char) :=
  [a.location.toList, a.severity.name.toList, a.issue.code.toList, Text.shown a.issue.message]

/-- The lines are a table under a title, with a row for each finding and no cell that is broken. -/
def Shows (document : List Char) (annotations : List Annotation) (lines : List (List Char)) : Prop :=
  ∃ widths, (∀ row ∈ titles columns :: annotations.map findingCells, Fits widths row) ∧
    lines = (if document.isEmpty then [] else [document]) ++
      sheet widths (titles columns) (annotations.map findingCells)

/-- A terminal that is wide enough for every cell. -/
def HasRoom (width : Nat) (annotations : List Annotation) : Prop :=
  ∃ widths, sumOf widths + frame ≤ width ∧
    ∀ row ∈ titles columns :: annotations.map findingCells, Fits widths row

structure LegibleFindings (document : List Char) (annotations : List Annotation) : Prop where
  document : Legible document
  code : ∀ a ∈ annotations, Legible a.issue.code.toList
  message : ∀ a ∈ annotations, ∃ cs, a.issue.message = Text.ofChars cs ∧ Legible cs

section

variable {t : Console.Terminal} {emoji : List Char → List Char} {document : List Char}
  {annotations : List Annotation}

theorem legible_location (a : Annotation) : Legible a.location.toList := by
  have hdigits : ∀ n : Nat, Legible (digits n) :=
    fun n d hd => Text.isPrintable_of_isDigit (isDigit_of_mem_digits d hd)
  have hint : ∀ n : Int, Legible (toString n).toList := by
    intro n
    rw [toList_toString_int]
    split
    · exact hdigits _
    · exact List.forall_mem_cons.mpr ⟨by decide, hdigits _⟩
  have hcolon : Legible ":".toList := by decide
  simp only [String.toList_append, Annotation.location]
  exact List.forall_mem_append.mpr ⟨List.forall_mem_append.mpr ⟨hint _, hcolon⟩, hint _⟩

theorem legible_severity (s : DisplaySeverity) : Legible s.name.toList := by
  cases s <;> decide

theorem legible_titles : ∀ cs ∈ titles columns, Legible cs := by
  decide

theorem width_titles : ∀ cs ∈ titles columns, 0 < Text.width cs := by
  decide +kernel

theorem LegibleFindings.cells (h : LegibleFindings document annotations) :
    ∀ a ∈ annotations, ∀ cs ∈ findingCells a, Legible cs := by
  intro a ha
  obtain ⟨cs, hmessage, hcs⟩ := h.message a ha
  have hshown : Legible (Text.shown a.issue.message) := by
    rw [hmessage, Text.shown_ofChars]
    exact hcs
  simp only [findingCells, List.forall_mem_cons]
  exact ⟨legible_location a, legible_severity _, h.code a ha, hshown, fun _ hmem => absurd hmem List.not_mem_nil⟩

theorem LegibleFindings.whole (h : LegibleFindings document annotations) : WholeMessages annotations := by
  intro a ha
  obtain ⟨cs, hcs, -⟩ := h.message a ha
  exact ⟨cs, hcs⟩

theorem LegibleFindings.messages (h : LegibleFindings document annotations) :
    (annotations.map fun a => standIns firstPlane a.issue.message) =
      annotations.map fun a => Text.shown a.issue.message := by
  refine List.map_congr_left fun a ha => ?_
  obtain ⟨cs, hcs, -⟩ := h.message a ha
  rw [hcs, standIns_ofChars, Text.shown_ofChars]

/-- The texts of legible findings stand in their cells. -/
theorem LegibleFindings.texts (h : LegibleFindings document annotations) :
    findingTexts document annotations = (annotations.map fun a => a.issue.code.toList) ++
      (annotations.map fun a => Text.shown a.issue.message) ++ if document.isEmpty then [] else [document] := by
  rw [findingTexts, h.messages]

theorem LegibleFindings.of_mem (h : LegibleFindings document annotations) :
    ∀ cs ∈ findingTexts document annotations, Legible cs := by
  have hcell : ∀ a ∈ annotations, Legible a.issue.code.toList ∧ Legible (Text.shown a.issue.message) := by
    intro a ha
    have hcells := h.cells a ha
    simp only [findingCells, List.forall_mem_cons] at hcells
    exact ⟨hcells.2.2.1, hcells.2.2.2.1⟩
  rw [h.texts, List.forall_mem_append, List.forall_mem_append, List.forall_mem_map, List.forall_mem_map]
  refine ⟨⟨fun a ha => (hcell a ha).1, fun a ha => (hcell a ha).2⟩, ?_⟩
  split
  · exact fun _ hmem => absurd hmem List.not_mem_nil
  · exact List.forall_mem_singleton.mpr h.document

def Reads (emoji : List Char → List Char) (a : Annotation) (row : List (List Char)) : Prop :=
  ∃ code message, Markup.read emoji a.issue.code.toList = .ok code ∧
    Markup.read emoji (Text.shown a.issue.message) = .ok message ∧
    row = [a.location.toList, a.severity.name.toList, code.text, message.text]

def FreeFinding (emoji : List Char → List Char) (a : Annotation) : Prop :=
  Markup.FreeOf emoji a.issue.code.toList ∧ Markup.FreeOf emoji (Text.shown a.issue.message)

theorem forall₂_reads {codes messages : List Markup.Marked}
    (hcodes : readAll emoji (annotations.map fun a => a.issue.code.toList) = .ok codes)
    (hmessages : readAll emoji (annotations.map fun a => Text.shown a.issue.message) = .ok messages) :
    List.Forall₂ (Reads emoji) annotations (textsOf (rows annotations codes messages)) := by
  induction annotations generalizing codes messages with
  | nil => exact .nil
  | cons a annotations ih =>
    obtain ⟨code, codes, hcode, hcodes', rfl⟩ := readAll_cons_eq_ok_iff.mp hcodes
    obtain ⟨message, messages, hmessage, hmessages', rfl⟩ := readAll_cons_eq_ok_iff.mp hmessages
    exact .cons ⟨code, message, hcode, hmessage, rfl⟩ (ih hcodes' hmessages')

/-- Reading makes no cell wider, and adds no character to it. -/
theorem Reads.sublists {a : Annotation} {row : List (List Char)} (h : Reads emoji a row)
    (hfree : FreeFinding emoji a) : List.Forall₂ List.Sublist row (findingCells a) := by
  obtain ⟨code, message, hcode, hmessage, rfl⟩ := h
  exact .cons (.refl _) (.cons (.refl _) (.cons (Markup.text_sublist_of_read hfree.1 hcode)
    (.cons (Markup.text_sublist_of_read hfree.2 hmessage) .nil)))

theorem legible_of_sublists {row row' : List (List Char)} (h : List.Forall₂ List.Sublist row row')
    (hlegible : ∀ cs ∈ row', Legible cs) : ∀ cs ∈ row, Legible cs := by
  induction h with
  | nil => exact fun _ hmem => absurd hmem List.not_mem_nil
  | cons hsub _ ih =>
    obtain ⟨hcs, hrest⟩ := List.forall_mem_cons.mp hlegible
    exact List.forall_mem_cons.mpr ⟨hcs.of_subset hsub.subset, ih hrest⟩

theorem fits_of_sublists {row row' : List (List Char)} {widths : List Nat}
    (h : List.Forall₂ List.Sublist row row') (hlegible : ∀ cs ∈ row', Legible cs)
    (hfits : Fits widths row') : Fits widths row := by
  induction h generalizing widths with
  | nil => exact hfits
  | cons hsub _ ih =>
    obtain ⟨hcs, hrest⟩ := List.forall_mem_cons.mp hlegible
    cases hfits with
    | cons hle hfits =>
      have hwidth := Text.width_le_of_sublist hsub hcs.joiner_not_mem
      exact .cons (by omega) (ih hrest hfits)

theorem exists_sublists {cells : List (List (List Char))}
    (hfree : ∀ a ∈ annotations, FreeFinding emoji a) (h : List.Forall₂ (Reads emoji) annotations cells) :
    ∀ row ∈ cells, ∃ a ∈ annotations, List.Forall₂ List.Sublist row (findingCells a) := by
  induction h with
  | nil => exact fun _ hmem => absurd hmem List.not_mem_nil
  | @cons a row annotations _ hread _ ih =>
    obtain ⟨ha, hfree⟩ := List.forall_mem_cons.mp hfree
    refine List.forall_mem_cons.mpr ⟨⟨a, List.mem_cons_self, hread.sublists ha⟩, fun row hrow => ?_⟩
    obtain ⟨a', ha', hsub⟩ := ih hfree row hrow
    exact ⟨a', List.mem_cons_of_mem a ha', hsub⟩

/-- Where there is room for the findings, there is room for what is read of them. -/
theorem tableLines_of_reads {width : Nat} {cells : List (List (List Char))}
    (hlegible : LegibleFindings document annotations) (hfree : ∀ a ∈ annotations, FreeFinding emoji a)
    (hroom : HasRoom width annotations) (h : List.Forall₂ (Reads emoji) annotations cells) :
    ∃ widths, (∀ row ∈ titles columns :: cells, Fits widths row) ∧
      Layout.tableLines width columns cells = sheet widths (titles columns) cells := by
  obtain ⟨widths, hsum, hfits⟩ := hroom
  obtain ⟨htitles, hfits⟩ := List.forall_mem_cons.mp hfits
  have hread := exists_sublists hfree h
  refine Layout.tableLines_of_fits hsum width_titles (fun row hrow => ?_)
    (List.forall_mem_cons.mpr ⟨legible_titles, fun row hrow => ?_⟩)
    (List.forall_mem_cons.mpr ⟨htitles, fun row hrow => ?_⟩)
  · obtain ⟨a, -, hsub⟩ := hread row hrow
    exact hsub.length_eq
  · obtain ⟨a, ha, hsub⟩ := hread row hrow
    exact legible_of_sublists hsub (hlegible.cells a ha)
  · obtain ⟨a, ha, hsub⟩ := hread row hrow
    exact fits_of_sublists hsub (hlegible.cells a ha) (hfits _ (List.mem_map_of_mem ha))

theorem marks_cell (w : Nat) (cs : List Char) : Markup.marks (Layout.cell w cs) = Markup.marks cs := by
  have hspace : Markup.isMark ' ' = false := rfl
  have hspaces : ∀ n, Markup.marks (List.replicate n ' ') = 0 := fun n => by
    rw [Markup.marks, List.countP_replicate, hspace]
    rfl
  rw [Layout.cell, List.cons_append, Markup.marks_cons_of_not hspace, Layout.fill]
  simp [Markup.marks_cons_of_not hspace, hspaces]

theorem marks_line {widths : List Nat} {row : List (List Char)} (h : widths.length = row.length) :
    Markup.marks (line widths row) = sumOf (row.map Markup.marks) := by
  have hspace : Markup.isMark ' ' = false := rfl
  have hcells : ∀ cells : List (List Char),
      Markup.marks (List.intercalate [' '] cells) = sumOf (cells.map Markup.marks) := by
    intro cells
    induction cells with
    | nil => rfl
    | cons cs rest ih =>
      cases rest with
      | nil => simp [sumOf]
      | cons ds rest =>
        rw [List.intercalate_cons_cons, Markup.marks_append, Markup.marks_append, ih]
        simp [Markup.marks_cons_of_not hspace, sumOf]
  have hsnd : (widths.zip row).map (Markup.marks ∘ fun p => Layout.cell p.1 p.2) =
      ((widths.zip row).map Prod.snd).map Markup.marks := by
    rw [List.map_map]
    exact List.map_congr_left fun p _ => marks_cell p.1 p.2
  rw [line, Layout.rowLine, List.cons_append, Markup.marks_cons_of_not hspace, Markup.marks_append, hcells,
    List.map_map, hsnd, List.map_snd_zip h.ge, Markup.marks_cons_of_not hspace, Markup.marks_nil,
    Nat.add_zero]

/-- Rows that look alike have as many marks as the findings, so that none was taken away. -/
theorem isLiteral_of_lines {widths widths' : List Nat} {cells : List (List (List Char))}
    (hfree : ∀ a ∈ annotations, FreeFinding emoji a) (h : List.Forall₂ (Reads emoji) annotations cells)
    (hwidths : widths.length = columns.length) (hwidths' : widths'.length = columns.length)
    (heq : (annotations.map findingCells).map (line widths) = cells.map (line widths')) :
    ∀ a ∈ annotations, Markup.isLiteral a.issue.code.toList = true ∧
      Markup.isLiteral (Text.shown a.issue.message) = true := by
  induction h with
  | nil => exact fun _ hmem => absurd hmem List.not_mem_nil
  | @cons a row annotations cells hread _ ih =>
    simp only [List.map_cons, List.cons.injEq] at heq
    obtain ⟨hline, hlines⟩ := heq
    obtain ⟨code, message, hcode, hmessage, rfl⟩ := hread
    obtain ⟨⟨hfreeCode, hfreeMessage⟩, hfree⟩ := List.forall_mem_cons.mp hfree
    have hmarks := congrArg Markup.marks hline
    rw [marks_line hwidths, marks_line hwidths'] at hmarks
    have hcodes := Markup.marks_le_of_sublist (Markup.text_sublist_of_read hfreeCode hcode)
    have hmessages := Markup.marks_le_of_sublist (Markup.text_sublist_of_read hfreeMessage hmessage)
    simp only [findingCells, List.map_cons, List.map_nil, sumOf, List.foldr_cons, List.foldr_nil] at hmarks
    exact List.forall_mem_cons.mpr ⟨⟨Markup.isLiteral_of_read hfreeCode hcode (by omega),
      Markup.isLiteral_of_read hfreeMessage hmessage (by omega)⟩, ih hfree hlines⟩

theorem map_line_of_sheet {widths widths' : List Nat} {header : List (List Char)}
    {rows rows' : List (List (List Char))} (h : sheet widths header rows = sheet widths' header rows') :
    rows.map (line widths) = rows'.map (line widths') := by
  simp only [sheet, List.cons_append, List.cons.injEq] at h
  exact List.append_inj_left' h.2.2.2 rfl

theorem lt_of_hasRoom {width : Nat} (h : HasRoom width annotations) :
    Layout.frame + Layout.padding < width := by
  obtain ⟨widths, hsum, hfits⟩ := h
  have hheader := (List.forall_mem_cons.mp hfits).1
  have hlength : widths.length = 4 := hheader.length_eq
  obtain ⟨w, hw⟩ := List.exists_mem_of_length_pos (by omega : 0 < widths.length)
  have hpadding := Layout.padding_lt_of_fits hheader width_titles w hw
  have hle : w ≤ sumOf widths := List.le_sum_of_mem hw
  omega

theorem titleLines_eq_ok {title : List (List Char)} (hlegible : Legible document)
    (hfree : document ≠ [] → Markup.FreeOf emoji document) (h : titleLines emoji document = .ok title) :
    (document.isEmpty = true ∧ title = []) ∨
      (document.isEmpty = false ∧ ∃ m, Markup.read emoji document = .ok m ∧ title = [m.text]) := by
  unfold titleLines at h
  split at h
  · rename_i hempty
    exact Or.inl ⟨hempty, (Except.ok.inj h).symm⟩
  · rename_i hempty
    obtain ⟨m, hm, hlines⟩ := bind_eq_ok_iff.mp h
    have hsub := Markup.text_sublist_of_read (hfree (by simpa using hempty)) hm
    have htextLegible := hlegible.of_subset hsub.subset
    refine Or.inr ⟨Bool.eq_false_iff.mpr hempty, m, hm, ?_⟩
    split at hlines
    · cases hlines
    · rw [← htextLegible.lines]
      exact (Except.ok.inj hlines).symm

/-- No emoji code stands in the texts of findings. -/
def FreeFindings (emoji : List Char → List Char) (document : List Char) (annotations : List Annotation) :
    Prop :=
  ∀ cs ∈ findingTexts document annotations, Markup.FreeOf emoji cs

theorem LegibleFindings.free (h : LegibleFindings document annotations)
    (hfree : FreeFindings emoji document annotations) :
    (∀ a ∈ annotations, FreeFinding emoji a) ∧ (document ≠ [] → Markup.FreeOf emoji document) := by
  rw [FreeFindings, h.texts, List.forall_mem_append, List.forall_mem_append, List.forall_mem_map,
    List.forall_mem_map] at hfree
  obtain ⟨⟨hcodes, hmessages⟩, hdocument⟩ := hfree
  refine ⟨fun a ha => ⟨hcodes a ha, hmessages a ha⟩, fun hne => hdocument document ?_⟩
  simp [hne]

theorem isLiteral_of_shows {lines : List (List Char)} (hlegible : LegibleFindings document annotations)
    (hfree : FreeFindings t.emoji document annotations) (hroom : HasRoom t.columns annotations)
    (h : findingLines t document annotations = .ok lines) (hshows : Shows document annotations lines) :
    ∀ cs ∈ findingTexts document annotations, Markup.isLiteral cs = true := by
  obtain ⟨hfree, hfreeTitle⟩ := hlegible.free hfree
  have h := laidOut_of_findingLines h
  simp only [laidOut, shownTexts_of_lt (lt_of_hasRoom hroom), hlegible.messages, bind_eq_ok_iff] at h
  obtain ⟨codes, hcodes, messages, hmessages, title, htitle, heq⟩ := h
  have hread := forall₂_reads hcodes hmessages
  obtain ⟨widths', hfits', htable⟩ := tableLines_of_reads hlegible hfree hroom hread
  obtain ⟨widths, hfits, hlines⟩ := hshows
  have hall : title ++ sheet widths' (titles columns) (textsOf (rows annotations codes messages)) =
      (if document.isEmpty then [] else [document]) ++
        sheet widths (titles columns) (annotations.map findingCells) := by
    split at heq
    · cases heq
    · rw [← htable, ← hlines]
      exact Except.ok.inj heq
  have htitles : title = (if document.isEmpty then [] else [document]) ∧
      ∀ cs ∈ (if document.isEmpty then [] else [document]), Markup.isLiteral cs = true := by
    have hsame : title.length = (if document.isEmpty then [] else [document]).length →
        title = (if document.isEmpty then [] else [document]) := fun hlength => (List.append_inj hall hlength).1
    rcases titleLines_eq_ok hlegible.document hfreeTitle htitle with ⟨hempty, rfl⟩ | ⟨hempty, m, hm, rfl⟩
    · simp [hempty]
    · simp only [hempty, Bool.false_eq_true, if_false] at hsame ⊢
      have htext := hsame rfl
      have hfreeDocument := hfreeTitle (by simpa using hempty)
      refine ⟨htext, List.forall_mem_singleton.mpr (Markup.isLiteral_of_read hfreeDocument hm ?_)⟩
      rw [List.singleton_inj.mp htext]
  rw [htitles.1] at hall
  have hcells := isLiteral_of_lines hfree hread (List.forall_mem_cons.mp hfits).1.length_eq
    (List.forall_mem_cons.mp hfits').1.length_eq (map_line_of_sheet (List.append_cancel_left hall)).symm
  rw [hlegible.texts, List.forall_mem_append, List.forall_mem_append, List.forall_mem_map,
    List.forall_mem_map]
  exact ⟨⟨fun a ha => (hcells a ha).1, fun a ha => (hcells a ha).2⟩, htitles.2⟩

theorem textsOf_plain (annotations : List Annotation) :
    textsOf (rows annotations ((annotations.map fun a => a.issue.code.toList).map .plain)
        ((annotations.map fun a => Text.shown a.issue.message).map .plain)) =
      annotations.map findingCells := by
  induction annotations with
  | nil => rfl
  | cons a annotations ih => exact congrArg (findingCells a :: ·) ih

theorem shows_of_isLiteral (hlegible : LegibleFindings document annotations)
    (hfree : FreeFindings t.emoji document annotations) (hroom : HasRoom t.columns annotations)
    (h : ∀ cs ∈ findingTexts document annotations, Markup.isLiteral cs = true) :
    ∃ lines, findingLines t document annotations = .ok lines ∧ Shows document annotations lines := by
  have hshown : ∀ texts, shownTexts t.columns texts = texts := shownTexts_of_lt (lt_of_hasRoom hroom)
  have hread : ∀ cs ∈ findingTexts document annotations, Markup.read t.emoji cs = .ok (.plain cs) :=
    fun cs hcs => Markup.read_of_isLiteral (hfree cs hcs) (hlegible.of_mem cs hcs) (h cs hcs)
  rw [hlegible.texts, List.forall_mem_append, List.forall_mem_append] at hread
  obtain ⟨⟨hcodes, hmessages⟩, htitle⟩ := hread
  have hreadCodes := readAll_of_plain hcodes
  have hreadMessages := readAll_of_plain hmessages
  obtain ⟨widths, hfits, htable⟩ :=
    tableLines_of_reads hlegible (hlegible.free hfree).1 hroom (forall₂_reads hreadCodes hreadMessages)
  have htitleLines : titleLines t.emoji document = .ok (if document.isEmpty then [] else [document]) := by
    rw [titleLines]
    split
    · rfl
    · rename_i hempty
      rw [if_neg hempty] at htitle
      have hspans : ∀ s ∈ (Markup.Marked.plain document).spans, Style.fault? s.style = none :=
        fun _ hmem => absurd hmem List.not_mem_nil
      rw [markedLines_of_styles (htitle document List.mem_cons_self) hspans]
      exact congrArg Except.ok hlegible.document.lines
  rw [textsOf_plain] at hfits htable
  have hcodes' : readAll t.emoji (shownTexts t.columns (annotations.map fun a => a.issue.code.toList)) =
      .ok ((annotations.map fun a => a.issue.code.toList).map .plain) := by
    rw [hshown]
    exact hreadCodes
  have hmessages' : readAll t.emoji (shownTexts t.columns
      (annotations.map fun a => standIns firstPlane a.issue.message)) =
      .ok ((annotations.map fun a => Text.shown a.issue.message).map .plain) := by
    rw [hshown, hlegible.messages]
    exact hreadMessages
  refine ⟨_, ?_, widths, hfits, rfl⟩
  rw [findingLines_of_whole hlegible.whole, laidOut_of_plain hcodes' hmessages' htitleLines, textsOf_plain,
    htable]
  rfl

end

end Report

namespace Projection

open Report
open Text (Legible)

variable {p : Projection} {document : String} {t : Console.Terminal}

theorem renderTable_eq_findingLines (hnotice : p.notice = none) (hfindings : p.annotations ≠ [])
    (hroom : HasRoom t.columns p.annotations) :
    p.renderTable document t = (findingLines t document.toList p.annotations).map fun lines =>
      lines ++ (summary p.annotations).toList :: skippedLines p.skipped := by
  have hwidth := lt_of_hasRoom hroom
  have hzero : t.columns ≠ 0 := by omega
  have hempty : p.annotations.isEmpty = false := by simpa using hfindings
  simp [renderTable, hnotice, hempty, hzero]

/-- The report is the table of the findings with the summary below it. -/
def ShowsFindings (p : Projection) (document : String) (t : Console.Terminal) : Prop :=
  ∃ lines, p.renderTable document t =
      .ok (lines ++ (summary p.annotations).toList :: skippedLines p.skipped) ∧
    Shows document.toList p.annotations lines

theorem ShowsFindings.isLiteral (h : p.ShowsFindings document t) (hnotice : p.notice = none)
    (hfindings : p.annotations ≠ []) (hlegible : LegibleFindings document.toList p.annotations)
    (hfree : FreeFindings t.emoji document.toList p.annotations) (hroom : HasRoom t.columns p.annotations) :
    ∀ cs ∈ findingTexts document.toList p.annotations, Markup.isLiteral cs = true := by
  obtain ⟨lines, hrender, hshows⟩ := h
  rw [renderTable_eq_findingLines hnotice hfindings hroom] at hrender
  obtain ⟨lines', hlines, heq⟩ := map_eq_ok_iff.mp hrender
  obtain rfl := List.append_cancel_right heq
  exact isLiteral_of_shows hlegible hfree hroom hlines hshows

/-- On a terminal with room for them, findings of printable characters without emoji codes are shown
character for character exactly when no code, message or document name has a bracket that begins a tag or
stands behind a backslash. -/
theorem renderTable_shows_iff (hnotice : p.notice = none) (hfindings : p.annotations ≠ [])
    (hlegible : LegibleFindings document.toList p.annotations)
    (hfree : FreeFindings t.emoji document.toList p.annotations) (hroom : HasRoom t.columns p.annotations) :
    p.ShowsFindings document t ↔
      ∀ cs ∈ findingTexts document.toList p.annotations, Markup.isLiteral cs = true := by
  constructor
  · intro h
    exact h.isLiteral hnotice hfindings hlegible hfree hroom
  · intro h
    obtain ⟨lines, hlines, hshows⟩ := shows_of_isLiteral hlegible hfree hroom h
    refine ⟨lines, ?_, hshows⟩
    rw [renderTable_eq_findingLines hnotice hfindings hroom, hlines]
    rfl

def oneFinding (message : String) : Projection :=
  ⟨[Issue.annotation ⟨"c", Text.ofString message, .error, ⟨⟨0, 0⟩, ⟨0, 1⟩⟩, some 0, [], none⟩ ⟨0, 1⟩], none, []⟩

theorem legible_oneFinding {message : String} (h : Legible message.toList) :
    LegibleFindings "openapi.yaml".toList (oneFinding message).annotations where
  document := by decide
  code := List.forall_mem_singleton.mpr (show Legible "c".toList by decide)
  message := List.forall_mem_singleton.mpr ⟨_, rfl, h⟩

theorem renderTable_shows_parentheses :
    let p := oneFinding "expected (string)"
    let t : Console.Terminal := ⟨80, fun cs => if cs = ":smile:".toList then ['😄'] else cs⟩
    (p.notice = none ∧ p.annotations ≠ [] ∧ LegibleFindings "openapi.yaml".toList p.annotations ∧
      FreeFindings t.emoji "openapi.yaml".toList p.annotations ∧ HasRoom t.columns p.annotations) ∧
        p.ShowsFindings "openapi.yaml" t := by
  intro p t
  have hfindings : p.annotations ≠ [] := List.cons_ne_nil _ _
  have hlegible := legible_oneFinding (show Legible "expected (string)".toList by decide)
  have hplain : ∀ cs ∈ findingTexts "openapi.yaml".toList p.annotations, '[' ∉ cs ∧ t.emoji cs = cs := by
    decide
  have hfree : FreeFindings t.emoji "openapi.yaml".toList p.annotations :=
    fun cs hcs => Markup.freeOf_of_not_mem (hplain cs hcs).1 (hplain cs hcs).2
  have hroom : HasRoom t.columns p.annotations := ⟨[10, 10, 6, 19], by decide, by decide +kernel⟩
  exact ⟨⟨rfl, hfindings, hlegible, hfree, hroom⟩,
    (renderTable_shows_iff rfl hfindings hlegible hfree hroom).mpr (by decide +kernel)⟩

/-- A word in brackets is read as a tag and not shown. -/
theorem renderTable_hides_brackets :
    let p := oneFinding "expected [string]"
    let t : Console.Terminal := ⟨80, id⟩
    (p.notice = none ∧ p.annotations ≠ [] ∧ LegibleFindings "openapi.yaml".toList p.annotations ∧
      FreeFindings t.emoji "openapi.yaml".toList p.annotations ∧ HasRoom t.columns p.annotations) ∧
        ¬ p.ShowsFindings "openapi.yaml" t := by
  intro p t
  have hfindings : p.annotations ≠ [] := List.cons_ne_nil _ _
  have hlegible := legible_oneFinding (show Legible "expected [string]".toList by decide)
  have hfree : FreeFindings t.emoji "openapi.yaml".toList p.annotations := fun _ _ _ _ _ _ => rfl
  have hroom : HasRoom t.columns p.annotations := ⟨[10, 10, 6, 19], by decide, by decide +kernel⟩
  refine ⟨⟨rfl, hfindings, hlegible, hfree, hroom⟩, fun h => ?_⟩
  exact absurd (h.isLiteral rfl hfindings hlegible hfree hroom) (by decide +kernel)

end Projection

end ApiLint
