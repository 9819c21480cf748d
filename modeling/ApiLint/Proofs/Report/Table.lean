import ApiLint.Proofs.Faults
import ApiLint.Proofs.Projection.Annotations
import ApiLint.Proofs.Report.Markup
import ApiLint.Proofs.Text.Utf8
import ApiLint.Report.Table

/-! When a report can be printed on a terminal. Each of its texts has to be readable as markup; texts
without brackets are, and when no half of a pair stands in them either, nothing stops the report. -/

namespace ApiLint

namespace Report

section

variable {emoji : List Char → List Char} {cs : List Char} {m : Markup.Marked}

theorem styleFault?_of_styles {cut : Layout.Cut} (h : ∀ s ∈ m.spans, Style.fault? s.style = none) :
    styleFault? cut m = none := by
  rw [styleFault?, List.findSome?_eq_none_iff]
  intro s hs
  have hmem : s ∈ m.ordered := List.mem_of_mem_filter hs
  rw [Markup.Marked.ordered, List.mem_mergeSort, List.mem_reverse] at hmem
  exact h s hmem

theorem markedLines_of_styles (hread : Markup.read emoji cs = .ok m)
    (h : ∀ s ∈ m.spans, Style.fault? s.style = none) : markedLines emoji cs = .ok (Console.lines m.text) := by
  simp only [markedLines, hread, bind, Except.bind, styleFault?_of_styles h]
  rfl

end

section

variable {emoji : List Char → List Char} {texts : List (List Char)} {marked : List Markup.Marked}

theorem readAll_cons_eq_ok_iff {cs : List Char} : readAll emoji (cs :: texts) = .ok marked ↔
    ∃ m ms, Markup.read emoji cs = .ok m ∧ readAll emoji texts = .ok ms ∧ m :: ms = marked := by
  rw [readAll]
  cases Markup.read emoji cs with
  | error fault => simp
  | ok m => simp [map_eq_ok_iff]

/-- Texts that come out with the same text for each and no spans. -/
theorem readAll_of_plain {shown : List Char → List Char}
    (h : ∀ cs ∈ texts, Markup.read emoji cs = .ok (.plain (shown cs))) :
    readAll emoji texts = .ok (texts.map fun cs => .plain (shown cs)) := by
  induction texts with
  | nil => rfl
  | cons cs texts ih =>
    obtain ⟨hcs, htexts⟩ := List.forall_mem_cons.mp h
    rw [readAll, hcs]
    simp only [ih htexts]
    rfl

end

section

variable {t : Console.Terminal} {document : List Char} {annotations : List Annotation}

theorem standIns_ofChars (plane : Nat) (cs : List Char) : standIns plane (Text.ofChars cs) = cs := by
  rw [standIns, Text.ofChars, List.map_map]
  exact List.map_id cs

theorem restored_self (plane : Nat) (cs : List Char) : restored plane cs cs = Text.ofChars cs := by
  rw [restored, List.zipWith_self, Text.ofChars]
  exact List.map_congr_left fun c _ => if_pos rfl

def WholeMessages (annotations : List Annotation) : Prop :=
  ∀ a ∈ annotations, ∃ cs, a.issue.message = Text.ofChars cs

/-- Stand-ins make no difference where there are no halves. -/
theorem laidOut_of_whole (h : WholeMessages annotations) (plane plane' : Nat) :
    laidOut t plane document annotations = laidOut t plane' document annotations := by
  have hmessages : (annotations.map fun a => standIns plane a.issue.message) =
      annotations.map fun a => standIns plane' a.issue.message := by
    refine List.map_congr_left fun a ha => ?_
    obtain ⟨cs, hcs⟩ := h a ha
    rw [hcs, standIns_ofChars, standIns_ofChars]
  rw [laidOut, laidOut, hmessages]

theorem findingLines_of_whole (h : WholeMessages annotations) :
    findingLines t document annotations =
      (laidOut t firstPlane document annotations).mapError Fault.markup := by
  rw [findingLines, laidOut_of_whole h secondPlane firstPlane]
  cases laidOut t firstPlane document annotations with
  | error fault => rfl
  | ok lines =>
    have hencode : Text.encode .utf8 (Text.ofChars (Console.ended lines)) =
        .ok ((Console.ended lines).flatMap String.utf8EncodeChar) :=
      Text.encodeFrom_ofChars 0 _
    simp only [restored_self, hencode]
    rfl

theorem rowFault?_of_plain {columns : List (Nat × Layout.Column)} {row : List Markup.Marked}
    (h : ∀ m ∈ row, m.spans = []) : rowFault? columns row = none := by
  rw [rowFault?, List.findSome?_eq_none_iff]
  rintro ⟨⟨width, column⟩, m⟩ hmem
  have hm := h m (List.of_mem_zip hmem).2
  simp only [cellFault?]
  split
  · rfl
  · exact styleFault?_of_styles (by simp [hm])

theorem spans_of_mem_rows {codes messages : List Markup.Marked} (hcodes : ∀ m ∈ codes, m.spans = [])
    (hmessages : ∀ m ∈ messages, m.spans = []) :
    ∀ row ∈ rows annotations codes messages, ∀ m ∈ row, m.spans = [] := by
  intro row hrow m hm
  obtain ⟨⟨a, code, message⟩, hmem, rfl⟩ := List.mem_map.mp hrow
  have hpair := (List.of_mem_zip hmem).2
  have hcode := hcodes code (List.of_mem_zip hpair).1
  have hmessage := hmessages message (List.of_mem_zip hpair).2
  simp only [Report.row, List.mem_cons, List.not_mem_nil, or_false] at hm
  rcases hm with rfl | rfl | rfl | rfl
  · rfl
  · rfl
  · exact hcode
  · exact hmessage

/-- When codes and messages are plain, only the title can be in the way. -/
theorem laidOut_of_plain {plane : Nat} {codes messages title : List (List Char)}
    (hcodes : readAll t.emoji (shownTexts t.columns (annotations.map fun a => a.issue.code.toList)) =
      .ok (codes.map .plain))
    (hmessages : readAll t.emoji (shownTexts t.columns
        (annotations.map fun a => standIns plane a.issue.message)) = .ok (messages.map .plain))
    (htitle : titleLines t.emoji document = .ok title) :
    laidOut t plane document annotations = .ok (title ++ Layout.tableLines t.columns columns
      (textsOf (rows annotations (codes.map .plain) (messages.map .plain)))) := by
  have hplain : ∀ texts : List (List Char), ∀ m ∈ texts.map Markup.Marked.plain, m.spans = [] := by
    intro texts
    rw [List.forall_mem_map]
    exact fun _ _ => rfl
  have hnone : ∀ sized, (rows annotations (codes.map .plain) (messages.map .plain)).findSome?
      (rowFault? sized) = none := by
    intro sized
    rw [List.findSome?_eq_none_iff]
    exact fun row hrow => rowFault?_of_plain (spans_of_mem_rows (hplain codes) (hplain messages) row hrow)
  rw [laidOut, hcodes]
  simp only [bind, Except.bind, hmessages, htitle, hnone]
  rfl

def findingTexts (document : List Char) (annotations : List Annotation) : List (List Char) :=
  (annotations.map fun a => a.issue.code.toList) ++
    (annotations.map fun a => standIns firstPlane a.issue.message) ++
    if document.isEmpty then [] else [document]

theorem shownTexts_of_lt (h : Layout.frame + Layout.padding < t.columns) (texts : List (List Char)) :
    shownTexts t.columns texts = texts :=
  if_neg (by omega)

theorem laidOut_of_findingLines {lines : List (List Char)}
    (h : findingLines t document annotations = .ok lines) :
    laidOut t firstPlane document annotations = .ok lines := by
  unfold findingLines at h
  split at h
  · cases h
  · cases h
  · rename_i first others hfirst hothers
    split at h
    · cases h
    · rwa [Except.ok.inj h] at hfirst

end

end Report

namespace Projection

open Report

variable {p : Projection} {document : String} {t : Console.Terminal}

end Projection

end ApiLint
