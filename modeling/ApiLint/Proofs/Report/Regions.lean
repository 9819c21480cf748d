import ApiLint.Proofs.Projection.Annotations
import ApiLint.Proofs.Report.Sarif

/-! The regions of a report for analysis tools, which repeat the places that a tool gave. A range that has
a span lies in the text, so that every region in a report does, and one that lies there is in it. -/

namespace ApiLint

/-- A text has at most one line more than it has characters. -/
theorem LineIndex.DividesFrom.length_lines_le {cs : List Char} {start : Nat} {index : LineIndex}
    (h : DividesFrom cs start index) : start + index.lines.length ≤ cs.length + 1 := by
  obtain ⟨line, rest⟩ := index
  induction rest generalizing start line with
  | nil =>
    have := h.start_le
    simp only [lines, List.length_singleton]
    omega
  | cons next rest ih =>
    obtain ⟨hs, ho, _, ⟨hlt, _⟩, hr⟩ := dividesFrom_cons.mp h
    obtain ⟨begin, hb⟩ := Int.eq_ofNat_of_zero_le (show 0 ≤ next.start by omega)
    rw [hb] at hr
    have := ih next hr
    simp only [lines, List.length_cons] at this ⊢
    omega

namespace Sarif

/-- A column of a line, both counted from one: a character of its content, or the place behind it. -/
def IsColumn (cs : List Char) (line column : Int) : Prop :=
  ∃ l, (LineIndex.ofChars cs).lines[(line - 1).toNat]? = some l ∧
    1 ≤ column ∧ column ≤ (cut cs l.start l.stop).length + 1

/-- A region lies in a text, and its end does not come before its start. -/
structure Region.Inside (cs : List Char) (r : Region) : Prop where
  one_le_startLine : 1 ≤ r.startLine
  startLine_le_endLine : r.startLine ≤ r.endLine
  endLine_le_count : r.endLine ≤ (LineIndex.ofChars cs).count
  startColumn : IsColumn cs r.startLine r.startColumn
  endColumn : IsColumn cs r.endLine r.endColumn
  startColumn_le_endColumn : r.startLine = r.endLine → r.startColumn ≤ r.endColumn

section

variable {cs : List Char} {p : Position}

theorem within_iff_isColumn :
    p.Within cs ↔ 1 ≤ p.line + 1 ∧ IsColumn cs (p.line + 1) (p.character + 1) := by
  have hline : p.line + 1 - 1 = p.line := by omega
  rw [Position.Within, IsColumn, hline]
  constructor
  · rintro ⟨hl, hc, line, hget, hle⟩
    exact ⟨by omega, line, hget, by omega, by omega⟩
  · rintro ⟨hl, line, hget, hc, hle⟩
    exact ⟨by omega, by omega, line, hget, by omega⟩

theorem inside_ofRange_iff {r : Range} :
    (Region.ofRange r).Inside cs ↔
      r.start.Within cs ∧ r.stop.Within cs ∧ ¬ r.stop.Before r.start := by
  rw [Position.Before]
  constructor
  · intro h
    have hlines : r.start.line + 1 ≤ r.stop.line + 1 := h.startLine_le_endLine
    have hfirst : 1 ≤ r.start.line + 1 := h.one_le_startLine
    have hcolumns : r.start.line + 1 = r.stop.line + 1 → r.start.character + 1 ≤ r.stop.character + 1 :=
      h.startColumn_le_endColumn
    refine ⟨within_iff_isColumn.mpr ⟨hfirst, h.startColumn⟩,
      within_iff_isColumn.mpr ⟨by omega, h.endColumn⟩, by omega⟩
  · rintro ⟨hstart, hstop, hnot⟩
    obtain ⟨hfirst, hstartColumn⟩ := within_iff_isColumn.mp hstart
    obtain ⟨_, hstopColumn⟩ := within_iff_isColumn.mp hstop
    have hcount := line_lt_count hstop
    exact ⟨hfirst, by simp only [Region.ofRange]; omega, by simp only [Region.ofRange]; omega,
      hstartColumn, hstopColumn, by simp only [Region.ofRange]; omega⟩

theorem IsColumn.le_length {line column : Int} (h : IsColumn cs line column) : column ≤ cs.length + 1 := by
  obtain ⟨l, _, _, hle⟩ := h
  have hcut : (cut cs l.start l.stop).length ≤ cs.length := by
    simp only [cut, List.length_drop, List.length_take]
    omega
  omega

/-- The numbers of a region in a text are no greater than the number of its characters and one more. -/
theorem Region.Inside.shortNumbers {r : Region} (h : r.Inside cs)
    (hlength : cs.length + 1 < 10 ^ longestInteger) : r.ShortNumbers := by
  have hd : LineIndex.DividesFrom cs (0 : Nat) (LineIndex.ofChars cs) := LineIndex.divides_ofChars cs
  have hlines := hd.length_lines_le
  obtain ⟨hfirst, horder, hcount, hstart, hstop, _⟩ := h
  rw [LineIndex.count] at hcount
  have hshort : ∀ n : Int, 1 ≤ n → n ≤ cs.length + 1 → Short n := by
    intro n hn hle
    have hnat : n.natAbs ≤ cs.length + 1 := by omega
    exact hnat.trans_lt hlength
  have hstartColumn : 1 ≤ r.startColumn := hstart.elim fun _ hc => hc.2.1
  have hendColumn : 1 ≤ r.endColumn := hstop.elim fun _ hc => hc.2.1
  exact ⟨hshort _ hfirst (by omega), hshort _ hstartColumn hstart.le_length,
    hshort _ (by omega) (by omega), hshort _ hendColumn hstop.le_length⟩

end

/-- The results with a region are those of annotations. -/
theorem mem_regions_iff {p : Projection} {region : Region} :
    (∃ result ∈ results p, result.region = some region) ↔
      ∃ a ∈ p.annotations, Region.ofRange a.issue.range = region := by
  constructor
  · rintro ⟨result, hresult, hregion⟩
    rcases List.mem_append.mp hresult with hresult | hresult
    · obtain ⟨a, ha, rfl⟩ := List.mem_map.mp hresult
      exact ⟨a, ha, Option.some.inj hregion⟩
    · obtain ⟨notice, -, rfl⟩ := List.mem_map.mp hresult
      cases hregion
  · rintro ⟨a, ha, rfl⟩
    exact ⟨_, List.mem_append_left _ (List.mem_map_of_mem ha), rfl⟩

/-- The report of issues laid onto a text has the regions that lie in the text and no others: those of all
issues with such a range, when the format is known. -/
theorem render_regions_inside (cs : List Char) (issues : List Issue) (document : String)
    (toolVersion : Option String) :
    let p := Projection.ofIssues (LineIndex.ofChars cs).lookup issues
    ∃ (v : Value) (rules : List Rule) (results : List Result),
      (render p document toolVersion).toList = Json.write v ∧ ofValue? v = some (rules, results) ∧
      (∀ result ∈ results, ∀ region, result.region = some region → region.Inside cs) ∧
      (∀ region : Region, region.Inside cs →
        ((∃ result ∈ results, result.region = some region) ↔
          (¬ ∃ i ∈ issues, i.code = "unrecognized-format") ∧
            ∃ i ∈ issues, Region.ofRange i.range = region)) ∧
      ((∀ i ∈ issues, i.message.IsWhole) → cs.length + 1 < 10 ^ longestInteger →
        Json.read (render p document toolVersion).toList = .ok v) := by
  intro p
  have hwritten : (render p document toolVersion).toList = Json.write (toValue p document toolVersion) :=
    String.toList_ofList
  have hregions : ∀ region : Region, (∃ result ∈ results p, result.region = some region) ↔
      (¬ ∃ i ∈ issues, i.code = "unrecognized-format") ∧
        ∃ i ∈ issues, Region.ofRange i.range = region ∧ region.Inside cs := by
    intro region
    simp only [mem_regions_iff, p, Projection.mem_annotations_iff]
    constructor
    · rintro ⟨_, ⟨hknown, i, hi, span, hspan, rfl⟩, rfl⟩
      exact ⟨hknown, i, hi, rfl, inside_ofRange_iff.mpr (Range.exists_span_iff.mp ⟨span, hspan⟩)⟩
    · rintro ⟨hknown, i, hi, rfl, hinside⟩
      obtain ⟨span, hspan⟩ := Range.exists_span_iff.mpr (inside_ofRange_iff.mp hinside)
      exact ⟨i.annotation span, ⟨hknown, i, hi, span, hspan, rfl⟩, rfl⟩
  refine ⟨_, _, _, hwritten, ofValue?_toValue p document toolVersion, ?_, ?_, fun hwhole hlength => ?_⟩
  · intro result hresult region hregion
    obtain ⟨-, i, -, -, hinside⟩ := (hregions region).mp ⟨result, hresult, hregion⟩
    exact hinside
  · intro region hinside
    rw [hregions]
    simp only [hinside, and_true]
  · rw [hwritten]
    have hrestorable : Json.Restorable (981 + 9) (toValue p document toolVersion) := by
      refine restorable_toValue document toolVersion fun a ha => ?_
      obtain ⟨-, i, -, -, hinside⟩ := (hregions _).mp (mem_regions_iff.mpr ⟨a, ha, rfl⟩)
      obtain ⟨-, i, hi, span, -, rfl⟩ := Projection.mem_annotations_iff.mp ha
      exact ⟨hwhole i hi, hinside.shortNumbers hlength⟩
    exact (Json.read_write hrestorable).2

end Sarif

end ApiLint
