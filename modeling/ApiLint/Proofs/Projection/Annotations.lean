import ApiLint.Proofs.Document.Offsets
import ApiLint.Proofs.Projection.Batch

/-! The annotations of a projection and the issues that they come from. -/

namespace ApiLint.Projection

variable {lookup : Lookup} {issues : List Issue} {a : Annotation}

theorem ofIssues_of_unknown (h : ∃ i ∈ issues, i.code = "unrecognized-format") :
    ofIssues lookup issues = ⟨[], some unknownFormatNotice, []⟩ := by
  rw [ofIssues, if_pos (isUnknownFormat_iff.mpr h)]

theorem mem_annotations_iff : a ∈ (ofIssues lookup issues).annotations ↔
    (¬ ∃ i ∈ issues, i.code = "unrecognized-format") ∧
      ∃ i ∈ issues, ∃ span, i.span lookup = .ok span ∧ a = i.annotation span := by
  by_cases hunknown : ∃ i ∈ issues, i.code = "unrecognized-format"
  · rw [ofIssues_of_unknown hunknown]
    exact iff_of_false List.not_mem_nil fun h => h.1 hunknown
  · rw [ofIssues, if_neg (isUnknownFormat_iff.not.mpr hunknown), List.mem_filterMap]
    simp only [hunknown, not_false_eq_true, true_and]
    refine exists_congr fun i => and_congr_right fun _ => ?_
    cases hspan : i.span lookup with
    | ok span => simp [Issue.annotation?_of_span hspan, eq_comm]
    | error fault => simp [Issue.annotation?_of_fault hspan]

theorem length_skipped_le (lookup : Lookup) (issues : List Issue) :
    (ofIssues lookup issues).skipped.length ≤ issues.length := by
  unfold ofIssues
  split
  · exact Nat.zero_le _
  · exact List.length_filter_le _ _

theorem display_eq_error_iff {s : Severity} : s.display = .error ↔ s = .error := by
  cases s <;> simp [Severity.display]

/-- There are errors when the format is known and an issue that counts as an error has a range within
the text. -/
theorem hasErrors_iff {content : List Char} :
    (ofIssues (LineIndex.ofChars content).lookup issues).hasErrors ↔
      (¬ ∃ i ∈ issues, i.code = "unrecognized-format") ∧
        ∃ i ∈ issues, i.severity = .error ∧ i.range.start.Within content ∧
          i.range.stop.Within content ∧ ¬ i.range.stop.Before i.range.start := by
  have hfits : ∀ i : Issue, (∃ span, i.span (LineIndex.ofChars content).lookup = .ok span) ↔
      i.range.start.Within content ∧ i.range.stop.Within content ∧
        ¬ i.range.stop.Before i.range.start := fun i => Range.exists_span_iff
  unfold hasErrors
  rw [List.any_eq_true]
  simp only [mem_annotations_iff, decide_eq_true_eq]
  constructor
  · rintro ⟨_, ⟨hknown, i, hi, span, hspan, rfl⟩, herror⟩
    exact ⟨hknown, i, hi, display_eq_error_iff.mp herror, (hfits i).mp ⟨span, hspan⟩⟩
  · rintro ⟨hknown, i, hi, herror, hrange⟩
    obtain ⟨span, hspan⟩ := (hfits i).mpr hrange
    exact ⟨_, ⟨hknown, i, hi, span, hspan, rfl⟩, display_eq_error_iff.mpr herror⟩

end ApiLint.Projection
