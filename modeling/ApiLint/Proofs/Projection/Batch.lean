import ApiLint.Projection.Basic
import Mathlib.Data.List.Perm.Basic

/-! How the issues of one run are shared out: those with a span become annotations, the others are
skipped, and both keep the order of the batch. A batch laid out in two parts is laid out as a whole, and
no issue is lost or counted twice, whatever the lookup answers. -/

namespace ApiLint

/-- A batch shared out among annotations and skipped issues, where an issue with a span becomes the
annotation with that span. -/
inductive SharedOut (lookup : Lookup) : List Issue → List Annotation → List Issue → Prop where
  | nil : SharedOut lookup [] [] []
  | annotated {i : Issue} {span : Span} {issues skipped : List Issue} {annotations : List Annotation} :
      i.span lookup = .ok span → SharedOut lookup issues annotations skipped →
      SharedOut lookup (i :: issues)
        (⟨span, i.severity.display, Text.ofString i.code ++ Text.ofString ": " ++ i.message, i⟩ ::
          annotations) skipped
  | skipped {i : Issue} {fault : RangeFault} {issues skipped : List Issue}
      {annotations : List Annotation} :
      i.span lookup = .error fault → SharedOut lookup issues annotations skipped →
      SharedOut lookup (i :: issues) annotations (i :: skipped)

namespace Issue

variable {lookup : Lookup} {i : Issue} {span : Span} {fault : RangeFault}

theorem annotation?_of_span (h : i.span lookup = .ok span) :
    i.annotation? lookup = some (i.annotation span) := by
  simp [annotation?, h]

theorem annotation?_of_fault (h : i.span lookup = .error fault) : i.annotation? lookup = none := by
  simp [annotation?, h]

theorem fits_of_span (h : i.span lookup = .ok span) : i.fits lookup = true := by
  rw [fits, h]
  rfl

theorem fits_of_fault (h : i.span lookup = .error fault) : i.fits lookup = false := by
  rw [fits, h]
  rfl

end Issue

section

variable {lookup : Lookup} {issues skipped : List Issue} {annotations : List Annotation}

theorem sharedOut_filter (lookup : Lookup) (issues : List Issue) :
    SharedOut lookup issues (issues.filterMap (Issue.annotation? lookup))
      (issues.filter fun i => !i.fits lookup) := by
  induction issues with
  | nil => exact .nil
  | cons i issues ih =>
    cases hspan : i.span lookup with
    | ok span =>
      rw [List.filterMap_cons_some (Issue.annotation?_of_span hspan),
        List.filter_cons_of_neg (by simp [Issue.fits_of_span hspan])]
      exact .annotated hspan ih
    | error fault =>
      rw [List.filterMap_cons_none (Issue.annotation?_of_fault hspan),
        List.filter_cons_of_pos (by simp [Issue.fits_of_fault hspan])]
      exact .skipped hspan ih

/-- A batch is shared out in one way only. -/
theorem SharedOut.unique {annotations' : List Annotation} {skipped' : List Issue}
    (h : SharedOut lookup issues annotations skipped)
    (h' : SharedOut lookup issues annotations' skipped') :
    annotations = annotations' ∧ skipped = skipped' := by
  induction h generalizing annotations' skipped' with
  | nil =>
    cases h'
    exact ⟨rfl, rfl⟩
  | annotated hspan _ ih =>
    cases h' with
    | annotated hspan' h' =>
      rw [hspan, Except.ok.injEq] at hspan'
      obtain ⟨rfl, rfl⟩ := ih h'
      exact ⟨by rw [hspan'], rfl⟩
    | skipped hfault _ =>
      rw [hspan] at hfault
      cases hfault
  | skipped hfault _ ih =>
    cases h' with
    | annotated hspan _ =>
      rw [hfault] at hspan
      cases hspan
    | skipped _ h' =>
      obtain ⟨rfl, rfl⟩ := ih h'
      exact ⟨rfl, rfl⟩

theorem SharedOut.append {issues' skipped' : List Issue} {annotations' : List Annotation}
    (h : SharedOut lookup issues annotations skipped)
    (h' : SharedOut lookup issues' annotations' skipped') :
    SharedOut lookup (issues ++ issues') (annotations ++ annotations') (skipped ++ skipped') := by
  induction h with
  | nil => exact h'
  | annotated hspan _ ih => exact .annotated hspan ih
  | skipped hspan _ ih => exact .skipped hspan ih

/-- Annotated and skipped issues together are the batch. -/
theorem SharedOut.perm (h : SharedOut lookup issues annotations skipped) :
    (annotations.map Annotation.issue ++ skipped).Perm issues := by
  induction h with
  | nil => exact .refl _
  | annotated _ _ ih => exact ih.cons _
  | skipped _ _ ih => exact List.perm_middle.trans (ih.cons _)

end

theorem mem_countBySeverity {issues : List Issue} {s : Severity} {n : Nat} :
    (s, n) ∈ countBySeverity issues ↔ n = issues.countP fun i => i.severity = s := by
  have hs : s ∈ Severity.all := by cases s <;> decide
  simp only [countBySeverity, List.mem_map, Prod.mk.injEq]
  constructor
  · rintro ⟨_, _, rfl, rfl⟩
    rfl
  · rintro rfl
    exact ⟨s, hs, rfl, rfl⟩

namespace Projection

variable {lookup : Lookup} {issues : List Issue} {p : Projection}

theorem isUnknownFormat_iff :
    isUnknownFormat issues ↔ ∃ i ∈ issues, i.code = "unrecognized-format" :=
  List.any_eq_true.trans (exists_congr fun _ => and_congr_right fun _ => decide_eq_true_iff)

theorem ofIssues_of_known (h : ¬ ∃ i ∈ issues, i.code = "unrecognized-format") :
    ofIssues lookup issues = p ↔ p.notice = none ∧ SharedOut lookup issues p.annotations p.skipped := by
  rw [ofIssues, if_neg (isUnknownFormat_iff.not.mpr h)]
  constructor
  · rintro rfl
    exact ⟨rfl, sharedOut_filter lookup issues⟩
  · rintro ⟨hnotice, hshared⟩
    obtain ⟨ha, hs⟩ := (sharedOut_filter lookup issues).unique hshared
    rw [ha, hs, ← hnotice]

theorem sharedOut_ofIssues (h : ¬ ∃ i ∈ issues, i.code = "unrecognized-format") :
    SharedOut lookup issues (ofIssues lookup issues).annotations (ofIssues lookup issues).skipped :=
  ((ofIssues_of_known h).mp rfl).2

/-- Issues are laid onto a document in one way only. An issue of unknown format puts the notice in the
place of all others. Without one the batch is shared out, part by part, and under every severity the
annotated and the skipped issues are together as many as those of the batch. -/
theorem ofIssues_shares_out (lookup : Lookup) :
    (∀ (issues : List Issue) (p : Projection), ofIssues lookup issues = p ↔
      ((∃ i ∈ issues, i.code = "unrecognized-format") ∧
        p = ⟨[], some ⟨.warning, "File is not formatted correctly. Linting was skipped."⟩, []⟩) ∨
      ((¬ ∃ i ∈ issues, i.code = "unrecognized-format") ∧
        p.notice = none ∧ SharedOut lookup issues p.annotations p.skipped)) ∧
    (∀ xs ys : List Issue, (¬ ∃ i ∈ xs, i.code = "unrecognized-format") →
      (¬ ∃ i ∈ ys, i.code = "unrecognized-format") →
      ofIssues lookup (xs ++ ys) =
        ⟨(ofIssues lookup xs).annotations ++ (ofIssues lookup ys).annotations, none,
          (ofIssues lookup xs).skipped ++ (ofIssues lookup ys).skipped⟩) ∧
    (∀ issues : List Issue, (¬ ∃ i ∈ issues, i.code = "unrecognized-format") →
      ∀ s : Severity, ∃ m n,
        (∀ k, (s, k) ∈ countBySeverity ((ofIssues lookup issues).annotations.map Annotation.issue) ↔ k = m) ∧
        (∀ k, (s, k) ∈ countBySeverity (ofIssues lookup issues).skipped ↔ k = n) ∧
        ∀ k, (s, k) ∈ countBySeverity issues ↔ k = m + n) := by
  refine ⟨fun issues p => ?_, fun xs ys hx hy => ?_, fun issues h s => ?_⟩
  · by_cases h : ∃ i ∈ issues, i.code = "unrecognized-format"
    · rw [ofIssues, if_pos (isUnknownFormat_iff.mpr h), eq_comm]
      simp only [h, not_true_eq_false, false_and, or_false, true_and]
      exact Iff.rfl
    · simp only [ofIssues_of_known h, h, false_and, false_or, not_false_eq_true, true_and]
  · have hxy : ¬ ∃ i ∈ xs ++ ys, i.code = "unrecognized-format" := by
      rintro ⟨i, hi, hcode⟩
      rcases List.mem_append.mp hi with hi | hi
      · exact hx ⟨i, hi, hcode⟩
      · exact hy ⟨i, hi, hcode⟩
    exact (ofIssues_of_known hxy).mpr ⟨rfl, (sharedOut_ofIssues hx).append (sharedOut_ofIssues hy)⟩
  · refine ⟨_, _, fun k => mem_countBySeverity, fun k => mem_countBySeverity, fun k => ?_⟩
    rw [mem_countBySeverity, ← List.countP_append, (sharedOut_ofIssues h).perm.countP_eq]

end Projection

end ApiLint
