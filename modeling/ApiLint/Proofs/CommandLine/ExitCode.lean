import ApiLint.Proofs.CommandLine.Stages
import ApiLint.Proofs.Projection.Annotations
import ApiLint.Proofs.Run.Escape

/-! The exit code of a command that lints a document and shows the findings to a machine. It tells the
stage at which the command came to its end, with one exception: a fault that no command has an answer to ends
it like findings do. -/

namespace ApiLint.CommandLine

def Stage.code : Stage → Nat
  | unsettled fault => if fault.isReported then 2 else 1
  | excluded _ => 3
  | unread _ _ => 2
  | failed _ _ (.failure _) => 2
  | failed _ _ _ => 1
  | linted _ content issues => if (projection content issues).hasErrors then 1 else 0

/-- The issues of a document of a known format have an error among them whose range lies in the
document. -/
def HaveErrors (content : List Char) (issues : List Issue) : Prop :=
  (¬ ∃ i ∈ issues, i.code = "unrecognized-format") ∧
    ∃ i ∈ issues, i.severity = .error ∧ i.range.start.Within content ∧
      i.range.stop.Within content ∧ ¬ i.range.stop.Before i.range.start

section

variable {r : LintRequest} {w : Workspace} {stage : Stage}

theorem code_unsettled (fault : Settings.LoadFault) :
    (fault.isReported = true ∧ (Stage.unsettled fault).code = 2) ∨
      (fault.isReported = false ∧ (Stage.unsettled fault).code = 1) := by
  cases h : fault.isReported with
  | true => exact Or.inl ⟨rfl, if_pos h⟩
  | false => exact Or.inr ⟨rfl, if_neg (by simp [h])⟩

theorem code_failed (s : Settings) (content : List Char) (fault : RunFault) :
    ((∃ f, fault = .failure f) ∧ (Stage.failed s content fault).code = 2) ∨
      (¬ fault.IsFailure ∧ (Stage.failed s content fault).code = 1) := by
  cases fault with
  | failure f => exact Or.inl ⟨⟨f, rfl⟩, rfl⟩
  | command | longInteger | other => exact Or.inr ⟨id, rfl⟩

theorem code_linted (s : Settings) (content : List Char) (issues : List Issue) :
    (HaveErrors content issues ∧ (Stage.linted s content issues).code = 1) ∨
      (¬ HaveErrors content issues ∧ (Stage.linted s content issues).code = 0) := by
  have herrors : (Stage.projection content issues).hasErrors ↔ HaveErrors content issues :=
    Projection.hasErrors_iff
  rw [← herrors]
  by_cases h : (Stage.projection content issues).hasErrors = true
  · exact Or.inl ⟨h, if_pos h⟩
  · exact Or.inr ⟨h, if_neg h⟩

theorem code_ending (stage : Stage)
    (hrender : ∀ s content issues, stage = .linted s content issues →
      ∃ printed, render (r.terminal w) r.format (Stage.projection content issues) r.label = .ok printed) :
    (stage.ending r w).code = stage.code := by
  cases stage with
  | unsettled fault =>
    simp only [Stage.ending, Stage.code]
    cases fault.isReported <;> rfl
  | excluded s => rfl
  | unread s fault => rfl
  | failed s content fault => cases fault <;> rfl
  | linted s content issues =>
    obtain ⟨printed, hprinted⟩ := hrender s content issues rfl
    simp only [Stage.ending, Stage.code, LintRequest.exitOf, hprinted]
    cases (Stage.projection content issues).hasErrors <;> rfl

/-- Only a table can fail to be shown. -/
theorem render_of_ne_table (h : r.format ≠ .table) (p : Projection) :
    ∃ printed, render (r.terminal w) r.format p r.label = .ok printed := by
  cases hformat : r.format with
  | table => exact absurd hformat h
  | json => exact ⟨_, rfl⟩
  | sarif => exact ⟨_, rfl⟩

theorem code_perform (h : r.Accepted w) (hformat : r.format ≠ .table) (hstage : Gets r w stage) :
    (r.perform w).ending.code = stage.code := by
  rw [(perform_of_gets h hstage).1]
  exact code_ending stage fun _ _ _ _ => render_of_ne_table hformat _

theorem Stage.code_eq_three_iff (stage : Stage) : stage.code = 3 ↔ ∃ s, stage = .excluded s := by
  cases stage with
  | unsettled fault => rcases code_unsettled fault with ⟨_, hcode⟩ | ⟨_, hcode⟩ <;> simp [hcode]
  | excluded s => simp [Stage.code]
  | unread s fault => simp [Stage.code]
  | failed s content fault => rcases code_failed s content fault with ⟨_, hcode⟩ | ⟨_, hcode⟩ <;> simp [hcode]
  | linted s content issues => rcases code_linted s content issues with ⟨_, hcode⟩ | ⟨_, hcode⟩ <;> simp [hcode]

end

/-! What an exit code tells that is the code of every stage that a request gets to. -/

section

variable {r : LintRequest} {w : Workspace} {code : Nat}

end

end ApiLint.CommandLine
