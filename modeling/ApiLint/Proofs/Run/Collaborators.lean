import ApiLint.Proofs.Files.TempDirectory
import ApiLint.Run.Basic

/-! A run whose collaborators may do anything: no file may be made, a write may break off, the runner may
answer as it likes or fail, and so may the reader of the output; a file may resist its removal. The runner
is called at most once, its answer is judged in a fixed order, and the directory is restored. -/

namespace ApiLint

/-- Those that a run turns to. A new file gets a number that is free. A write that fails tells what it
left in the file. -/
structure Collaborators where
  create : (d : TempDirectory) → Except SystemFault { serial : Nat // serial ∉ d.serials }
  write : TempDirectory → Nat → List UInt8 → Except (SystemFault × List UInt8) Unit
  execute : Runner
  parse : String → Except RunFault (List Issue)
  /-- Why a file cannot be removed, if it cannot. -/
  unlink : Option SystemFault

structure Materialized where
  result : Except TempFileFault Nat
  directory : TempDirectory
  records : List LogRecord

namespace Collaborators

def discard (c : Collaborators) (d : TempDirectory) (serial : Nat) : TempDirectory :=
  match c.unlink with
  | none => d.discard serial
  | some _ => d

def discardRecords (c : Collaborators) (d : TempDirectory) (serial : Nat) : List LogRecord :=
  match c.unlink with
  | none => []
  | some fault =>
    [⟨.debug, .tempFile, "Failed to delete temporary file " ++ (d.filePath serial).toString ++ ": " ++
      fault.message⟩]

/-- Puts a content into a new file, which is discarded again when that fails. -/
def materialize (c : Collaborators) (d : TempDirectory) (content : Text) : Materialized :=
  match c.create d with
  | .error fault => ⟨.error (.system fault), d, []⟩
  | .ok ⟨serial, _⟩ =>
    let created := d.opened serial
    match Text.encode .utf8 content with
    | .error fault => ⟨.error (.encoding fault), c.discard created serial, c.discardRecords d serial⟩
    | .ok bytes =>
      match c.write created serial bytes with
      | .error (fault, left) =>
        ⟨.error (.system fault), c.discard (created.filled serial left) serial, c.discardRecords d serial⟩
      | .ok () => ⟨.ok serial, created.filled serial bytes, []⟩

def issues (c : Collaborators) (r : ProcessResult) : Except RunFault (List Issue) :=
  if r.exitCode ∉ acceptedExitCodes then
    .error (.failure (.exitCode r.exitCode r.stderr acceptedExitCodes))
  else if !Text.blank r.stderr.toList then .error (.failure (.stderr r.stderr))
  else c.parse r.stdout

def reply (c : Collaborators) (plan : RunPlan) (given : TempDirectory) (serial : Nat) : Reply :=
  c.execute (plan.command given serial) plan.timeout given

def conclude (c : Collaborators) (plan : RunPlan) (given : TempDirectory) (serial : Nat)
    (reply : Reply) : RunReport :=
  let outcome := reply.result >>= c.issues
  let counted := match outcome with
    | .ok issues => [countRecord issues]
    | .error _ => []
  ⟨outcome, c.discard reply.directory serial,
    [⟨plan.command given serial, plan.timeout, given.read? serial⟩],
    reply.records ++ c.discardRecords given serial ++ counted⟩

def run (c : Collaborators) (plan : RunPlan) (directory : TempDirectory) (content : Text) : RunReport :=
  let made := c.materialize directory content
  match made.result with
  | .error fault => ⟨.error (.failure (.tempFile fault)), made.directory, [], made.records⟩
  | .ok serial => c.conclude plan made.directory serial (c.reply plan made.directory serial)

/-- The usual collaborators of a runner: the directory makes and removes the files, and outputs are read
as JSON. -/
def usual (runner : Runner) : Collaborators where
  create d := (d.createAs d.fresh).map fun _ => ⟨d.fresh, d.fresh_not_mem⟩
  write d serial bytes := ((d.write serial bytes).map fun _ => ()).mapError fun fault => (fault, [])
  execute := runner
  parse output :=
    match Issue.listOfOutput output.toList with
    | .ok issues => .ok issues
    | .error (.refused reason) =>
      .error (.failure (.unreadable (String.ofList reason.shown) output))
    | .error (.longInteger n) => .error (.longInteger n)
  unlink := none

end Collaborators

/-- What a run makes of the answer of its runner. A fault goes on to the caller. A result is judged by its
exit code, then by its error output, and only then is its output parsed. -/
inductive Judged (parse : String → Except RunFault (List Issue)) :
    Except RunFault ProcessResult → Except RunFault (List Issue) → Prop where
  | raised {fault : RunFault} : Judged parse (.error fault) (.error fault)
  | exitCode {r : ProcessResult} : r.exitCode ≠ 0 → r.exitCode ≠ 1 → r.exitCode ≠ 2 →
      Judged parse (.ok r) (.error (.failure (.exitCode r.exitCode r.stderr [0, 1, 2])))
  | stderr {r : ProcessResult} : r.exitCode = 0 ∨ r.exitCode = 1 ∨ r.exitCode = 2 →
      (∃ c ∈ r.stderr.toList, ¬ Text.isBlank c) →
      Judged parse (.ok r) (.error (.failure (.stderr r.stderr)))
  | parsed {r : ProcessResult} : r.exitCode = 0 ∨ r.exitCode = 1 ∨ r.exitCode = 2 →
      (∀ c ∈ r.stderr.toList, Text.isBlank c) → Judged parse (.ok r) (parse r.stdout)

theorem mem_acceptedExitCodes {n : Int} : n ∈ acceptedExitCodes ↔ n = 0 ∨ n = 1 ∨ n = 2 := by
  simp [acceptedExitCodes]

namespace Collaborators

variable {c : Collaborators} {plan : RunPlan} {directory : TempDirectory} {content : Text}

theorem judged_issues (result : Except RunFault ProcessResult) :
    Judged c.parse result (result >>= c.issues) := by
  cases result with
  | error fault => exact .raised
  | ok r =>
    show Judged c.parse (.ok r) (c.issues r)
    unfold issues
    split
    · rename_i hcode
      simp only [mem_acceptedExitCodes, not_or] at hcode
      exact .exitCode hcode.1 hcode.2.1 hcode.2.2
    · rename_i hcode
      have hcode := mem_acceptedExitCodes.mp (Decidable.not_not.mp hcode)
      split
      · rename_i hblank
        exact .stderr hcode (by simpa [Text.blank] using hblank)
      · rename_i hblank
        exact .parsed hcode (by simpa [Text.blank] using hblank)

theorem read?_discard (hunlink : c.unlink = none) (d : TempDirectory) (serial n : Nat) :
    (c.discard d serial).read? n = if n = serial then none else d.read? n := by
  rw [discard, hunlink]
  exact TempDirectory.read?_discard

/-- When a content cannot be put into a file, no file was made or it was discarded, with whatever was
written into it. -/
theorem materialize_eq_error {fault : TempFileFault}
    (h : (c.materialize directory content).result = .error fault) :
    (c.materialize directory content).directory = directory ∨
      ∃ serial left, serial ∉ directory.serials ∧ (c.materialize directory content).directory =
        c.discard ((directory.opened serial).filled serial left) serial := by
  unfold materialize at h ⊢
  cases hc : c.create directory with
  | error fault => exact .inl rfl
  | ok new =>
    obtain ⟨serial, hfree⟩ := new
    simp only [hc] at h ⊢
    cases he : Text.encode .utf8 content with
    | error fault => exact .inr ⟨serial, [], hfree, by rw [TempDirectory.filled_opened_nil hfree]⟩
    | ok bytes =>
      simp only [he] at h ⊢
      cases hw : c.write (directory.opened serial) serial bytes with
      | error fault => exact .inr ⟨serial, fault.2, hfree, rfl⟩
      | ok =>
        rw [hw] at h
        cases h

/-- A content that cannot be put into a file leaves the directory as it was. -/
theorem directory_materialize_error {fault : TempFileFault} (hunlink : c.unlink = none)
    (h : (c.materialize directory content).result = .error fault) :
    (c.materialize directory content).directory = directory := by
  rcases materialize_eq_error h with hmade | ⟨serial, left, hfree, hmade⟩
  · exact hmade
  · rw [hmade, discard, hunlink, TempDirectory.discard_filled, TempDirectory.discard_opened hfree]

theorem materialize_eq_ok {serial : Nat} (h : (c.materialize directory content).result = .ok serial) :
    serial ∉ directory.serials ∧ ∃ bytes, Text.encode .utf8 content = .ok bytes ∧
      (c.materialize directory content).directory =
        (directory.opened serial).filled serial bytes := by
  unfold materialize at h ⊢
  cases hc : c.create directory with
  | error fault =>
    rw [hc] at h
    cases h
  | ok new =>
    obtain ⟨serial, hfree⟩ := new
    simp only [hc] at h ⊢
    cases he : Text.encode .utf8 content with
    | error fault =>
      rw [he] at h
      cases h
    | ok bytes =>
      simp only [he] at h ⊢
      cases hw : c.write (directory.opened serial) serial bytes with
      | error fault =>
        rw [hw] at h
        cases h
      | ok =>
        rw [hw] at h
        cases h
        exact ⟨hfree, bytes, rfl, rfl⟩

theorem run_of_error {fault : TempFileFault}
    (h : (c.materialize directory content).result = .error fault) :
    c.run plan directory content =
      ⟨.error (.failure (.tempFile fault)), (c.materialize directory content).directory, [],
        (c.materialize directory content).records⟩ := by
  simp only [run, h]

theorem run_of_ok {serial : Nat} (h : (c.materialize directory content).result = .ok serial) :
    c.run plan directory content =
      c.conclude plan (c.materialize directory content).directory serial
        (c.reply plan (c.materialize directory content).directory serial) := by
  simp only [run, h]

/-- A run asks its runner for nothing but the one reply. -/
theorem run_congr {execute : Runner}
    (h : ∀ serial, (c.materialize directory content).result = .ok serial →
      reply { c with execute := execute } plan (c.materialize directory content).directory serial =
        c.reply plan (c.materialize directory content).directory serial) :
    run { c with execute := execute } plan directory content = c.run plan directory content := by
  have hmade : materialize { c with execute := execute } directory content =
      c.materialize directory content := rfl
  cases hr : (c.materialize directory content).result with
  | error fault => rw [run_of_error hr, run_of_error (hmade ▸ hr), hmade]
  | ok serial =>
    rw [run_of_ok hr, run_of_ok (hmade ▸ hr), hmade, h serial hr]
    rfl

/-- The files that a run leaves, when files can be removed. -/
theorem read?_run (hunlink : c.unlink = none) (n : Nat) :
    (c.run plan directory content).directory.read? n =
      match (c.materialize directory content).result with
      | .error _ => directory.read? n
      | .ok serial =>
        if n = serial then none
        else (c.reply plan (c.materialize directory content).directory serial).directory.read? n := by
  cases hr : (c.materialize directory content).result with
  | error fault => rw [run_of_error hr, directory_materialize_error hunlink hr]
  | ok serial => rw [run_of_ok hr, conclude, read?_discard hunlink]

theorem materialize_usual (runner : Runner) (directory : TempDirectory) (content : Text) :
    (usual runner).materialize directory content =
      ⟨(directory.materialize .utf8 content).1, (directory.materialize .utf8 content).2, []⟩ := by
  have hdiscard : ∀ d serial, (usual runner).discard d serial = d.discard serial := fun _ _ => rfl
  have hrecords : ∀ d serial, (usual runner).discardRecords d serial = [] := fun _ _ => rfl
  cases hc : directory.createAs directory.fresh with
  | error fault =>
    have hcreate : (usual runner).create directory = .error fault := by simp only [usual, hc, Except.map]
    simp only [materialize, TempDirectory.materialize, hcreate, hc]
  | ok created =>
    obtain rfl := TempDirectory.opened_of_createAs hc
    have hcreate : (usual runner).create directory = .ok ⟨directory.fresh, directory.fresh_not_mem⟩ := by
      simp only [usual, hc, Except.map]
    cases he : Text.encode .utf8 content with
    | error fault =>
      simp only [materialize, TempDirectory.materialize, hcreate, hc, he, hdiscard, hrecords]
    | ok bytes =>
      cases hw : (directory.opened directory.fresh).write directory.fresh bytes with
      | error fault =>
        have hwrite : (usual runner).write (directory.opened directory.fresh) directory.fresh bytes =
            .error (fault, []) := by
          simp only [usual, hw]
          rfl
        simp only [materialize, TempDirectory.materialize, hcreate, hc, he, hwrite, hw, hdiscard,
          hrecords, TempDirectory.discard_filled]
      | ok written =>
        have hwrite : (usual runner).write (directory.opened directory.fresh) directory.fresh bytes =
            .ok () := by
          simp only [usual, hw]
          rfl
        simp only [materialize, TempDirectory.materialize, hcreate, hc, he, hwrite, hw,
          TempDirectory.filled_of_write hw]

/-- The usual collaborators make the run that is in use. -/
theorem run_usual (runner : Runner) (plan : RunPlan) (directory : TempDirectory) (content : Text) :
    (usual runner).run plan directory content = ApiLint.run runner plan directory content := by
  simp only [run, materialize_usual, ApiLint.run]
  cases hm : directory.materialize .utf8 content with
  | mk result given =>
    cases result with
    | error fault => rfl
    | ok serial =>
      have hissues : (usual runner).issues = ProcessResult.issues := rfl
      have hrecords : (usual runner).discardRecords given serial = [] := rfl
      simp only [conclude, runOn, hissues, hrecords, List.append_nil]
      rfl

theorem read?_of_materialize_ok {serial n : Nat}
    (h : (c.materialize directory content).result = .ok serial) (hn : n ≠ serial) :
    (c.materialize directory content).directory.read? n = directory.read? n := by
  obtain ⟨_, bytes, _, hmade⟩ := materialize_eq_ok h
  rw [hmade, TempDirectory.read?_filled, if_neg hn, TempDirectory.read?_opened, if_neg hn]

/-- Whatever is looked at in a file that the runner leaves alone is afterwards as it was before. -/
theorem view_run {α : Type} (view : Option (List UInt8) → α) (hunlink : c.unlink = none) {n : Nat}
    (h : ∀ serial, (c.materialize directory content).result = .ok serial → n ≠ serial →
      view ((c.reply plan (c.materialize directory content).directory serial).directory.read? n) =
        view ((c.materialize directory content).directory.read? n)) :
    view ((c.run plan directory content).directory.read? n) = view (directory.read? n) := by
  rw [read?_run hunlink]
  cases hr : (c.materialize directory content).result with
  | error fault => rfl
  | ok serial =>
    by_cases hn : n = serial
    -- the number of the run was free before, and its file is gone afterwards
    · have hfree := TempDirectory.read?_eq_none_iff.mpr (materialize_eq_ok hr).1
      simp only [hn, if_true, hfree]
    · simp only [if_neg hn, h serial hr hn, read?_of_materialize_ok hr hn]

/-- A run calls its runner at most once, and not at all when the content could not be put into a file;
the reply to that one call is all that it takes from the runner, and the outcome is judged by it. When
the file can be removed, every other file that the runner leaves alone is afterwards there if it was
there before, with the same bytes, and the file of the run is gone. With the usual collaborators this is
the run that is in use. -/
theorem run_calls_once_and_restores (c : Collaborators) (plan : RunPlan) (directory : TempDirectory)
    (content : Text) :
    let made := c.materialize directory content
    let report := c.run plan directory content
    report.calls.length ≤ 1 ∧
    (∀ execute : Runner,
      (∀ serial, made.result = .ok serial →
        execute (plan.command made.directory serial) plan.timeout made.directory =
          c.reply plan made.directory serial) →
      run { c with execute := execute } plan directory content = report) ∧
    (∀ fault, made.result = .error fault →
      report.calls = [] ∧ report.outcome = .error (.failure (.tempFile fault))) ∧
    (∀ serial, made.result = .ok serial →
      report.calls =
        [⟨plan.command made.directory serial, plan.timeout, made.directory.read? serial⟩] ∧
      Judged c.parse (c.reply plan made.directory serial).result report.outcome) ∧
    (c.unlink = none → ∀ n,
      ((∀ serial, made.result = .ok serial → n ≠ serial →
          (n ∈ (c.reply plan made.directory serial).directory.serials ↔
            n ∈ made.directory.serials)) →
        (n ∈ report.directory.serials ↔ n ∈ directory.serials)) ∧
      ((∀ serial, made.result = .ok serial → n ≠ serial →
          (c.reply plan made.directory serial).directory.read? n = made.directory.read? n) →
        report.directory.read? n = directory.read? n)) ∧
    ∀ runner, (usual runner).run plan directory content =
      ApiLint.run runner plan directory content := by
  intro made report
  refine ⟨?_, fun execute h => run_congr h, fun fault hr => ?_, fun serial hr => ?_, ?_,
    fun runner => run_usual runner plan directory content⟩
  · cases hr : (c.materialize directory content).result with
    | error fault => simp [report, run_of_error hr]
    | ok serial => simp [report, run_of_ok hr, conclude]
  · simp only [report, run_of_error hr, and_self]
  · simp only [report, run_of_ok hr]
    exact ⟨rfl, judged_issues _⟩
  · refine fun hunlink n => ⟨fun h => ?_, fun h => view_run id hunlink h⟩
    have hview : (report.directory.read? n).isSome = (directory.read? n).isSome :=
      view_run Option.isSome hunlink fun serial hr hn =>
        Bool.eq_iff_iff.mpr (by simpa only [TempDirectory.isSome_read?_iff] using h serial hr hn)
    rwa [Bool.eq_iff_iff, TempDirectory.isSome_read?_iff, TempDirectory.isSome_read?_iff] at hview

end Collaborators

end ApiLint
