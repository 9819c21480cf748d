import ApiLint.CommandLine.Included
import ApiLint.Proofs.Settings.Load

/-! How far a command that lints a document gets. It stops at the first thing that goes wrong, and what it
then ends with, and which commands it started, follows from there. How the findings are shown has no part
in this before they are there. -/

namespace ApiLint.CommandLine

/-- A document has this content: it spells it in UTF-8, with ends of lines of any kind. -/
def Workspace.Reads (w : Workspace) (document : Path) (content : List Char) : Prop :=
  ∃ cs, w.tree.read w.directory document.chars = .ok (cs.flatMap String.utf8EncodeChar) ∧
    content = Text.unifyNewlines cs

theorem Workspace.readDocument_eq_ok_iff {w : Workspace} {document : Path} {content : List Char} :
    w.readDocument document = .ok content ↔ w.Reads document content := by
  unfold readDocument Reads
  cases w.tree.read w.directory document.chars with
  | error fault => simp
  | ok bytes =>
    simp only [Except.ok.injEq]
    cases hdecode : Text.decode bytes with
    | error fault =>
      refine iff_of_false nofun ?_
      rintro ⟨cs, hcs, -⟩
      rw [Text.decode_eq_ok_iff.mpr hcs] at hdecode
      cases hdecode
    | ok found =>
      constructor
      · intro h
        exact ⟨found, Text.decode_eq_ok_iff.mp hdecode, (Except.ok.inj h).symm⟩
      · rintro ⟨cs, hcs, rfl⟩
        rw [Text.decode_eq_ok_iff.mpr hcs, Except.ok.injEq] at hdecode
        exact congrArg (fun ds => Except.ok (Text.unifyNewlines ds)) hdecode.symm

theorem Workspace.exists_fault_iff {w : Workspace} {document : Path} :
    (∃ fault, w.readDocument document = .error fault) ↔ ∀ content, ¬ w.Reads document content := by
  simp only [← Workspace.readDocument_eq_ok_iff]
  cases w.readDocument document with
  | error fault => simp
  | ok content => simp

namespace LintRequest

def settings (r : LintRequest) (w : Workspace) : Except Settings.LoadFault Settings :=
  w.settings (Path.resolve w.directory r.root) r.overrides

def document (r : LintRequest) (w : Workspace) : Path :=
  Path.resolve w.directory r.path

/-- The document of a request is in scope, or its linting is forced. -/
def Chooses (r : LintRequest) (w : Workspace) (s : Settings) : Prop :=
  r.force = true ∨ (inScope s (r.document w)).1 = true

def report (_r : LintRequest) (w : Workspace) (s : Settings) (content : List Char) : RunReport :=
  run w.runner ⟨s, w.system, s.timeout, []⟩ w.temporary (Text.ofChars content)

/-- A request that the command line has nothing against: it names a file, and the system can be asked
about its names. -/
def Accepted (r : LintRequest) (w : Workspace) : Prop :=
  '\x00' ∉ r.named ∧ '\x00' ∉ r.root.chars ∧ r.checkFile w = .ok ()

end LintRequest

/-- Where a command that lints a document comes to its end. -/
inductive Stage where
  | unsettled (fault : Settings.LoadFault)
  | excluded (s : Settings)
  | unread (s : Settings) (fault : ReadFault)
  | failed (s : Settings) (content : List Char) (fault : RunFault)
  | linted (s : Settings) (content : List Char) (issues : List Issue)

/-- A request gets just as far as a stage. -/
inductive Gets (r : LintRequest) (w : Workspace) : Stage → Prop where
  | unsettled {fault : Settings.LoadFault} : r.settings w = .error fault → Gets r w (.unsettled fault)
  | excluded {s : Settings} : r.settings w = .ok s → ¬ r.Chooses w s → Gets r w (.excluded s)
  | unread {s : Settings} {fault : ReadFault} : r.settings w = .ok s → r.Chooses w s →
      w.readDocument (r.document w) = .error fault → Gets r w (.unread s fault)
  | failed {s : Settings} {content : List Char} {fault : RunFault} : r.settings w = .ok s →
      r.Chooses w s → w.readDocument (r.document w) = .ok content →
      (r.report w s content).outcome = .error fault → Gets r w (.failed s content fault)
  | linted {s : Settings} {content : List Char} {issues : List Issue} : r.settings w = .ok s →
      r.Chooses w s → w.readDocument (r.document w) = .ok content →
      (r.report w s content).outcome = .ok issues → Gets r w (.linted s content issues)

namespace Stage

def projection (content : List Char) (issues : List Issue) : Projection :=
  Projection.ofIssues (LineIndex.ofChars content).lookup issues

def ending (r : LintRequest) (w : Workspace) : Stage → Ending
  | unsettled fault => if fault.isReported then .exit .lintError else .crash (.settings fault)
  | excluded _ => .exit .excluded
  | unread _ _ => .exit .lintError
  | failed _ _ (.failure _) => .exit .lintError
  | failed _ _ fault => .crash (.run fault)
  | linted _ content issues =>
    match render (r.terminal w) r.format (projection content issues) r.label with
    | .ok _ => .exit (LintRequest.exitOf (projection content issues))
    | .error fault => .crash (.report fault)

def calls (r : LintRequest) (w : Workspace) : Stage → List Call
  | failed s content _ => (r.report w s content).calls
  | linted s content _ => (r.report w s content).calls
  | _ => []

end Stage

section

variable {r : LintRequest} {w : Workspace} {stage : Stage}

theorem exists_gets (r : LintRequest) (w : Workspace) : ∃ stage, Gets r w stage := by
  cases hs : r.settings w with
  | error fault => exact ⟨_, .unsettled hs⟩
  | ok s =>
    by_cases hc : r.Chooses w s
    · cases hread : w.readDocument (r.document w) with
      | error fault => exact ⟨_, .unread hs hc hread⟩
      | ok content =>
        cases hrun : (r.report w s content).outcome with
        | error fault => exact ⟨_, .failed hs hc hread hrun⟩
        | ok issues => exact ⟨_, .linted hs hc hread hrun⟩
    · exact ⟨_, .excluded hs hc⟩

theorem ending_withoutSettings (w : Workspace) (fault : Settings.LoadFault) :
    (w.withoutSettings fault).ending =
        (if fault.isReported then .exit .lintError else .crash (.settings fault)) ∧
      (w.withoutSettings fault).calls = [] := by
  cases fault <;> exact ⟨rfl, rfl⟩

theorem perform_accepted (h : r.Accepted w) :
    ∃ outcome records,
      (outcome = match r.settings w with
        | .error fault => w.withoutSettings fault
        | .ok s => r.lintDocument w s) ∧
      r.perform w = { outcome with records := records } := by
  obtain ⟨hnamed, hroot, hfile⟩ := h
  have hnull : (r.named.contains '\x00' || r.root.chars.contains '\x00') = false := by
    simp [hnamed, hroot]
  simp only [LintRequest.perform, hnull, hfile, Bool.false_eq_true, if_false]
  exact ⟨_, _, rfl, rfl⟩

theorem chooses_iff (r : LintRequest) (w : Workspace) (s : Settings) :
    r.Chooses w s ↔ (if r.force then (true, []) else inScope s (r.document w)).1 = true := by
  unfold LintRequest.Chooses
  cases r.force <;> simp

/-- A document that is chosen and can be read is linted. -/
theorem perform_reads {s : Settings} {content : List Char} (h : r.Accepted w)
    (hs : r.settings w = .ok s) (hc : r.Chooses w s)
    (hread : w.readDocument (r.document w) = .ok content) :
    ∃ records, r.perform w = { r.lintContent w s content with records := records } := by
  obtain ⟨outcome, records, houtcome, hperform⟩ := perform_accepted h
  have hdocument : Path.resolve w.directory r.path = r.document w := rfl
  rw [chooses_iff] at hc
  simp only [hs, LintRequest.lintDocument, hdocument, hc, hread] at houtcome
  exact ⟨records, by rw [hperform, houtcome]; rfl⟩

theorem ending_lintContent (r : LintRequest) (w : Workspace) (s : Settings) (content : List Char) :
    (r.lintContent w s content).calls = (r.report w s content).calls ∧
    (∀ fault, (r.report w s content).outcome = .error fault →
      (r.lintContent w s content).ending = (Stage.failed s content fault).ending r w) ∧
    (∀ issues, (r.report w s content).outcome = .ok issues →
      (r.lintContent w s content).ending = (Stage.linted s content issues).ending r w) := by
  have hreport : run w.runner ⟨s, w.system, s.timeout, []⟩ w.temporary (Text.ofChars content) =
      r.report w s content := rfl
  unfold LintRequest.lintContent
  simp only [hreport]
  cases (r.report w s content).outcome with
  | error fault =>
    cases fault <;> exact ⟨rfl, by rintro _ ⟨⟩; rfl, nofun⟩
  | ok issues =>
    have hprojection : Projection.ofIssues (LineIndex.ofChars content).lookup issues =
        Stage.projection content issues := rfl
    simp only [hprojection]
    cases hrender : render (r.terminal w) r.format (Stage.projection content issues) r.label with
    | ok printed =>
      refine ⟨rfl, nofun, ?_⟩
      rintro _ ⟨⟩
      rw [Stage.ending, hrender]
    | error fault =>
      refine ⟨rfl, nofun, ?_⟩
      rintro _ ⟨⟩
      rw [Stage.ending, hrender]

/-- Where a request comes to its end decides what it ends with and what it has started. -/
theorem perform_of_gets (h : r.Accepted w) (hstage : Gets r w stage) :
    (r.perform w).ending = stage.ending r w ∧ (r.perform w).calls = stage.calls r w := by
  obtain ⟨outcome, records, houtcome, hperform⟩ := perform_accepted h
  have hdocument : Path.resolve w.directory r.path = r.document w := rfl
  rw [hperform]
  cases hstage with
  | unsettled hs =>
    simp only [hs] at houtcome
    subst houtcome
    exact ending_withoutSettings w _
  | excluded hs hc =>
    rw [chooses_iff, Bool.not_eq_true] at hc
    simp only [hs, LintRequest.lintDocument, hdocument, hc] at houtcome
    subst houtcome
    exact ⟨rfl, rfl⟩
  | unread hs hc hread =>
    rw [chooses_iff] at hc
    simp only [hs, LintRequest.lintDocument, hdocument, hc, hread] at houtcome
    subst houtcome
    exact ⟨rfl, rfl⟩
  | failed hs hc hread hrun =>
    obtain ⟨records, hlinted⟩ := perform_reads h hs hc hread
    obtain ⟨hcalled, hfailed, -⟩ := ending_lintContent r w _ _
    rw [← hperform, hlinted]
    exact ⟨hfailed _ hrun, hcalled⟩
  | linted hs hc hread hrun =>
    obtain ⟨records, hlinted⟩ := perform_reads h hs hc hread
    obtain ⟨hcalled, -, hended⟩ := ending_lintContent r w _ _
    rw [← hperform, hlinted]
    exact ⟨hended _ hrun, hcalled⟩

end

end ApiLint.CommandLine
