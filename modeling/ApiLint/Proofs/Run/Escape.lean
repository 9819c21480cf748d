import ApiLint.Child.Runner
import ApiLint.Proofs.Child.Limit
import ApiLint.Proofs.Json.WholeNumber
import ApiLint.Proofs.Settings.Root
import ApiLint.Proofs.Text.Legible
import ApiLint.Proofs.Text.Pieces

/-! What a run comes to besides issues and failures. It does not come back when the wait for its child
does not. Otherwise a command that cannot be handed to the system comes out of it, or a whole number that
the reader of the output gives up on, and nothing else does, whatever the system and the child do. -/

namespace ApiLint

def RunFault.IsFailure : RunFault → Prop
  | .failure _ => True
  | _ => False

/-- An outcome that is neither a list of issues nor a failure. -/
def Escapes {α : Type} (outcome : Except RunFault α) : Prop :=
  ∃ fault, outcome = .error fault ∧ ¬ fault.IsFailure

section

variable {α : Type}

theorem not_escapes_ok (x : α) : ¬ Escapes (.ok x) := by
  rintro ⟨_, h, _⟩
  cases h

theorem not_escapes_failure (f : Failure) : ¬ Escapes (.error (.failure f) : Except RunFault α) := by
  rintro ⟨_, h, hf⟩
  cases h
  exact hf trivial

theorem escapes_command (f : CommandFault) : Escapes (.error (.command f) : Except RunFault α) :=
  ⟨_, rfl, id⟩

theorem escapes_longInteger (n : Nat) : Escapes (.error (.longInteger n) : Except RunFault α) :=
  ⟨_, rfl, id⟩

/-- Only a fault that escapes goes on to the caller of an attempt. -/
theorem attempt_eq_error_iff {outcome : Except RunFault (List Issue)} :
    (∃ fault, (attempt outcome).1 = .error fault) ↔ Escapes outcome := by
  unfold attempt
  split
  · exact iff_of_false (by simp) (not_escapes_ok _)
  · exact iff_of_false (by simp) (not_escapes_failure _)
  · rename_i fault hne
    refine iff_of_true ⟨fault, rfl⟩ ⟨fault, rfl, fun hf => ?_⟩
    cases fault with
    | failure f => exact hne f rfl
    | command | longInteger | other => exact hf

end

namespace Text

theorem decodeLossy_cons {b : UInt8} (h : b.toNat < 0x80) (rest : List UInt8) :
    decodeLossy (b :: rest) = Char.ofNat b.toNat :: decodeLossy rest := by
  simp [decodeLossy, pieces, piecesAfter, h, Piece.replaced]

theorem decodeLossy_replicate {b : UInt8} (h : b.toNat < 0x80) (n : Nat) (rest : List UInt8) :
    decodeLossy (List.replicate n b ++ rest) =
      List.replicate n (Char.ofNat b.toNat) ++ decodeLossy rest := by
  induction n with
  | zero => rfl
  | succ n ih =>
    rw [List.replicate_succ, List.cons_append, decodeLossy_cons h, ih]
    rfl

end Text

theorem Issue.listOfOutput_longInteger_iff {output : List Char} {n : Nat} :
    listOfOutput output = .error (.longInteger n) ↔ Json.read output = .error (.longInteger n) := by
  unfold listOfOutput
  split
  · rename_i hblank
    refine iff_of_false (by simp) fun h => ?_
    obtain ⟨hlong, ds, rest, hsuffix, hlen, hd, _⟩ := Json.hasDigits_of_read h
    cases ds with
    | nil =>
      simp only [List.length_nil] at hlen
      omega
    | cons d ds =>
      have hmem : d ∈ output := hsuffix.subset (by simp)
      have hd := Text.not_isBlank_of_isDigit (hd d List.mem_cons_self)
      rw [List.all_eq_true.mp hblank d hmem] at hd
      cases hd
  · cases hr : Json.read output with
    | ok v =>
      simp only
      cases listOfValue v <;> simp [Except.mapError]
    | error fault => cases fault <;> simp

theorem ProcessResult.issues_escapes_iff (r : ProcessResult) :
    Escapes r.issues ↔
      r.exitCode ∈ acceptedExitCodes ∧ Text.blank r.stderr.toList ∧
        ∃ n, Json.read r.stdout.toList = .error (.longInteger n) := by
  simp only [← Issue.listOfOutput_longInteger_iff]
  unfold issues
  split
  · rename_i hcode
    exact iff_of_false (not_escapes_failure _) fun h => hcode h.1
  · rename_i hcode
    split
    · rename_i herr
      refine iff_of_false (not_escapes_failure _) fun h => ?_
      rw [h.2.1] at herr
      cases herr
    · rename_i herr
      have haccepted : r.exitCode ∈ acceptedExitCodes := Decidable.not_not.mp hcode
      have hblank : Text.blank r.stderr.toList := by simpa using herr
      split
      · rename_i h
        exact iff_of_false (not_escapes_ok _) (by simp [h])
      · rename_i h
        exact iff_of_false (not_escapes_failure _) (by simp [h])
      · rename_i n h
        exact iff_of_true (escapes_longInteger n) ⟨haccepted, hblank, n, h⟩

namespace Child

theorem isSome_variableFault?_iff {v : Text × Text} :
    (variableFault? v).isSome ↔
      .scalar '=' ∈ v.1 ∨ ∃ x, (x ∈ v.1 ∨ x ∈ v.2) ∧ Text.isInName x = false := by
  simp only [or_and_right, exists_or, ← Text.isSome_nameFault?_iff]
  unfold variableFault?
  cases hname : Text.nameFault? v.1 with
  | some fault => simp
  | none =>
    by_cases heq : .scalar '=' ∈ v.1
    · simp [heq]
    · simp [heq, Option.isSome_map]

theorem isSome_wordFault?_iff {word : Text} :
    (wordFault? word).isSome ↔ ∃ x ∈ word, Path.IsUnnameable x := by
  simp only [Path.IsUnnameable, and_or_left, exists_or, exists_eq_right, ← Text.isSome_nameFault?_iff]
  unfold wordFault? hasNull
  cases Text.nameFault? word with
  | some fault => simp
  | none => by_cases hnull : .scalar '\x00' ∈ word <;> simp [hnull]

theorem isSome_environmentNull?_iff {environment : List (Text × Text)} :
    (environmentNull? environment).isSome ↔
      ∃ v ∈ environment, .scalar '\x00' ∈ v.1 ∨ .scalar '\x00' ∈ v.2 := by
  unfold environmentNull? hasNull
  split
  · rename_i h
    exact iff_of_true rfl (by simpa using h)
  · rename_i h
    exact iff_of_false Bool.false_ne_true (by simpa using h)

end Child

namespace Command

/-- Variables, words or a directory that the system does not take. -/
def Unfit (c : Command) (environment : List (Text × Text)) : Prop :=
  (∃ v ∈ environment, .scalar '=' ∈ v.1 ∨ ∃ x, (x ∈ v.1 ∨ x ∈ v.2) ∧ Path.IsUnnameable x) ∨
    (∃ word ∈ c.argv, ∃ x ∈ word, Path.IsUnnameable x) ∨
      c.directoryFault.isSome ∨ ∃ d ∈ c.workingDirectory, '\x00' ∈ d.chars

theorem isSome_placeFault?_iff {c : Command} :
    c.placeFault?.isSome ↔ c.directoryFault.isSome ∨ ∃ d ∈ c.workingDirectory, '\x00' ∈ d.chars := by
  unfold placeFault?
  cases c.directoryFault with
  | some fault => simp
  | none => cases c.workingDirectory <;> simp

theorem isSome_fault?_iff {c : Command} (hne : c.argv ≠ []) {environment : List (Text × Text)} :
    (c.fault? environment).isSome ↔ c.Unfit environment := by
  unfold fault? Unfit
  rw [if_neg (by simpa using hne)]
  simp only [Option.isSome_or, Bool.or_eq_true, List.isSome_findSome?, List.any_eq_true,
    Child.isSome_variableFault?_iff, Child.isSome_wordFault?_iff, Child.isSome_environmentNull?_iff,
    isSome_placeFault?_iff]
  -- null characters in variables come behind the words in the order of the checks
  have hvariables :
      (∃ v ∈ environment, .scalar '=' ∈ v.1 ∨ ∃ x, (x ∈ v.1 ∨ x ∈ v.2) ∧ Path.IsUnnameable x) ↔
        (∃ v ∈ environment, .scalar '=' ∈ v.1 ∨ ∃ x, (x ∈ v.1 ∨ x ∈ v.2) ∧ Text.isInName x = false) ∨
          ∃ v ∈ environment, .scalar '\x00' ∈ v.1 ∨ .scalar '\x00' ∈ v.2 := by
    simp only [Path.IsUnnameable, and_or_left, exists_or, exists_eq_right, or_assoc, or_comm,
      or_left_comm]
  rw [hvariables]
  exact (or_congr_right or_left_comm).trans or_assoc.symm

end Command

namespace Child

variable {ω : Type}

/-- A command that a host cannot be handed: its input cannot be named, or the input is there and
something else is unfit. -/
def Host.Refuses (host : Host ω) (command : Command) : Prop :=
  '\x00' ∈ command.input.chars ∨
    ((∃ bytes, host.read command.input = .ok bytes) ∧ command.Unfit host.environment)

theorem Host.launch_command_iff (host : Host ω) {command : Command} (hne : command.argv ≠ []) :
    (∃ f, host.launch command = .error (.command f)) ↔ host.Refuses command := by
  unfold Host.launch Host.openInput Host.Refuses
  rw [← Command.isSome_fault?_iff hne]
  by_cases hnull : '\x00' ∈ command.input.chars
  · rw [if_pos (by simpa using hnull)]
    exact iff_of_true ⟨.nullByte, rfl⟩ (Or.inl hnull)
  · rw [if_neg (by simpa using hnull), or_iff_right hnull]
    cases hread : host.read command.input with
    | error fault => simp [Except.mapError, bind, Except.bind]
    | ok bytes =>
      simp only [Except.mapError, bind, Except.bind]
      cases command.fault? host.environment with
      | some f => exact iff_of_true ⟨f, rfl⟩ ⟨⟨bytes, rfl⟩, rfl⟩
      | none =>
        refine iff_of_false ?_ (by simp)
        rintro ⟨f, h⟩
        simp only at h
        split at h <;> cases h

section

variable {τ : Type} [Add τ] [Sub τ] [LT τ] [LE τ] [OfNat τ 0] [DecidableLT τ] [DecidableLE τ]
  {ε : Type} {s : Surroundings τ ε ω} {interval timeout : τ} {most more : Nat} {e e' : Execution τ ε ω}

/-- A wait that does not come back: its rounds go on for ever, or something else holds the output of the
child open when that is killed. -/
def Surroundings.Hangs (s : Surroundings τ ε ω) (interval timeout : τ) : Prop :=
  (∀ most, wait s interval timeout most = none) ∨
    ∃ most e, execute s interval timeout most = some e ∧ e.child.killed = true ∧
      s.held e.waited.slices = true

theorem settle_eq_some_iff :
    settle s interval timeout most = some e ↔
      execute s interval timeout most = some e ∧ e.hangs s = false := by
  simp [settle, Option.filter_eq_some_iff]

theorem exists_settle_iff :
    (∃ most e, settle s interval timeout most = some e) ↔ ¬ s.Hangs interval timeout := by
  simp only [settle_eq_some_iff, Surroundings.Hangs, not_or, not_forall, not_exists, not_and]
  constructor
  · rintro ⟨most, e, he, hback⟩
    refine ⟨⟨most, fun hnone => by simp [execute, hnone] at he⟩, fun more e' he' hkilled => ?_⟩
    obtain rfl := execute_unique he he'
    simpa [Execution.hangs, hkilled] using hback
  · rintro ⟨⟨most, hsome⟩, hback⟩
    obtain ⟨w, hw⟩ := Option.ne_none_iff_exists'.mp hsome
    have he : execute s interval timeout most = some _ := congrArg (Option.map _) hw
    refine ⟨most, _, he, ?_⟩
    have hheld := hback most _ he
    simp only [Execution.hangs, Bool.and_eq_false_imp]
    exact fun hkilled => by simpa using hheld hkilled

theorem settle_unique (he : settle s interval timeout most = some e)
    (he' : settle s interval timeout more = some e') : e = e' :=
  execute_unique (settle_eq_some_iff.mp he).1 (settle_eq_some_iff.mp he').1

end

section

variable {τ : Type} [Add τ] [Sub τ] [LT τ] [LE τ] [OfNat τ 0] [DecidableLT τ] [DecidableLE τ]

namespace Host

variable {host : Host (Surroundings τ Empty Exited)} {s : Surroundings τ Empty Exited}
  {interval timeout : τ} {most : Nat} {command : Command} {fault : LaunchFault} {child : Exited}

/-- The command is started, and the wait for its child does not come back. -/
def Hangs (host : Host (Surroundings τ Empty Exited)) (interval : τ) (command : Command) (timeout : τ) :
    Prop :=
  ∃ s, host.launch command = .ok s ∧ s.Hangs interval timeout

/-- The command is started, and the wait for its child comes back with what the child left. -/
def Finishes (host : Host (Surroundings τ Empty Exited)) (interval : τ) (command : Command)
    (timeout : τ) (child : Exited) : Prop :=
  ∃ most execution, host.runCommand interval most command timeout = .ok (some execution) ∧
    execution.waited.ending = .finished child

theorem runCommand_of_error (h : host.launch command = .error fault) :
    host.runCommand interval most command timeout = .error fault := by
  simp only [runCommand, h, bind, Except.bind]

theorem runCommand_of_ok (h : host.launch command = .ok s) :
    host.runCommand interval most command timeout = .ok (settle s interval timeout most) := by
  simp only [runCommand, h, bind, Except.bind, pure, Except.pure]

theorem not_finishes_of_error (h : host.launch command = .error fault) :
    ¬ host.Finishes interval command timeout child := by
  rintro ⟨most, execution, hran, -⟩
  rw [runCommand_of_error h] at hran
  cases hran

theorem finishes_iff {execution : Execution τ Empty Exited} (h : host.launch command = .ok s)
    (hback : settle s interval timeout most = some execution) :
    host.Finishes interval command timeout child ↔ execution.waited.ending = .finished child := by
  constructor
  · rintro ⟨more, e, hran, hending⟩
    rw [runCommand_of_ok h, Except.ok.injEq] at hran
    rwa [settle_unique hback hran]
  · intro hending
    exact ⟨most, execution, by rw [runCommand_of_ok h, hback], hending⟩

end Host

variable {host : TempDirectory → Host (Surroundings τ Empty Exited)} {time : Float → τ} {interval : τ}
  {most more : Nat} {command : Command} {timeout : Float} {directory : TempDirectory} {reply reply' : Reply}

theorem hostRunner_of_error {fault : LaunchFault} (h : (host directory).launch command = .error fault) :
    hostRunner host time interval most command timeout directory =
      some ⟨.error (fault.runFault command.argv), directory, [startRecord command timeout]⟩ := by
  unfold hostRunner
  rw [Host.runCommand_of_error h]

theorem hostRunner_of_ok {s : Surroundings τ Empty Exited}
    (h : (host directory).launch command = .ok s) :
    hostRunner host time interval most command timeout directory =
      (settle s interval (time timeout) most).map fun e =>
        ⟨e.result timeout, directory, startRecord command timeout :: e.records⟩ := by
  unfold hostRunner
  rw [Host.runCommand_of_ok h]

theorem exists_hostRunner_iff :
    (∃ most reply, hostRunner host time interval most command timeout directory = some reply) ↔
      ¬ (host directory).Hangs interval command (time timeout) := by
  unfold Host.Hangs
  cases h : (host directory).launch command with
  | error fault => exact iff_of_true ⟨0, _, hostRunner_of_error h⟩ (by simp)
  | ok s =>
    simp only [hostRunner_of_ok h, Option.map_eq_some_iff, Except.ok.injEq, exists_eq_left',
      ← exists_settle_iff]
    exact exists_congr fun most => ⟨fun ⟨_, e, he, _⟩ => ⟨e, he⟩, fun ⟨e, he⟩ => ⟨_, e, he, rfl⟩⟩

theorem hostRunner_unique
    (hreply : hostRunner host time interval most command timeout directory = some reply)
    (hreply' : hostRunner host time interval more command timeout directory = some reply') :
    reply = reply' := by
  cases h : (host directory).launch command with
  | error fault =>
    rw [hostRunner_of_error h] at hreply hreply'
    exact Option.some.inj (hreply.symm.trans hreply')
  | ok s =>
    rw [hostRunner_of_ok h] at hreply hreply'
    obtain ⟨e, he, rfl⟩ := Option.map_eq_some_iff.mp hreply
    obtain ⟨e', he', rfl⟩ := Option.map_eq_some_iff.mp hreply'
    rw [settle_unique he he']

theorem hostRunner_escapes_iff (hne : command.argv ≠ [])
    (hreply : hostRunner host time interval most command timeout directory = some reply) :
    Escapes (reply.result >>= ProcessResult.issues) ↔
      (host directory).Refuses command ∨
        ∃ child, (host directory).Finishes interval command (time timeout) child ∧
          Escapes child.result.issues := by
  rw [← (host directory).launch_command_iff hne]
  cases h : (host directory).launch command with
  | error fault =>
    rw [hostRunner_of_error h] at hreply
    obtain rfl := Option.some.inj hreply
    cases fault with
    | system fault =>
      refine iff_of_false (not_escapes_failure _) ?_
      simp [Host.not_finishes_of_error h]
    | command f => exact iff_of_true (escapes_command f) (Or.inl ⟨f, rfl⟩)
  | ok s =>
    rw [hostRunner_of_ok h] at hreply
    obtain ⟨e, he, rfl⟩ := Option.map_eq_some_iff.mp hreply
    simp only [Host.finishes_iff h he, reduceCtorEq, exists_false, false_or, Execution.result]
    cases e.waited.ending with
    | finished child => simp [bind, Except.bind]
    | timedOut => exact iff_of_false (not_escapes_failure _) (by simp)
    | cancelled => exact iff_of_false (not_escapes_failure _) (by simp)
    | failed fault => exact fault.elim

end

/-- A child that prints a list of one whole number, which has one digit and `n` more. -/
def numberPrinter (n : Nat) : Exited :=
  ⟨0, 0x5b :: 0x31 :: (List.replicate n 0x31 ++ [0x5d]), [], 0⟩

theorem outputText_numberPrinter (n : Nat) :
    (outputText (numberPrinter n).output).toList = '[' :: '1' :: (List.replicate n '1' ++ [']']) := by
  have hdecode : Text.decodeLossy (numberPrinter n).output =
      '[' :: '1' :: (List.replicate n '1' ++ [']']) := by
    unfold numberPrinter
    rw [Text.decodeLossy_cons (by decide), Text.decodeLossy_cons (by decide),
      Text.decodeLossy_replicate (by decide)]
    rfl
  rw [outputText, hdecode, Text.unifyNewlines_eq_self (by simp), String.toList_ofList]

theorem issues_numberPrinter {n : Nat} (h : longestInteger < n + 1) :
    (numberPrinter n).result.issues = .error (.longInteger (n + 1)) := by
  have hread : Json.read ('[' :: '1' :: (List.replicate n '1' ++ [']'])) =
      .error (.longInteger ((List.replicate n '1').length + 1)) :=
    Json.read_longInteger (by decide) (by decide)
      (fun d hd => by rw [List.eq_of_mem_replicate hd]; decide) (by simpa using h) (by simp) rfl rfl
  rw [← outputText_numberPrinter, List.length_replicate] at hread
  have hcode : (numberPrinter n).result.exitCode ∈ acceptedExitCodes := List.mem_cons_self
  have hblank : Text.blank (numberPrinter n).result.stderr.toList = true := rfl
  unfold ProcessResult.issues
  rw [if_neg (not_not.mpr hcode), if_neg (by simp [hblank])]
  simp only [Exited.result, Issue.listOfOutput_longInteger_iff.mpr hread]

end Child

theorem RunPlan.argv_command_ne_nil {plan : RunPlan} {directory : TempDirectory} {serial : Nat} :
    (plan.command directory serial).argv ≠ [] := by
  simp [RunPlan.command, Command.lint, Command.argv]

/-- The content of a run is in its file; the command is the one for it, and the directory has it. -/
def RunPlan.Asks (plan : RunPlan) (directory : TempDirectory) (content : Text) (command : Command)
    (written : TempDirectory) : Prop :=
  ∃ serial, directory.materialize .utf8 content = (.ok serial, written) ∧
    command = plan.command written serial

section

open Child

variable {τ : Type} [Add τ] [Sub τ] [LT τ] [LE τ] [OfNat τ 0] [DecidableLT τ] [DecidableLE τ]

/-- Some number of rounds brings a run to this report. -/
def RunsTo (host : TempDirectory → Host (Surroundings τ Empty Exited)) (time : Float → τ) (interval : τ)
    (plan : RunPlan) (directory : TempDirectory) (content : Text) (report : RunReport) : Prop :=
  ∃ most, run? (hostRunner host time interval most) plan directory content = some report

variable {host : TempDirectory → Host (Surroundings τ Empty Exited)} {time : Float → τ} {interval : τ}
  {plan : RunPlan} {directory : TempDirectory} {content : Text} {report report' : RunReport}

theorem exists_runsTo_iff :
    (∃ report, RunsTo host time interval plan directory content report) ↔
      ¬ ∃ command written, plan.Asks directory content command written ∧
        (host written).Hangs interval command (time plan.timeout) := by
  unfold RunsTo RunPlan.Asks run?
  rcases hmade : directory.materialize .utf8 content with ⟨fault | serial, written⟩
  · exact iff_of_true ⟨_, 0, rfl⟩ (by simp)
  · have hreplies : (∃ most reply, hostRunner host time interval most (plan.command written serial)
        plan.timeout written = some reply) ↔ _ := exists_hostRunner_iff
    simp only [Option.map_eq_some_iff, Prod.mk.injEq, Except.ok.injEq, and_assoc, exists_eq_left',
      exists_eq_left]
    rw [← hreplies]
    exact ⟨fun ⟨_, most, reply, hreply, _⟩ => ⟨most, reply, hreply⟩,
      fun ⟨most, reply, hreply⟩ => ⟨_, most, reply, hreply, rfl⟩⟩

theorem runsTo_unique (h : RunsTo host time interval plan directory content report)
    (h' : RunsTo host time interval plan directory content report') : report = report' := by
  obtain ⟨most, h⟩ := h
  obtain ⟨more, h'⟩ := h'
  unfold run? at h h'
  rcases hmade : directory.materialize .utf8 content with ⟨fault | serial, written⟩
  · rw [hmade] at h h'
    exact Option.some.inj (h.symm.trans h')
  · rw [hmade] at h h'
    obtain ⟨reply, hreply, rfl⟩ := Option.map_eq_some_iff.mp h
    obtain ⟨reply', hreply', rfl⟩ := Option.map_eq_some_iff.mp h'
    rw [hostRunner_unique hreply hreply']

/-- What a run comes to and what escapes from it. It comes back with one report unless the wait for its
child hangs. Something escapes just when the content is in its file, and then the host cannot be handed the
command, or the child ends, seems to have done its work, and the reader gives up on a number in its output.
An attempt lets through just what escapes. -/
theorem run_escapes_iff (host : TempDirectory → Host (Surroundings τ Empty Exited)) (time : Float → τ)
    (interval : τ) (plan : RunPlan) (directory : TempDirectory) (content : Text) :
    ((∃ report, RunsTo host time interval plan directory content report) ↔
      ¬ ∃ command written, plan.Asks directory content command written ∧
        (host written).Hangs interval command (time plan.timeout)) ∧
    ∀ report, RunsTo host time interval plan directory content report →
      (∀ other, RunsTo host time interval plan directory content other → other = report) ∧
      ((∃ fault, (attempt report.outcome).1 = .error fault) ↔ Escapes report.outcome) ∧
      (Escapes report.outcome ↔
        ∃ command written, plan.Asks directory content command written ∧
          ((host written).Refuses command ∨
            ∃ child, (host written).Finishes interval command (time plan.timeout) child ∧
              child.exitCode ∈ acceptedExitCodes ∧ Text.blank (outputText child.errors).toList ∧
                ∃ n, longestInteger < n ∧ Json.HasDigits n (outputText child.output).toList ∧
                  Json.read (outputText child.output).toList = .error (.longInteger n))) := by
  refine ⟨exists_runsTo_iff, fun report h => ⟨fun other hother => runsTo_unique hother h,
    attempt_eq_error_iff, ?_⟩⟩
  have hdigits : ∀ (output : List Char) (n : Nat),
      (longestInteger < n ∧ Json.HasDigits n output ∧ Json.read output = .error (.longInteger n)) ↔
        Json.read output = .error (.longInteger n) := by
    intro output n
    refine ⟨fun h => h.2.2, fun h => ?_⟩
    obtain ⟨hlong, hd⟩ := Json.hasDigits_of_read h
    exact ⟨hlong, hd, h⟩
  simp only [hdigits]
  obtain ⟨most, h⟩ := h
  unfold run? at h
  unfold RunPlan.Asks
  rcases hmade : directory.materialize .utf8 content with ⟨fault | serial, written⟩
  · rw [hmade] at h
    obtain rfl := Option.some.inj h
    refine iff_of_false (not_escapes_failure _) (by simp)
  · rw [hmade] at h
    obtain ⟨reply, hreply, rfl⟩ := Option.map_eq_some_iff.mp h
    simp only [Prod.mk.injEq, Except.ok.injEq, and_assoc, exists_eq_left', exists_eq_left]
    refine (hostRunner_escapes_iff RunPlan.argv_command_ne_nil hreply).trans ?_
    simp only [ProcessResult.issues_escapes_iff]
    rfl

def promptHost (child : Exited) : Host (Surroundings Int Empty Exited) where
  environment := []
  read _ := .ok []
  start _ _ _ := .ok ⟨.ok 0, fun _ => .ok 0, none, fun _ _ => some child, fun _ => false, fun _ => false⟩

theorem exists_runsTo_promptHost (child : Exited) :
    ∃ report, RunsTo (fun _ => promptHost child) (fun _ => 1) 1 ⟨Settings.defaults, "Linux", 30, []⟩
        ⟨Path.ofString "/tmp", none, []⟩ [] report ∧ report.outcome = child.result.issues :=
  ⟨_, ⟨1, rfl⟩, rfl⟩

/-- An attempt of a run lets through that a child printed one digit more than the reader takes. -/
theorem attempt_numberPrinter :
    ∃ report, RunsTo (fun _ => promptHost (numberPrinter longestInteger)) (fun _ => 1) 1
        ⟨Settings.defaults, "Linux", 30, []⟩ ⟨Path.ofString "/tmp", none, []⟩ [] report ∧
      (attempt report.outcome).1 = .error (.longInteger 4301) := by
  obtain ⟨report, hruns, houtcome⟩ := exists_runsTo_promptHost (numberPrinter longestInteger)
  refine ⟨report, hruns, ?_⟩
  rw [houtcome, issues_numberPrinter (Nat.lt_succ_self _)]
  rfl

end

section

open Child

variable {τ : Type} [Field τ] [LinearOrder τ] [IsStrictOrderedRing τ] [FloorSemiring τ]

theorem Child.Surroundings.not_hangs_of_keepsTime {ε ω : Type} {s : Surroundings τ ε ω} {interval timeout : τ}
    (hinterval : 0 < interval) (hkeeps : ∀ start, s.start = .ok start → s.KeepsTime interval timeout start)
    (hheld : ∀ slices, s.held slices = false) : ¬ s.Hangs interval timeout := by
  rintro (hnever | ⟨most, e, -, -, hopen⟩)
  · obtain ⟨w, hw, -⟩ := exists_wait hinterval hkeeps
    rw [hnever] at hw
    cases hw
  · rw [hheld] at hopen
    cases hopen

/-- A run comes back when the slices of the wait take their time and nothing holds the output of a killed
child open. -/
theorem exists_runsTo_of_keepsTime {host : TempDirectory → Host (Surroundings τ Empty Exited)}
    {time : Float → τ} {interval : τ} {plan : RunPlan} (hinterval : 0 < interval)
    (hstarted : ∀ directory command s, (host directory).launch command = .ok s →
      (∀ start, s.start = .ok start → s.KeepsTime interval (time plan.timeout) start) ∧
        ∀ slices, s.held slices = false) (directory : TempDirectory) (content : Text) :
    ∃ report, RunsTo host time interval plan directory content report := by
  rw [exists_runsTo_iff]
  rintro ⟨command, written, -, s, hlaunch, hhangs⟩
  obtain ⟨hkeeps, hheld⟩ := hstarted written command s hlaunch
  exact s.not_hangs_of_keepsTime hinterval hkeeps hheld hhangs

end

end ApiLint
