import ApiLint.Proofs.CommandLine.Stages
import ApiLint.Proofs.Document.Newlines
import ApiLint.Proofs.Run.Collaborators
import ApiLint.Proofs.Text.Utf8

/-! What the linter is given of a document, and which places the findings are shown at. Both are those of
the text with one line feed at the end of every line; a document without carriage returns is that text. -/

namespace ApiLint

section

variable {runner : Runner} {plan : RunPlan} {directory : TempDirectory} {content : Text}
  {bytes : List UInt8}

open Collaborators

theorem content_of_mem_calls (hbytes : Text.encode .utf8 content = .ok bytes) :
    ∀ call ∈ (run runner plan directory content).calls, call.content = some bytes := by
  intro call hcall
  rw [← run_usual] at hcall
  cases hmade : ((usual runner).materialize directory content).result with
  | error fault =>
    rw [run_of_error hmade] at hcall
    cases hcall
  | ok serial =>
    obtain ⟨-, written, hwritten, hdirectory⟩ := materialize_eq_ok hmade
    obtain rfl := Except.ok.inj (hbytes.symm.trans hwritten)
    rw [run_of_ok hmade] at hcall
    obtain rfl := List.mem_singleton.mp hcall
    rw [hdirectory, TempDirectory.read?_filled, if_pos rfl, TempDirectory.read?_opened, if_pos rfl]
    rfl

theorem length_calls_of_free (hbytes : Text.encode .utf8 content = .ok bytes)
    (hfree : directory.hindrance = none) : (run runner plan directory content).calls.length = 1 := by
  have hmade : ((usual runner).materialize directory content).result = .ok directory.fresh := by
    rw [materialize_usual]
    exact TempDirectory.materialize_of_free hfree hbytes
  rw [← run_usual, run_of_ok hmade]
  rfl

end

namespace CommandLine

theorem printed_lintContent {r : LintRequest} {w : Workspace} {s : Settings} {content printed : List Char}
    {issues : List Issue} (hrun : (r.report w s content).outcome = .ok issues)
    (hrender : render (r.terminal w) r.format (Stage.projection content issues) r.label = .ok printed) :
    (r.lintContent w s content).printed = printed := by
  have hreport : run w.runner ⟨s, w.system, s.timeout, []⟩ w.temporary (Text.ofChars content) =
      r.report w s content := rfl
  have hprojection : Projection.ofIssues (LineIndex.ofChars content).lookup issues =
      Stage.projection content issues := rfl
  simp only [LintRequest.lintContent, hreport, hrun, hprojection, hrender]

/-- What a document that is linted starts and prints is what the linting of its content does. -/
theorem perform_eq_lintContent {r : LintRequest} {w : Workspace} {words : List Word} {s : Settings}
    {content : List Char} (hwords : Request.ofWords words = .ok (.lint r)) (haccepted : r.Accepted w)
    (hsettings : r.settings w = .ok s) (hchosen : r.Chooses w s)
    (hread : w.readDocument (r.document w) = .ok content) :
    (perform w words).calls = (r.report w s content).calls ∧
      (perform w words).printed = (r.lintContent w s content).printed := by
  obtain ⟨records, hlinted⟩ := perform_reads haccepted hsettings hchosen hread
  have hperform : perform w words = { r.lintContent w s content with records := records } := by
    rw [← hlinted]
    simp only [perform, hwords]
  rw [hperform]
  exact ⟨(ending_lintContent r w s content).1, rfl⟩

/-- The linter is given the document with its terminators unified, and the findings are printed with
their offsets there. -/
theorem lint_hands_over_unified {w : Workspace} {words : List Word} {r : LintRequest} {s : Settings}
    {cs : List Char} (hwords : Request.ofWords words = .ok (.lint r)) (haccepted : r.Accepted w)
    (hsettings : r.settings w = .ok s) (hchosen : r.Chooses w s)
    (hread : w.tree.read w.directory (r.document w).chars = .ok (cs.flatMap String.utf8EncodeChar)) :
    let handed := Text.unifyNewlines cs
    let outcome := perform w words
    (∀ call ∈ outcome.calls, call.content = some (handed.flatMap String.utf8EncodeChar)) ∧
    (w.temporary.hindrance = none → outcome.calls.length = 1) ∧
    (handed.flatMap String.utf8EncodeChar = cs.flatMap String.utf8EncodeChar ↔ '\r' ∉ cs) ∧
    (∀ issues printed, (r.report w s handed).outcome = .ok issues →
      render (r.terminal w) r.format ((Stage.projection cs issues).unified cs) r.label = .ok printed →
      outcome.printed = printed) ∧
    (LineIndex.ofChars handed = LineIndex.ofChars cs ↔ ∀ n, ¬ SplitsBreak cs n) := by
  intro handed outcome
  have hcontent : w.readDocument (r.document w) = .ok handed :=
    Workspace.readDocument_eq_ok_iff.mpr ⟨cs, hread, rfl⟩
  obtain ⟨hcalls, hprinted⟩ := perform_eq_lintContent hwords haccepted hsettings hchosen hcontent
  have hbytes : Text.encode .utf8 (Text.ofChars handed) = .ok (handed.flatMap String.utf8EncodeChar) :=
    Text.encodeFrom_ofChars 0 handed
  simp only [outcome, hcalls, hprinted]
  refine ⟨content_of_mem_calls hbytes, length_calls_of_free hbytes, ?_, fun issues printed hrun hrender => ?_,
    ofChars_unifyNewlines_eq_iff cs⟩
  · rw [← Text.unifyNewlines_eq_self_iff]
    exact Text.flatMap_utf8EncodeChar_injective.eq_iff
  · refine printed_lintContent hrun ?_
    rw [Stage.projection, ofIssues_unifyNewlines]
    exact hrender

theorem lint_hands_over_line_feed :
    let tree : Tree := ⟨[(["ws".toList, "openapi.yaml".toList], .file [0x61, 0x0d, 0x62] false)]⟩
    let w : Workspace := ⟨tree, Path.ofString "/ws", [], "Linux", fun _ _ d => ⟨.ok ⟨0, "[]", ""⟩, d, []⟩,
      ⟨Path.ofString "/tmp", none, []⟩, ⟨80, id⟩⟩
    let words : List Word := ["lint", "openapi.yaml", "-f", "json"].map String.toList
    let r : LintRequest := ⟨"openapi.yaml".toList, Path.ofChars [], none, none, .json, false, false, true,
      true⟩
    let s : Settings := { Settings.defaults with projectRoot := some (Path.ofString "/ws") }
    Request.ofWords words = .ok (.lint r) ∧ r.Accepted w ∧ r.settings w = .ok s ∧ r.Chooses w s ∧
      w.tree.read w.directory (r.document w).chars =
        .ok (['a', '\r', 'b'].flatMap String.utf8EncodeChar) ∧
      ∀ call ∈ (perform w words).calls, call.content = some [0x61, 0x0a, 0x62] := by
  intro tree w words r s
  have hwords : Request.ofWords words = .ok (.lint r) := rfl
  have haccepted : r.Accepted w := ⟨by decide, by decide, rfl⟩
  have hsettings : r.settings w = .ok s := by decide +kernel
  have hchosen : r.Chooses w s := Or.inr (by decide +kernel)
  have hread : w.tree.read w.directory (r.document w).chars =
      .ok (['a', '\r', 'b'].flatMap String.utf8EncodeChar) := rfl
  have hcalls := (lint_hands_over_unified hwords haccepted hsettings hchosen hread).1
  exact ⟨hwords, haccepted, hsettings, hchosen, hread, hcalls⟩

/-- A document of two lines with a carriage return and a line feed between them. The linter is given
another one, and a finding about the second line is printed one character too far left. -/
theorem lint_of_carriage_return :
    let bytes : List UInt8 := [0x61, 0x0d, 0x0a, 0x62]
    let tree : Tree := ⟨[(["ws".toList, "openapi.yaml".toList], .file bytes false)]⟩
    let i : Issue := ⟨"c", Text.ofString "m", .error, ⟨⟨1, 0⟩, ⟨1, 1⟩⟩, some 0, [], none⟩
    let finding := "[\x7b\"code\":\"c\",\"message\":\"m\",\"severity\":0,\"range\":\x7b" ++
      "\"start\":\x7b\"line\":1,\"character\":0\x7d,\"end\":\x7b\"line\":1,\"character\":1\x7d\x7d\x7d]"
    let w : Workspace := ⟨tree, Path.ofString "/ws", [], "Linux", fun _ _ d => ⟨.ok ⟨1, finding, ""⟩, d, []⟩,
      ⟨Path.ofString "/tmp", none, []⟩, ⟨80, id⟩⟩
    let words : List Word := ["lint", "openapi.yaml", "-f", "json"].map String.toList
    let r : LintRequest := ⟨"openapi.yaml".toList, Path.ofChars [], none, none, .json, false, false, true,
      true⟩
    let s : Settings := { Settings.defaults with projectRoot := some (Path.ofString "/ws") }
    Request.ofWords words = .ok (.lint r) ∧ r.Accepted w ∧ r.settings w = .ok s ∧
      (inScope s (r.document w)).1 = true ∧
      w.tree.read w.directory (r.document w).chars = .ok bytes ∧
      Text.decode bytes = .ok ['a', '\r', '\n', 'b'] ∧
      i.span (LineIndex.ofChars ['a', '\r', '\n', 'b']).lookup = .ok ⟨3, 4⟩ ∧
      (perform w words).calls.map Call.content = [some [0x61, 0x0a, 0x62]] ∧
      (perform w words).printed =
        (Projection.renderJson ⟨[i.annotation ⟨2, 3⟩], none, []⟩ "openapi.yaml").toList ++ ['\n'] := by
  intro bytes tree i finding w words r s
  have hwords : Request.ofWords words = .ok (.lint r) := rfl
  have haccepted : r.Accepted w := ⟨by decide, by decide, rfl⟩
  have hsettings : r.settings w = .ok s := by decide +kernel
  have hscope : (inScope s (r.document w)).1 = true := by decide +kernel
  have hread : w.readDocument (r.document w) = .ok ['a', '\n', 'b'] := by decide +kernel
  have hrun : (r.report w s ['a', '\n', 'b']).outcome = .ok [i] := by decide +kernel
  have hprojection : Stage.projection ['a', '\n', 'b'] [i] = ⟨[i.annotation ⟨2, 3⟩], none, []⟩ := by decide
  have hrender : render (r.terminal w) r.format (Stage.projection ['a', '\n', 'b'] [i]) r.label =
      .ok ((Projection.renderJson ⟨[i.annotation ⟨2, 3⟩], none, []⟩ "openapi.yaml").toList ++ ['\n']) := by
    rw [hprojection]
    rfl
  obtain ⟨hcalls, hprinted⟩ := perform_eq_lintContent hwords haccepted hsettings (Or.inr hscope) hread
  exact ⟨hwords, haccepted, hsettings, hscope, rfl, by decide +kernel, by decide,
    (congrArg (List.map Call.content) hcalls).trans rfl,
    hprinted.trans (printed_lintContent hrun hrender)⟩

end CommandLine

end ApiLint
