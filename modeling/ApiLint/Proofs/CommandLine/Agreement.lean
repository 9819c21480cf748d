import ApiLint.Proofs.CommandLine.Stages
import ApiLint.Proofs.Scope.Exclusion
import ApiLint.Proofs.Settings.Fields

/-! Two commands that decide on one document: to tell whether its path is included, and to lint it. The
one takes the path as it is written and the other resolves it first. They agree on every path that does
not step back; on one that does, it takes no more than a variable of the environment to part them. -/

namespace ApiLint.CommandLine

open Glob Scope

section

variable {s s' : Settings} {p q base : Path}

/-- The record of a command's decision can always be written. -/
theorem shouldLint_inScope (levels : Nat) (s : Settings) (p : Path) :
    shouldLint (levels + 1) ['/'] (basePlace s.projectRoot) (.path p.chars) s.inclusionPatterns =
      .ok (inScope s p) :=
  shouldLint_of_writes (Place.writingFault?_eq_none_iff.mp (by cases s.projectRoot <;> rfl))
    (Place.writingFault?_eq_none_iff.mp rfl)

theorem inScope_iff : (inScope s p).1 = true ↔ (basePlace s.projectRoot).isMissing = false ∧
    isIncluded '/' (basePlace s.projectRoot) (.path p.chars) s.inclusionPatterns = .ok true :=
  decision_iff

theorem inScope_congr (hfiles : s.includedFiles = s'.includedFiles)
    (hroot : s.projectRoot = s'.projectRoot)
    (hpath : SamePath '/' (normalize ['/'] p.chars) (normalize ['/'] q.chars)) :
    (inScope s p).1 = (inScope s' q).1 := by
  rw [Bool.eq_iff_iff, inScope_iff, inScope_iff, isIncluded_path, isIncluded_path, hpath.anyMatches,
    Settings.inclusionPatterns, Settings.inclusionPatterns, hfiles, hroot]

theorem inScope_atLeast (n : Nat) (hroot : s.projectRoot = some base) (habsolute : p.isAbsolute = true) :
    (inScope { s with includedFiles := String.ofList (atLeast '/' n) } p).1 = true ↔
      n ≤ (segments '/' (normalize ['/'] p.chars)).length := by
  have hpatterns : patterns (String.ofList (atLeast '/' n)).toList = [atLeast '/' n] := by
    rw [String.toList_ofList, patterns_atLeast]
  rw [inScope_iff, Settings.inclusionPatterns, hpatterns, isIncluded_atLeast n _ habsolute, hroot]
  exact and_iff_right rfl

end

def IncludedRequest.settings (r : IncludedRequest) (w : Workspace) :
    Except Settings.LoadFault Settings :=
  w.settings (Path.resolve w.directory r.root) []

def Workspace.listing (w : Workspace) (text : String) : Workspace :=
  { w with environment := (Settings.includedVariable, text) :: w.environment }

theorem Workspace.settings_eq_ok_iff {w : Workspace} {root : Path} {overrides : Fields} {s : Settings} :
    w.settings root overrides = .ok s ↔
      w.loops root = false ∧ Settings.load root (w.sources root overrides) = .ok s := by
  unfold settings
  cases w.loops root <;> simp

theorem Workspace.settings_listing {w : Workspace} {root : Path} {overrides : Fields} {s : Settings}
    {text : String} (hblank : Text.blank text.toList = false)
    (hfiles : Settings.written? (Text.ofString "included_files") (Settings.givenFields overrides) = none)
    (h : w.settings root overrides = .ok s) :
    (w.listing text).settings root overrides = .ok { s with includedFiles := text } := by
  obtain ⟨hloops, hload⟩ := Workspace.settings_eq_ok_iff.mp h
  exact Workspace.settings_eq_ok_iff.mpr ⟨hloops, Settings.load_listed hblank hfiles hload⟩

section

variable {r : IncludedRequest} {r' : LintRequest} {w : Workspace} {s s' : Settings}

theorem IncludedRequest.code_eq_zero_iff (hnamed : '\x00' ∉ r.named) (hroot : '\x00' ∉ r.root.chars)
    (h : r.settings w = .ok s) :
    (r.perform w).ending.code = 0 ↔
      (inScope s (r.candidate (Path.resolve w.directory r.root))).1 = true := by
  have hnull : (r.named.contains '\x00' || r.root.chars.contains '\x00') = false := by
    simp [hnamed, hroot]
  have hsettings : w.settings (Path.resolve w.directory r.root) [] = .ok s := h
  simp only [perform, hnull, hsettings, decide, Bool.false_eq_true, if_false]
  cases (inScope s (r.candidate (Path.resolve w.directory r.root))).1 <;>
    simp [Workspace.ended, Ending.code, Exit.code]

theorem Stage.code_ending_eq_three_iff (r : LintRequest) (stage : Stage) :
    (stage.ending r w).code = 3 ↔ ∃ s, stage = .excluded s := by
  cases stage with
  | unsettled fault =>
    cases hreported : fault.isReported <;> simp [Stage.ending, hreported, Ending.code, Exit.code]
  | excluded s => simp [Stage.ending, Ending.code, Exit.code]
  | unread s fault => simp [Stage.ending, Ending.code, Exit.code]
  | failed s content fault => cases fault <;> simp [Stage.ending, Ending.code, Exit.code]
  | linted s content issues =>
    cases hrender : render (r.terminal w) r.format (Stage.projection content issues) r.label with
    | error fault => simp [Stage.ending, hrender, Ending.code]
    | ok printed =>
      cases herrors : (Stage.projection content issues).hasErrors <;>
        simp [Stage.ending, hrender, LintRequest.exitOf, herrors, Ending.code, Exit.code]

/-- A document is left out when the settings are loaded and do not choose it. -/
theorem LintRequest.code_eq_three_iff_not_chosen (haccepted : r'.Accepted w) :
    (r'.perform w).ending.code = 3 ↔ ∃ s, r'.settings w = .ok s ∧ ¬ r'.Chooses w s := by
  constructor
  · intro hcode
    obtain ⟨stage, hstage⟩ := exists_gets r' w
    rw [(perform_of_gets haccepted hstage).1, Stage.code_ending_eq_three_iff] at hcode
    obtain ⟨s, rfl⟩ := hcode
    cases hstage with
    | excluded hs hnot => exact ⟨s, hs, hnot⟩
  · rintro ⟨s, hs, hnot⟩
    rw [(perform_of_gets haccepted (.excluded hs hnot)).1]
    rfl

theorem LintRequest.code_eq_three_iff (haccepted : r'.Accepted w) (hforce : r'.force = false)
    (h : r'.settings w = .ok s') :
    (r'.perform w).ending.code = 3 ↔ (inScope s' (r'.document w)).1 = false := by
  rw [LintRequest.code_eq_three_iff_not_chosen haccepted, h]
  simp [Chooses, hforce]

theorem LintRequest.written?_overrides {key : Text} (r : LintRequest)
    (hruleset : Text.ofString "ruleset" ≠ key) (htimeout : Text.ofString "timeout" ≠ key) :
    Settings.written? key (Settings.givenFields r.overrides) = none := by
  refine Settings.written?_of_not_mem fun f hf => ?_
  have hmem := (List.mem_filter.mp hf).1
  rw [overrides, List.mem_cons, List.mem_singleton] at hmem
  rcases hmem with rfl | rfl
  · exact hruleset
  · exact htimeout

end

/-- Two commands about one document, which is named by an absolute path. -/
structure SameDocument (w : Workspace) (words words' : List Word) (r : IncludedRequest)
    (r' : LintRequest) : Prop where
  included : Request.ofWords words = .ok (.included r)
  lint : Request.ofWords words' = .ok (.lint r')
  named : r'.named = r.named
  root : r'.root = r.root
  force : r'.force = false
  accepted : r'.Accepted w
  absolute : r.path.isAbsolute = true

namespace SameDocument

variable {w : Workspace} {words words' : List Word} {r : IncludedRequest} {r' : LintRequest}
  {s s' : Settings}

theorem candidate (h : SameDocument w words words' r r') (root : Path) : r.candidate root = r.path := by
  rw [IncludedRequest.candidate, Path.join, if_pos h.absolute]

theorem document (h : SameDocument w words words' r r') :
    r'.document w = Path.resolve w.directory r.path := by
  rw [LintRequest.document, LintRequest.path, IncludedRequest.path, h.named]

theorem listing (h : SameDocument w words words' r r') (text : String) :
    SameDocument (w.listing text) words words' r r' :=
  ⟨h.included, h.lint, h.named, h.root, h.force, ⟨h.accepted.1, h.accepted.2.1, h.accepted.2.2⟩,
    h.absolute⟩

theorem code_included (h : SameDocument w words words' r r') (hs : r.settings w = .ok s) :
    (perform w words).ending.code = 0 ↔ (inScope s r.path).1 = true := by
  have hnamed : '\x00' ∉ r.named := h.named ▸ h.accepted.1
  have hroot : '\x00' ∉ r.root.chars := h.root ▸ h.accepted.2.1
  simp only [perform, h.included]
  rw [IncludedRequest.code_eq_zero_iff hnamed hroot hs, h.candidate]

theorem code_lint (h : SameDocument w words words' r r') (hs' : r'.settings w = .ok s') :
    (perform w words').ending.code = 3 ↔
      (inScope s' (Path.resolve w.directory r.path)).1 = false := by
  simp only [perform, h.lint]
  rw [LintRequest.code_eq_three_iff h.accepted h.force hs', h.document]

theorem settings_agree (h : SameDocument w words words' r r') (hs : r.settings w = .ok s)
    (hs' : r'.settings w = .ok s') : s.includedFiles = s'.includedFiles ∧ s.projectRoot = s'.projectRoot := by
  rw [IncludedRequest.settings, ← h.root, Workspace.settings_eq_ok_iff] at hs
  rw [LintRequest.settings, Workspace.settings_eq_ok_iff] at hs'
  refine Settings.load_agree hs.2 hs'.2 ?_ ?_
  · exact (r'.written?_overrides (by decide) (by decide)).symm
  · exact (r'.written?_overrides (by decide) (by decide)).symm

/-- The two commands agree on a path that does not step back. On one that does, there are included files
that the written path is one of and the resolved path is not. -/
theorem included_agrees_with_lint (h : SameDocument w words words' r r') (hs : r.settings w = .ok s)
    (hs' : r'.settings w = .ok s') :
    (Path.back ∉ r.path.parts →
        ((perform w words).ending.code = 0 ↔ (perform w words').ending.code ≠ 3)) ∧
      (Path.back ∈ r.path.parts → ∀ base, s.projectRoot = some base →
        ∃ text, (perform (w.listing text) words).ending.code = 0 ∧
          (perform (w.listing text) words').ending.code = 3) := by
  obtain ⟨hfiles, hroot⟩ := h.settings_agree hs hs'
  constructor
  · intro hback
    have hpath := samePath_resolve h.absolute hback w.directory
    rw [h.code_included hs, ne_eq, h.code_lint hs', inScope_congr hfiles hroot hpath, Bool.not_eq_false]
  · intro hback base hbase
    let n := (segments '/' (normalize ['/'] r.path.chars)).length
    let text := String.ofList (atLeast '/' n)
    have hblank : Text.blank text.toList = false := by
      obtain ⟨body, hbody⟩ := atLeast_eq_cons '/' n
      rw [String.toList_ofList, hbody]
      rfl
    have hlisted : r.settings (w.listing text) = .ok { s with includedFiles := text } :=
      Workspace.settings_listing hblank rfl hs
    have hlisted' : r'.settings (w.listing text) = .ok { s' with includedFiles := text } :=
      Workspace.settings_listing hblank (r'.written?_overrides (by decide) (by decide)) hs'
    refine ⟨text, ((h.listing text).code_included hlisted).mpr ?_,
      ((h.listing text).code_lint hlisted').mpr ?_⟩
    · exact (inScope_atLeast n hbase h.absolute).mpr (Nat.le_refl n)
    · rw [← Bool.not_eq_true, inScope_atLeast n (hroot ▸ hbase) (Path.isAbsolute_resolve _ _), Nat.not_le]
      exact length_segments_resolve_lt h.absolute hback w.directory

/-- One document, by its path and by a way around. -/
theorem included_agrees_with_lint_below_root :
    let tree : Tree := ⟨[(["ws".toList, "specs".toList, "api.yaml".toList], .file [0x61] false)]⟩
    let w : Workspace := ⟨tree, Path.ofString "/ws", [], "Linux", fun _ _ d => ⟨.ok ⟨0, "[]", ""⟩, d, []⟩,
      ⟨Path.ofString "/tmp", none, []⟩, ⟨80, id⟩⟩
    let words (command : String) (name : Word) : List Word :=
      [command.toList, name, "--root".toList, "/ws".toList]
    let r (name : Word) : IncludedRequest := ⟨name, Path.ofString "/ws", true⟩
    let r' (name : Word) : LintRequest :=
      ⟨name, Path.ofString "/ws", none, none, .table, false, false, true, true⟩
    let plain : Word := "/ws/specs/api.yaml".toList
    let around : Word := "/ws/specs/../specs/api.yaml".toList
    let s : Settings := { Settings.defaults with projectRoot := some (Path.ofString "/ws") }
    (SameDocument w (words "included" plain) (words "lint" plain) (r plain) (r' plain) ∧
        (r plain).settings w = .ok s ∧ (r' plain).settings w = .ok s ∧ Path.back ∉ (r plain).path.parts ∧
        (perform w (words "included" plain)).ending.code = 0 ∧
        (perform w (words "lint" plain)).ending.code ≠ 3) ∧
      (SameDocument w (words "included" around) (words "lint" around) (r around) (r' around) ∧
        (r around).settings w = .ok s ∧ (r' around).settings w = .ok s ∧
        Path.back ∈ (r around).path.parts ∧
        ∃ text, (perform (w.listing text) (words "included" around)).ending.code = 0 ∧
          (perform (w.listing text) (words "lint" around)).ending.code = 3) := by
  intro tree w words r r' plain around s
  have hplain : SameDocument w (words "included" plain) (words "lint" plain) (r plain) (r' plain) :=
    ⟨by decide +kernel, by decide +kernel, rfl, rfl, rfl,
      ⟨by decide, by decide, by decide +kernel⟩, by decide⟩
  have haround : SameDocument w (words "included" around) (words "lint" around) (r around) (r' around) :=
    ⟨by decide +kernel, by decide +kernel, rfl, rfl, rfl,
      ⟨by decide, by decide, by decide +kernel⟩, by decide⟩
  have hload : w.settings (Path.ofString "/ws") [] = .ok s := rfl
  have hsettings : ∀ name, (r name).settings w = .ok s := fun _ => hload
  have hsettings' : ∀ name, (r' name).settings w = .ok s := fun _ => hload
  have hstays : Path.back ∉ (r plain).path.parts := by decide
  have hback : Path.back ∈ (r around).path.parts := by decide
  have hscope : (inScope s (r plain).path).1 = true := by decide +kernel
  have hcode : (perform w (words "included" plain)).ending.code = 0 :=
    (hplain.code_included (hsettings plain)).mpr hscope
  have hagree := (included_agrees_with_lint hplain (hsettings plain) (hsettings' plain)).1 hstays
  have hdiffer := (included_agrees_with_lint haround (hsettings around) (hsettings' around)).2 hback _ rfl
  exact ⟨⟨hplain, hsettings plain, hsettings' plain, hstays, hcode, hagree.mp hcode⟩,
    haround, hsettings around, hsettings' around, hback, hdiffer⟩

/-- A path that steps back is not included, though the document that it leads to is in scope. -/
theorem included_differs_from_lint :
    let tree : Tree := ⟨[(["ws".toList, "specs".toList, "api.yaml".toList], .file [0x61] false)]⟩
    let w : Workspace := ⟨tree, Path.ofString "/ws", [("SPECLINT_INCLUDED_FILES", "specs/*.yaml")], "Linux",
      fun _ _ d => ⟨.ok ⟨0, "[]", ""⟩, d, []⟩, ⟨Path.ofString "/tmp", none, []⟩, ⟨80, id⟩⟩
    let words (command : String) : List Word :=
      [command, "/ws/specs/../specs/api.yaml", "--root", "/ws"].map String.toList
    let r : IncludedRequest := ⟨"/ws/specs/../specs/api.yaml".toList, Path.ofString "/ws", true⟩
    let r' : LintRequest := ⟨"/ws/specs/../specs/api.yaml".toList, Path.ofString "/ws", none, none, .table,
      false, false, true, true⟩
    let s : Settings := ⟨"spectral", ".spectral.yaml", "specs/*.yaml", Settings.defaults.timeout,
      some (Path.ofString "/ws"), none⟩
    SameDocument w (words "included") (words "lint") r r' ∧ r.settings w = .ok s ∧ r'.settings w = .ok s ∧
      w.readDocument (r'.document w) = .ok ['a'] ∧
      (perform w (words "included")).ending.code = 1 ∧ (perform w (words "lint")).ending.code ≠ 3 := by
  intro tree w words r r' s
  have hsame : SameDocument w (words "included") (words "lint") r r' :=
    ⟨by decide +kernel, by decide +kernel, rfl, rfl, rfl,
      ⟨by decide, by decide, by decide +kernel⟩, by decide⟩
  have hload : w.settings (Path.ofString "/ws") [] = .ok s := rfl
  have hsettings' : r'.settings w = .ok s := hload
  have hscope : (inScope s (Path.resolve w.directory r.path)).1 = true := by decide +kernel
  have hlint : (perform w (words "lint")).ending.code ≠ 3 := by
    rw [ne_eq, hsame.code_lint hsettings', hscope]
    exact Bool.noConfusion
  exact ⟨hsame, hload, hsettings', rfl, by decide +kernel, hlint⟩

end SameDocument

end ApiLint.CommandLine
