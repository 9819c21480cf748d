import ApiLint.Proofs.CommandLine.Agreement
import ApiLint.Proofs.Scope.Spelling
import ApiLint.Proofs.Settings.Spelling

/-! One project whose root the configuration spells in two ways, by an absolute path and by its normal form.
The settings are loaded under both or under neither. A spelling without steps back makes no difference to
which documents are linted. Under one with a step back only rooted patterns bring in documents, though under
the normal form a relative pattern brings in all that lie below. -/

namespace ApiLint.CommandLine

open Scope Settings

theorem Workspace.loops_of_no_links {w : Workspace} (h : ∀ n ∈ w.tree.nodes, n.2 ≠ .loop) (place : Path) :
    w.loops place = false := by
  have hplace := w.tree.locate_ne_loop h w.directory place.chars
  unfold loops
  split
  · contradiction
  · rfl

/-- The tables that a request finds in a workspace. -/
structure LintRequest.Finds (r : LintRequest) (w : Workspace) (t : Tables) : Prop where
  root : t.root = Path.resolve w.directory r.root
  hold : t.Hold (w.sources t.root r.overrides)

theorem LintRequest.Finds.settings_eq {r : LintRequest} {w : Workspace} {t : Tables} (h : r.Finds w t) :
    r.settings w = t.load := by
  have hloops : w.loops t.root = false := h.hold.loops t.root
  rw [LintRequest.settings, ← h.root, Workspace.settings, if_neg (by simp [hloops]), h.hold.load_eq]

section

variable {s s' : Settings} {p q d : Path}

theorem inScope_of_parts (hfiles : s'.includedFiles = s.includedFiles) (hroot : s.projectRoot = some p)
    (hroot' : s'.projectRoot = some q) (hp : p.isAbsolute = true) (hq : q.isAbsolute = true)
    (hparts : q.parts = p.parts) : (inScope s' d).1 = (inScope s d).1 := by
  rw [Bool.eq_iff_iff, inScope_iff, inScope_iff, hroot, hroot', inclusionPatterns, inclusionPatterns, hfiles]
  exact and_congr Iff.rfl (isIncluded_of_parts hq hp hparts _ _)

theorem inScope_under_back_iff (hroot : s.projectRoot = some p) (hp : p.isAbsolute = true)
    (hback : Path.back ∈ p.parts) (hpath : Straight d.chars) :
    (inScope s d).1 = true ↔ RootedMatch d.chars s.inclusionPatterns := by
  rw [inScope_iff, hroot]
  exact (and_iff_right rfl).trans (isIncluded_under_back_iff (back_mem_segments hp hback) hpath)

end

section

variable {r : LintRequest} {w : Workspace} {s : Settings} {p : Path}

theorem LintRequest.accepted_listing (h : r.Accepted w) (text : String) : r.Accepted (w.listing text) :=
  ⟨h.1, h.2.1, h.2.2⟩

theorem LintRequest.settings_listing (text : String) (hblank : Text.blank text.toList = false)
    (hs : r.settings w = .ok s) : r.settings (w.listing text) = .ok { s with includedFiles := text } :=
  Workspace.settings_listing hblank (r.written?_overrides (by decide) (by decide)) hs

/-- Under a root that steps back a document is left out unless a rooted pattern matches it. -/
theorem LintRequest.code_under_back_iff (haccepted : r.Accepted w) (hforce : r.force = false)
    (hs : r.settings w = .ok s) (hroot : s.projectRoot = some p) (hp : p.isAbsolute = true)
    (hback : Path.back ∈ p.parts) (hpath : Straight (r.document w).chars) :
    (r.perform w).ending.code = 3 ↔ ¬ RootedMatch (r.document w).chars s.inclusionPatterns := by
  rw [LintRequest.code_eq_three_iff haccepted hforce hs, ← Bool.not_eq_true,
    inScope_under_back_iff hroot hp hback hpath]

/-- Included files that bring in all documents below the project root. -/
def filesBelow : String := String.ofList anythingBelow

theorem patterns_filesBelow : patterns filesBelow.toList = [anythingBelow] := by decide

theorem LintRequest.code_filesBelow_under_back (haccepted : r.Accepted w) (hforce : r.force = false)
    (hs : r.settings w = .ok s) (hroot : s.projectRoot = some p) (hp : p.isAbsolute = true)
    (hback : Path.back ∈ p.parts) (hpath : Straight (r.document w).chars) :
    (r.perform (w.listing filesBelow)).ending.code = 3 := by
  have hlisted := settings_listing filesBelow (by decide) hs
  rw [code_under_back_iff (accepted_listing haccepted filesBelow) hforce hlisted hroot hp hback hpath,
    inclusionPatterns, patterns_filesBelow]
  rintro ⟨pattern, hmem, hrooted, -⟩
  rw [List.mem_singleton.mp hmem] at hrooted
  exact absurd hrooted (by decide)

theorem LintRequest.code_filesBelow (haccepted : r.Accepted w) (hforce : r.force = false)
    (hs : r.settings w = .ok s) (hroot : s.projectRoot = some p) (hp : p.isAbsolute = true)
    (hbelow : Below p.chars (r.document w).chars) :
    (r.perform (w.listing filesBelow)).ending.code ≠ 3 := by
  have hlisted := settings_listing filesBelow (by decide) hs
  have hdocument : (r.document w).isAbsolute = true := Path.isAbsolute_resolve _ _
  have hscope : (inScope { s with includedFiles := filesBelow } (r.document w)).1 = true := by
    rw [inScope_iff, inclusionPatterns, patterns_filesBelow, hroot]
    exact ⟨rfl, isIncluded_anythingBelow (opened_absolute hp) (opened_absolute hdocument) hbelow⟩
  rw [ne_eq, code_eq_three_iff (accepted_listing haccepted filesBelow) hforce hlisted, Bool.not_eq_false]
  exact hscope

end

/-- A request in two workspaces with one project, whose root the configuration spells in two ways: by an
absolute path and by its normal form. -/
structure SameProject (w w' : Workspace) (words : List Word) (r : LintRequest) (text text' : Text) : Prop where
  lint : Request.ofWords words = .ok (.lint r)
  directory : w'.directory = w.directory
  accepted : r.Accepted w
  accepted' : r.Accepted w'
  normal : Normalizes text text'
  tables : ∃ t t', r.Finds w t ∧ r.Finds w' t' ∧ Respelled text text' t t'

namespace SameProject

variable {w w' : Workspace} {words : List Word} {r : LintRequest} {text text' : Text} {s s' : Settings}

theorem document (h : SameProject w w' words r text text') : r.document w' = r.document w := by
  rw [LintRequest.document, LintRequest.document, h.directory]

theorem exists_settings_iff (h : SameProject w w' words r text text') :
    (∃ s, r.settings w' = .ok s) ↔ ∃ s, r.settings w = .ok s := by
  obtain ⟨t, t', hfinds, hfinds', hrespelled⟩ := h.tables
  rw [hfinds.settings_eq, hfinds'.settings_eq, hrespelled.exists_load_iff h.normal]

theorem settings_eq (h : SameProject w w' words r text text') (hs : r.settings w = .ok s)
    (hs' : r.settings w' = .ok s') :
    s'.includedFiles = s.includedFiles ∧ (s'.projectRoot = s.projectRoot ∨
      s.projectRoot = some (pathOf text) ∧ s'.projectRoot = some (pathOf text')) := by
  obtain ⟨t, t', hfinds, hfinds', hrespelled⟩ := h.tables
  exact hrespelled.load_eq h.normal (hfinds.settings_eq.symm.trans hs) (hfinds'.settings_eq.symm.trans hs')

theorem chooses_iff (h : SameProject w w' words r text text') (hback : Path.back ∉ (pathOf text).parts)
    (hs : r.settings w = .ok s) (hs' : r.settings w' = .ok s') : r.Chooses w' s' ↔ r.Chooses w s := by
  obtain ⟨hfiles, hroots⟩ := h.settings_eq hs hs'
  have hscope : (inScope s' (r.document w)).1 = (inScope s (r.document w)).1 := by
    rcases hroots with hsame | ⟨hroot, hroot'⟩
    · exact inScope_congr hfiles hsame ⟨rfl, rfl, rfl⟩
    · refine inScope_of_parts hfiles hroot hroot' h.normal.absolute h.normal.absolute' ?_
      rw [h.normal.parts, Path.stepBack_of_not_mem hback, List.reverse_nil, List.nil_append]
  rw [LintRequest.Chooses, LintRequest.Chooses, h.document, hscope]

theorem code_perform (h : SameProject w w' words r text text') (v : Workspace) :
    (perform v words).ending.code = (r.perform v).ending.code := by
  simp only [perform, h.lint]

theorem code_of_no_back (h : SameProject w w' words r text text') (hback : Path.back ∉ (pathOf text).parts) :
    (perform w words).ending.code = 3 ↔ (perform w' words).ending.code = 3 := by
  rw [h.code_perform, h.code_perform, LintRequest.code_eq_three_iff_not_chosen h.accepted,
    LintRequest.code_eq_three_iff_not_chosen h.accepted']
  constructor
  · rintro ⟨s, hs, hnot⟩
    obtain ⟨s', hs'⟩ := h.exists_settings_iff.mpr ⟨s, hs⟩
    exact ⟨s', hs', fun hchosen => hnot ((h.chooses_iff hback hs hs').mp hchosen)⟩
  · rintro ⟨s', hs', hnot⟩
    obtain ⟨s, hs⟩ := h.exists_settings_iff.mp ⟨s', hs'⟩
    exact ⟨s, hs, fun hchosen => hnot ((h.chooses_iff hback hs hs').mpr hchosen)⟩

/-- Settings are loaded under both spellings of the project root or under neither. Without a step back in
the root they choose the same documents. With one, a document is left out unless a rooted pattern matches it,
and there are included files that bring in every document below the directory under the normal form and leave
it out under the other. -/
theorem lint_decides_as_under_normal_root (h : SameProject w w' words r text text') :
    ((∃ s, r.settings w' = .ok s) ↔ ∃ s, r.settings w = .ok s) ∧
    (Path.back ∉ (pathOf text).parts →
      ((perform w words).ending.code = 3 ↔ (perform w' words).ending.code = 3)) ∧
    (Path.back ∈ (pathOf text).parts → r.force = false → Straight (r.document w).chars →
      ∀ s s', r.settings w = .ok s → r.settings w' = .ok s' →
        s.projectRoot = some (pathOf text) → s'.projectRoot = some (pathOf text') →
        ((perform w words).ending.code = 3 ↔ ¬ RootedMatch (r.document w).chars s.inclusionPatterns) ∧
        (Below (pathOf text').chars (r.document w).chars →
          ∃ files, (perform (w.listing files) words).ending.code = 3 ∧
            (perform (w'.listing files) words).ending.code ≠ 3)) := by
  refine ⟨h.exists_settings_iff, h.code_of_no_back, ?_⟩
  intro hback hforce hpath s s' hs hs' hroot hroot'
  have habsolute := h.normal.absolute
  have habsolute' := h.normal.absolute'
  simp only [h.code_perform]
  refine ⟨LintRequest.code_under_back_iff h.accepted hforce hs hroot habsolute hback hpath, fun hbelow => ?_⟩
  rw [← h.document] at hbelow
  exact ⟨filesBelow,
    LintRequest.code_filesBelow_under_back h.accepted hforce hs hroot habsolute hback hpath,
    LintRequest.code_filesBelow h.accepted' hforce hs' hroot' habsolute' hbelow⟩

def settingsNaming (root : String) : List UInt8 :=
  ("project-root = '" ++ root ++ "'\nincluded-files = ['?*/**/openapi.yaml']").toList.flatMap
    String.utf8EncodeChar

def workspaceNaming (root : String) : Workspace :=
  let file (name : String) : List (List Char) := ["tmp".toList, "ws".toList, name.toList]
  ⟨⟨[(file "openapi.yaml", .file [0x61] false), (file ".speclint.toml", .file (settingsNaming root) false)]⟩,
    Path.ofString "/tmp/ws", [], "Linux", fun _ _ d => ⟨.ok ⟨0, "[]", ""⟩, d, []⟩,
    ⟨Path.ofString "/tmp", none, []⟩, ⟨80, id⟩⟩

def lintWords : List Word := ["lint", "openapi.yaml", "-f", "json"].map String.toList

def documentRequest : LintRequest :=
  ⟨"openapi.yaml".toList, Path.ofChars [], none, none, .json, false, false, true, true⟩

def tablesNaming (root : String) : Tables :=
  ⟨Path.ofString "/tmp/ws", [], [(Text.ofString "project-root", .string root),
    (Text.ofString "included-files", .list [.string "?*/**/openapi.yaml"])], [], documentRequest.overrides⟩

theorem finds_tablesNaming {root : String} (h : root ∈ ["/tmp/.", "/tmp", "/tmp/..", "/"]) :
    documentRequest.Finds (workspaceNaming root) (tablesNaming root) := by
  have hloops : ∀ p, (workspaceNaming root).loops p = false :=
    Workspace.loops_of_no_links (by simp [workspaceNaming])
  simp only [List.mem_cons, List.not_mem_nil, or_false] at h
  rcases h with rfl | rfl | rfl | rfl <;> exact ⟨rfl, ⟨[], rfl, rfl⟩, rfl, rfl, rfl, hloops, nofun⟩

theorem sameProject_naming {root root' : String} (h : root ∈ ["/tmp/.", "/tmp", "/tmp/..", "/"])
    (h' : root' ∈ ["/tmp/.", "/tmp", "/tmp/..", "/"])
    (hnormal : Normalizes (Text.ofString root) (Text.ofString root')) :
    SameProject (workspaceNaming root) (workspaceNaming root') lintWords documentRequest
      (Text.ofString root) (Text.ofString root') := by
  have haccepted : ∀ root, documentRequest.Accepted (workspaceNaming root) :=
    fun _ => ⟨by decide, by decide, rfl⟩
  have hkey : normalKey (Text.ofString "project-root") = Text.ofString "project_root" := by decide
  refine ⟨by decide +kernel, rfl, haccepted root, haccepted root', hnormal, tablesNaming root,
    tablesNaming root', finds_tablesNaming h, finds_tablesNaming h', ?_⟩
  exact ⟨rfl, .nil, .cons (.root hkey) (.cons (.same _) .nil), rfl, rfl⟩

def settingsUnder (root : Path) : Settings :=
  { defaults with includedFiles := "?*/**/openapi.yaml", projectRoot := some root }

theorem settings_workspaceNaming {root : String} (h : root ∈ ["/tmp/.", "/tmp", "/tmp/..", "/"]) :
    documentRequest.settings (workspaceNaming root) = .ok (settingsUnder (Path.ofString root)) := by
  rw [(finds_tablesNaming h).settings_eq]
  simp only [List.mem_cons, List.not_mem_nil, or_false] at h
  rcases h with rfl | rfl | rfl | rfl <;> rfl

/-- A step that stays where it is, and one that leads back. -/
theorem lint_decides_as_under_normal_root_of_dots :
    let w := workspaceNaming
    let r := documentRequest
    let text := Text.ofString
    (SameProject (w "/tmp/.") (w "/tmp") lintWords r (text "/tmp/.") (text "/tmp") ∧
        Path.back ∉ (pathOf (text "/tmp/.")).parts ∧ (perform (w "/tmp") lintWords).ending.code ≠ 3 ∧
        (perform (w "/tmp/.") lintWords).ending.code ≠ 3) ∧
      (SameProject (w "/tmp/..") (w "/") lintWords r (text "/tmp/..") (text "/") ∧
        Path.back ∈ (pathOf (text "/tmp/..")).parts ∧ r.force = false ∧
        Straight (r.document (w "/tmp/..")).chars ∧
        r.settings (w "/tmp/..") = .ok (settingsUnder (pathOf (text "/tmp/.."))) ∧
        r.settings (w "/") = .ok (settingsUnder (pathOf (text "/"))) ∧
        Below (pathOf (text "/")).chars (r.document (w "/tmp/..")).chars ∧
        ∃ files, (perform ((w "/tmp/..").listing files) lintWords).ending.code = 3 ∧
          (perform ((w "/").listing files) lintWords).ending.code ≠ 3) := by
  intro w r text
  have hstay : SameProject (w "/tmp/.") (w "/tmp") lintWords r (text "/tmp/.") (text "/tmp") :=
    sameProject_naming (by decide) (by decide) ⟨by decide, by decide, by decide⟩
  have hlead : SameProject (w "/tmp/..") (w "/") lintWords r (text "/tmp/..") (text "/") :=
    sameProject_naming (by decide) (by decide) ⟨by decide, by decide, by decide⟩
  have hscope : (inScope (settingsUnder (Path.ofString "/tmp")) (r.document (w "/tmp"))).1 = true := by
    decide +kernel
  have hcode : (perform (w "/tmp") lintWords).ending.code ≠ 3 := by
    rw [ne_eq, hstay.code_perform, LintRequest.code_eq_three_iff hstay.accepted' rfl
      (settings_workspaceNaming (by decide)), hscope]
    exact Bool.noConfusion
  have hback : Path.back ∉ (pathOf (text "/tmp/.")).parts := by decide
  have hback' : Path.back ∈ (pathOf (text "/tmp/..")).parts := by decide
  have hstraight : Straight (r.document (w "/tmp/..")).chars := by
    unfold Straight
    decide +kernel
  have hsettings : r.settings (w "/tmp/..") = .ok (settingsUnder (pathOf (text "/tmp/.."))) :=
    settings_workspaceNaming (by decide)
  have hsettings' : r.settings (w "/") = .ok (settingsUnder (pathOf (text "/"))) :=
    settings_workspaceNaming (by decide)
  have hbelow : Below (pathOf (text "/")).chars (r.document (w "/tmp/..")).chars :=
    ⟨"tmp".toList, ["ws".toList, "openapi.yaml".toList], by decide +kernel⟩
  obtain ⟨-, hiff, -⟩ := lint_decides_as_under_normal_root hstay
  obtain ⟨-, -, hdiffer⟩ := lint_decides_as_under_normal_root hlead
  exact ⟨⟨hstay, hback, hcode, fun h => hcode ((hiff hback).mp h)⟩, hlead, hback', rfl, hstraight, hsettings,
    hsettings', hbelow, (hdiffer hback' rfl hstraight _ _ hsettings hsettings' rfl rfl).2 hbelow⟩

/-- Under a root that steps back to the directory of all files a document is left out that the pattern
brings in under the normal form. -/
theorem lint_under_root_that_steps_back :
    SameProject (workspaceNaming "/tmp/..") (workspaceNaming "/") lintWords documentRequest
        (Text.ofString "/tmp/..") (Text.ofString "/") ∧
      (perform (workspaceNaming "/tmp/..") lintWords).ending.code = 3 ∧
      (perform (workspaceNaming "/") lintWords).ending.code ≠ 3 := by
  have hsame : SameProject (workspaceNaming "/tmp/..") (workspaceNaming "/") lintWords documentRequest
      (Text.ofString "/tmp/..") (Text.ofString "/") :=
    sameProject_naming (by decide) (by decide) ⟨by decide, by decide, by decide⟩
  have hout : (inScope (settingsUnder (Path.ofString "/tmp/.."))
      (documentRequest.document (workspaceNaming "/tmp/.."))).1 = false := by
    decide +kernel
  have hin : (inScope (settingsUnder (Path.ofString "/"))
      (documentRequest.document (workspaceNaming "/"))).1 = true := by
    decide +kernel
  rw [ne_eq, hsame.code_perform, hsame.code_perform,
    LintRequest.code_eq_three_iff hsame.accepted rfl (settings_workspaceNaming (by decide)),
    LintRequest.code_eq_three_iff hsame.accepted' rfl (settings_workspaceNaming (by decide)), hin]
  exact ⟨hsame, hout, Bool.noConfusion⟩

end SameProject

end ApiLint.CommandLine
