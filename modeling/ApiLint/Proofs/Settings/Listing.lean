import ApiLint.Proofs.Scope.Patterns
import ApiLint.Proofs.Settings.Precedence

/-! Included files that a file lists. A list of texts is always accepted, and the patterns of the settings
are its items, in their order, when each is a pattern already; the end of a line and blanks at the ends of
an item are what gets lost. -/

namespace ApiLint.Settings

open Schema

/-- The included files as the last field of a file that has them gives them. -/
def listed? (fields : Fields) : Option Value :=
  (fields.reverse.find? fun f => isIncludedFiles f.1).map Prod.snd

namespace Tables

/-- The included files come from a file, which lists these texts. -/
structure Lists (t : Tables) (items : List String) : Prop where
  overrides : given? (Text.ofString "included_files") t.overrides = none
  environment : fromVariable? "included_files" t.environment = none
  file : (listed? t.own).or (listed? t.project) = some (.list (items.map Value.string))

end Tables

variable {t : Tables} {items : List String} {s : Settings}

theorem spelled?_included (fields : Fields) :
    spelled? (Text.ofString "included_files") fields =
      (listed? fields).map (normalValue (Text.ofString "included_files")) := by
  rw [spelled?, listed?]
  induction fields.reverse with
  | nil => rfl
  | cons f fields ih =>
    rw [List.findSome?_cons, List.find?_cons, ih]
    by_cases hf : normalKey f.1 = Text.ofString "included_files" <;> simp [isIncludedFiles, hf]

theorem joinItems_strings (items : List String) :
    joinItems (items.map Value.string) =
      .text (Text.ofChars (Text.joinWith ['\n'] (items.map String.toList))) := by
  have hshown : Value.shown ∘ Value.string = String.toList := by
    funext item
    simp [Value.string, Value.shown, Text.ofString]
  rw [joinItems, List.map_map, hshown]

namespace Tables.Lists

theorem winning?_eq (h : t.Lists items) :
    t.winning? "included_files" =
      some (.text (Text.ofChars (Text.joinWith ['\n'] (items.map String.toList)))) := by
  have hroot : t.sets? "included_files" .root = none := by simp [sets?]
  have hfile : (t.sets? "included_files" .ownFile).or (t.sets? "included_files" .projectFile) =
      some (joinItems (items.map Value.string)) := by
    rw [sets?, sets?, spelled?_included, spelled?_included, ← Option.map_or, h.file]
    rfl
  rw [winning?, Layer.all]
  simp only [findSome?_cons_or, List.findSome?_nil, Option.or_none, hroot]
  rw [hfile, joinItems_strings, sets?, h.overrides, sets?, h.environment]
  rfl

theorem accepts (h : t.Lists items) {v : Value} (hv : t.winning? "included_files" = some v) :
    Accepts "included_files" v := by
  rw [h.winning?_eq] at hv
  cases hv
  exact ⟨_, rfl⟩

/-- The list is no reason to refuse the settings. -/
theorem exists_load_iff (h : t.Lists items) :
    (∃ s, t.load = .ok s) ↔
      t.OnlyKnown ∧
        (∀ name ∈ names, name ≠ "included_files" → ∀ v, t.winning? name = some v → Accepts name v) ∧
        ¬ ListsUnwritable t.project ∧ ¬ ListsUnwritable t.own ∧ t.RootNamed := by
  rw [Tables.exists_load_iff]
  refine and_congr_right fun _ => and_congr_left fun _ => ?_
  constructor
  · exact fun hall name hname _ => hall name hname
  · intro hall name hname v hv
    by_cases hfiles : name = "included_files"
    · subst hfiles
      exact h.accepts hv
    · exact hall name hname hfiles v hv

theorem inclusionPatterns_eq (h : t.Lists items) (hs : t.load = .ok s) :
    s.inclusionPatterns = Scope.patterns (Text.joinWith ['\n'] (items.map String.toList)) := by
  obtain ⟨-, -, u, hu, hplace⟩ := Tables.load_eq_ok_iff.mp hs
  obtain ⟨-, -, hfiles, -⟩ := ofFields_eq_ok_iff.mp hu
  obtain ⟨-, rfl⟩ := place_plain_eq_ok_iff.mp hplace
  rw [optional, fieldOf?_merged, h.winning?_eq] at hfiles
  have hincluded : String.ofList (Text.joinWith ['\n'] (items.map String.toList)) = u.includedFiles := by
    simpa [checkString, checkText, Checked.under, Except.map] using hfiles
  rw [inclusionPatterns, ← hincluded, String.toList_ofList]

end Tables.Lists

/-- The patterns of any text stand on lines of their own and are read again as they are. So a list of texts
in a file, which never keeps the settings from being loaded, gives the patterns that are its items when each
item has this form, and only then. -/
theorem patterns_read_again :
    (∀ text : List Char, (∀ pattern ∈ Scope.patterns text, Scope.IsPattern pattern) ∧
      Scope.patterns (Text.joinWith ['\n'] (Scope.patterns text)) = Scope.patterns text) ∧
    ∀ (t : Tables) (items : List String), t.Lists items →
      ((∃ s, t.load = .ok s) ↔
        t.OnlyKnown ∧
          (∀ name ∈ names, name ≠ "included_files" → ∀ v, t.winning? name = some v → Accepts name v) ∧
          ¬ ListsUnwritable t.project ∧ ¬ ListsUnwritable t.own ∧ t.RootNamed) ∧
      (∀ sources, t.Hold sources → Settings.load t.root sources = t.load) ∧
      ∀ s, t.load = .ok s →
        (s.inclusionPatterns = items.map String.toList ↔
          ∀ item ∈ items, Scope.IsPattern item.toList) := by
  refine ⟨fun text => ⟨fun _ => Scope.isPattern_of_mem, ?_⟩, fun t items h => ?_⟩
  · exact Scope.patterns_joinWith fun _ => Scope.isPattern_of_mem
  · refine ⟨h.exists_load_iff, fun _ hold => hold.load_eq, fun s hs => ?_⟩
    rw [h.inclusionPatterns_eq hs, Scope.patterns_joinWith_iff, List.forall_mem_map]

/-- A carriage return at the end of an item is lost with the line feed behind it. -/
theorem patterns_read_again_without_return :
    let t : Tables := ⟨Path.ofString "/ws", [],
      [(Text.ofString "included-files", .list (["a\r", "b", "b"].map Value.string))], [], []⟩
    let file := "included-files = [\"a\\r\", 'b', 'b']".toList.flatMap String.utf8EncodeChar
    let sources : Sources := ⟨.missing, .bytes file, .plain, [], []⟩
    let s : Settings :=
      { defaults with includedFiles := "a\r\nb\nb", projectRoot := some (Path.ofString "/ws") }
    t.Lists ["a\r", "b", "b"] ∧ load t.root sources = .ok s ∧
      s.inclusionPatterns = [['a'], ['b'], ['b']] ∧
      s.inclusionPatterns ≠ ["a\r", "b", "b"].map String.toList := by
  intro t file sources s
  have hlists : t.Lists ["a\r", "b", "b"] := ⟨rfl, rfl, rfl⟩
  have hhold : t.Hold sources := ⟨⟨[], rfl, rfl⟩, rfl, rfl, rfl, fun _ => rfl, fun _ => rfl⟩
  have hload : t.load = .ok s := rfl
  have hreturn : ¬ Scope.IsPattern "a\r".toList := fun h => absurd (h.line '\r' (by decide)) (by decide)
  obtain ⟨-, hsources, hiff⟩ := patterns_read_again.2 t _ hlists
  refine ⟨hlists, (hsources _ hhold).trans hload, by decide, ?_⟩
  exact fun hsame => hreturn ((hiff s hload).mp hsame _ List.mem_cons_self)

end ApiLint.Settings
