import ApiLint.Proofs.Faults
import ApiLint.Proofs.Issue.Fields
import ApiLint.Settings.Sources

/-! Sources of settings written over one another. The value of a field comes from what is written to it
and to no other field, and the settings are those of its fields. -/

namespace ApiLint.Settings

open Schema

variable {key : Text} {fields more : Fields}

def written? (key : Text) (more : Fields) : Option Value :=
  more.reverse.findSome? fun f => if f.1 = key then some f.2 else none

theorem get?_update (key : Text) (fields more : Fields) :
    Fields.get? key (update fields more) = (written? key more).or (Fields.get? key fields) := by
  induction more generalizing fields with
  | nil => rfl
  | cons f more ih =>
    have hput : update fields (f :: more) = update (fields.put f.1 f.2) more := rfl
    rw [hput, ih, Fields.get?_put, written?, written?, List.reverse_cons, List.findSome?_append,
      Option.or_assoc]
    by_cases hf : f.1 = key
    · simp [hf]
    · simp [hf, Ne.symm hf]

theorem written?_of_not_mem (h : ∀ f ∈ more, f.1 ≠ key) : written? key more = none := by
  rw [written?, List.findSome?_eq_none_iff]
  exact fun f hf => if_neg (h f (List.mem_reverse.mp hf))

def setting? (environment : List (String × String)) (name : String) : Option Value :=
  (environment.lookup name).bind fun text => if Text.blank text.toList then none else some (.string text)

theorem written?_environmentFields (key : Text) (environment : List (String × String)) :
    written? key (environmentFields environment) = environmentNames.reverse.findSome? fun v =>
      if Text.ofString v.2 = key then setting? environment v.1 else none := by
  rw [written?, environmentFields, ← List.filterMap_reverse, ← List.head?_filterMap,
    List.filterMap_filterMap, List.head?_filterMap]
  congr 1
  funext v
  rw [setting?]
  cases environment.lookup v.1 with
  | none => simp
  | some text => cases hblank : Text.blank text.toList <;> simp [hblank]

def includedVariable : String := "SPECLINT_INCLUDED_FILES"

theorem setting?_cons {environment : List (String × String)} {name text : String} (other : String)
    (h : Text.blank text.toList = false) :
    setting? ((name, text) :: environment) other =
      if other = name then some (.string text) else setting? environment other := by
  rw [setting?, setting?, List.lookup_cons]
  by_cases ho : other = name
  · simp [ho, h]
  · rw [if_neg ho, beq_false_of_ne ho]

theorem written?_environmentFields_cons {environment : List (String × String)} {text : String}
    (h : Text.blank text.toList = false) :
    written? key (environmentFields ((includedVariable, text) :: environment)) =
      if key = Text.ofString "included_files" then some (.string text)
      else written? key (environmentFields environment) := by
  have htimeout : Text.ofString "timeout" ≠ Text.ofString "included_files" := by decide
  simp only [written?_environmentFields, setting?_cons _ h]
  by_cases hkey : key = Text.ofString "included_files"
  · subst hkey
    simp [environmentNames, includedVariable, htimeout]
  · rw [if_neg hkey]
    simp [environmentNames, includedVariable, List.findSome?_cons, Ne.symm hkey]

theorem get?_merge (key : Text) (root : Path) (project own : Fields)
    (environment : List (String × String)) (overrides : Fields) :
    Fields.get? key (merge root project own environment overrides) =
      (written? key (givenFields overrides)).or ((written? key (environmentFields environment)).or
        ((written? key (normalFields own)).or ((written? key (normalFields project)).or
          (Fields.get? key [(Text.ofString "project_root", .text (Text.ofChars root.chars))])))) := by
  simp only [merge, List.foldl_cons, List.foldl_nil, get?_update]

theorem isSome_get?_iff : (Fields.get? key fields).isSome ↔ key ∈ fields.keys := by
  induction fields with
  | nil => simp [Fields.get?, Fields.keys]
  | cons f fields ih =>
    by_cases hk : f.1 = key
    · simp [Fields.get?, Fields.keys, hk]
    · simpa [Fields.get?, Fields.keys, hk, Ne.symm hk] using ih

theorem checkKeys_eq_ok_iff :
    checkKeys fields = .ok () ↔ ∀ key, (Fields.get? key fields).isSome → isName key = true := by
  have hkeys : unknownKeys fields = [] ↔ ∀ key ∈ fields.keys, isName key = true := by
    simp [unknownKeys, List.filter_eq_nil_iff]
  simp only [isSome_get?_iff, ← hkeys]
  unfold checkKeys
  cases unknownKeys fields <;> simp

/-- Settings are accepted when each of their fields is and there are no others. -/
theorem ofFields_eq_ok_iff {s : Settings} :
    ofFields fields = .ok s ↔
      optional "executable" defaults.executable checkName fields = .ok s.executable ∧
      optional "ruleset" defaults.ruleset checkName fields = .ok s.ruleset ∧
      optional "included_files" defaults.includedFiles checkString fields = .ok s.includedFiles ∧
      optional "timeout" defaults.timeout checkTimeout fields = .ok s.timeout ∧
      optional "project_root" defaults.projectRoot checkPath fields = .ok s.projectRoot ∧
      s.rootFault = pathFault? (fieldOf? "project_root" fields) ∧ checkKeys fields = .ok () := by
  obtain ⟨executable, ruleset, includedFiles, timeout, projectRoot, rootFault⟩ := s
  simp only [ofFields, Checked.apply_eq_ok, map_eq_ok_iff]
  constructor
  · rintro ⟨_, _, ⟨_, ⟨_, _, ⟨_, _, ⟨_, _, ⟨_, _, ⟨_, _, ⟨⟩, hexecutable, rfl⟩, hruleset, rfl⟩, hfiles, rfl⟩,
      htimeout, rfl⟩, hroot, rfl⟩, rfl⟩, hkeys, ⟨⟩⟩
    exact ⟨hexecutable, hruleset, hfiles, htimeout, hroot, rfl, hkeys⟩
  · rintro ⟨hexecutable, hruleset, hfiles, htimeout, hroot, rfl, hkeys⟩
    exact ⟨_, _, ⟨_, ⟨_, _, ⟨_, _, ⟨_, _, ⟨_, _, ⟨_, _, rfl, hexecutable, rfl⟩, hruleset, rfl⟩, hfiles, rfl⟩,
      htimeout, rfl⟩, hroot, rfl⟩, rfl⟩, hkeys, rfl⟩

/-- Accepted settings with the included files written anew are accepted. -/
theorem ofFields_listed {fields' : Fields} {s : Settings} {text : String} (h : ofFields fields = .ok s)
    (hfields : ∀ key, Fields.get? key fields' =
      if key = Text.ofString "included_files" then some (.string text) else Fields.get? key fields) :
    ofFields fields' = .ok { s with includedFiles := text } := by
  obtain ⟨hexecutable, hruleset, -, htimeout, hroot, hfault, hkeys⟩ := ofFields_eq_ok_iff.mp h
  have hother : ∀ name, Text.ofString name ≠ Text.ofString "included_files" →
      Fields.get? (Text.ofString name) fields' = Fields.get? (Text.ofString name) fields :=
    fun name hne => (hfields _).trans (if_neg hne)
  have hfiles : optional "included_files" defaults.includedFiles checkString fields' = .ok text := by
    rw [optional, fieldOf?, hfields, if_pos rfl]
    simp [checkString, checkText, Value.string, Checked.under, Except.map, Text.ofString]
  refine ofFields_eq_ok_iff.mpr ⟨?_, ?_, hfiles, ?_, ?_, ?_, checkKeys_eq_ok_iff.mpr fun key hkey => ?_⟩
  · rw [optional_of_same (hother _ (by decide)), hexecutable]
  · rw [optional_of_same (hother _ (by decide)), hruleset]
  · rw [optional_of_same (hother _ (by decide)), htimeout]
  · rw [optional_of_same (hother _ (by decide)), hroot]
  · rw [fieldOf?, hother _ (by decide)]
    exact hfault
  · rw [hfields] at hkey
    split at hkey
    · rename_i he
      rw [he]
      decide
    · exact checkKeys_eq_ok_iff.mp hkeys key hkey

variable {places : Places} {root : Path} {project own : Fields} {environment : List (String × String)}
  {overrides overrides' : Fields} {s s' : Settings}

theorem rootSteps_of_same {fields' : Fields}
    (h : Fields.get? (Text.ofString "project_root") fields = Fields.get? (Text.ofString "project_root") fields') :
    rootSteps root fields = rootSteps root fields' := by
  rw [rootSteps, rootSteps, fieldOf?, fieldOf?, h]

theorem place_eq_ok_iff {steps : List Text} :
    place places root steps s = .ok s' ↔
      ∃ p, placeRoot places root steps s.projectRoot = .ok p ∧ s' = { s with projectRoot := p } := by
  simp only [place, map_eq_ok_iff, eq_comm (b := s')]

theorem ofTables_eq_ok_iff :
    ofTables places root project own environment overrides = .ok s ↔
      ∃ t, ofFields (merge root project own environment overrides) = .ok t ∧
        place places root (rootSteps root (merge root project own environment overrides)) t = .ok s := by
  unfold ofTables
  simp only
  cases ofFields (merge root project own environment overrides) <;> simp

theorem load_eq_ok_iff {sources : Sources} :
    load root sources = .ok s ↔
      ∃ document project own,
        optionalTable (root.child projectFileName) sources.projectFile = .ok document ∧
        projectTable (root.child projectFileName) document = .ok project ∧
        checkItems project = .ok () ∧
        optionalTable (root.child ownFileName) sources.ownFile = .ok own ∧
        checkItems own = .ok () ∧
        ofTables sources.places root project own sources.environment sources.overrides = .ok s := by
  simp only [load, bind_eq_ok_iff]
  constructor
  · rintro ⟨document, hdocument, project, hproject, _, hitems, own, hown, _, hown', h⟩
    exact ⟨document, project, own, hdocument, hproject, hitems, hown, hown', h⟩
  · rintro ⟨document, project, own, hdocument, hproject, hitems, hown, hown', h⟩
    exact ⟨document, hdocument, project, hproject, _, hitems, own, hown, _, hown', h⟩

/-- What overrides do not write is the same whatever they write. -/
theorem load_agree {sources : Sources} (h : load root sources = .ok s)
    (h' : load root { sources with overrides := overrides' } = .ok s')
    (hfiles : written? (Text.ofString "included_files") (givenFields sources.overrides) =
      written? (Text.ofString "included_files") (givenFields overrides'))
    (hroot : written? (Text.ofString "project_root") (givenFields sources.overrides) =
      written? (Text.ofString "project_root") (givenFields overrides')) :
    s.includedFiles = s'.includedFiles ∧ s.projectRoot = s'.projectRoot := by
  obtain ⟨document, project, own, hdocument, hproject, -, hown, -, htables⟩ := load_eq_ok_iff.mp h
  obtain ⟨document', project', own', hdocument', hproject', -, hown', -, htables'⟩ :=
    load_eq_ok_iff.mp h'
  obtain rfl := Except.ok.inj (hdocument.symm.trans hdocument')
  obtain rfl := Except.ok.inj (hproject.symm.trans hproject')
  obtain rfl := Except.ok.inj (hown.symm.trans hown')
  obtain ⟨t, hfields, hplace⟩ := ofTables_eq_ok_iff.mp htables
  obtain ⟨t', hfields', hplace'⟩ := ofTables_eq_ok_iff.mp htables'
  obtain ⟨-, -, hincluded, -, hnamed, -⟩ := ofFields_eq_ok_iff.mp hfields
  obtain ⟨-, -, hincluded', -, hnamed', -⟩ := ofFields_eq_ok_iff.mp hfields'
  have hsame : ∀ key, written? key (givenFields sources.overrides) = written? key (givenFields overrides') →
      Fields.get? key (merge root project own sources.environment sources.overrides) =
        Fields.get? key (merge root project own sources.environment overrides') := by
    intro key hkey
    rw [get?_merge, get?_merge, hkey]
  rw [optional_of_same (hsame _ hfiles)] at hincluded
  rw [optional_of_same (hsame _ hroot)] at hnamed
  obtain ⟨p, hp, rfl⟩ := place_eq_ok_iff.mp hplace
  obtain ⟨p', hp', rfl⟩ := place_eq_ok_iff.mp hplace'
  have hlists : t.includedFiles = t'.includedFiles := Except.ok.inj (hincluded.symm.trans hincluded')
  have hroots : t.projectRoot = t'.projectRoot := Except.ok.inj (hnamed.symm.trans hnamed')
  rw [rootSteps_of_same (hsame _ hroot), hroots] at hp
  exact ⟨hlists, Except.ok.inj (hp.symm.trans hp')⟩

/-- A variable of the environment that lists the included files changes them and nothing else. -/
theorem load_listed {sources : Sources} {text : String} (hblank : Text.blank text.toList = false)
    (hfiles : written? (Text.ofString "included_files") (givenFields sources.overrides) = none)
    (h : load root sources = .ok s) :
    load root { sources with environment := (includedVariable, text) :: sources.environment } =
      .ok { s with includedFiles := text } := by
  obtain ⟨document, project, own, hdocument, hproject, hitems, hown, hown', htables⟩ :=
    load_eq_ok_iff.mp h
  obtain ⟨t, hfields, hplace⟩ := ofTables_eq_ok_iff.mp htables
  let listed := merge root project own ((includedVariable, text) :: sources.environment) sources.overrides
  have hlisted : ∀ key, Fields.get? key listed =
      if key = Text.ofString "included_files" then some (.string text)
      else Fields.get? key (merge root project own sources.environment sources.overrides) := by
    intro key
    rw [get?_merge, get?_merge, written?_environmentFields_cons hblank]
    split
    · rename_i he
      rw [he, hfiles]
      rfl
    · rfl
  have hsteps : rootSteps root listed =
      rootSteps root (merge root project own sources.environment sources.overrides) :=
    rootSteps_of_same ((hlisted _).trans (if_neg (by decide)))
  obtain ⟨p, hp, rfl⟩ := place_eq_ok_iff.mp hplace
  refine load_eq_ok_iff.mpr ⟨document, project, own, hdocument, hproject, hitems, hown, hown', ?_⟩
  refine ofTables_eq_ok_iff.mpr ⟨_, ofFields_listed hfields hlisted, place_eq_ok_iff.mpr ⟨p, ?_, rfl⟩⟩
  rw [hsteps]
  exact hp

end ApiLint.Settings
