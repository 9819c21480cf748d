import ApiLint.Proofs.Settings.Fields
import ApiLint.Proofs.Settings.Load

/-! Which source settings come from. Each field has the value of the highest source that sets it, and only
that value is checked; loading is assigning these values to the defaults one by one. What the fields of a
lower source hold does no harm, unless a list of included files cannot be written out, and no source may
have fields that are unknown. -/

namespace ApiLint.Settings

open Schema

inductive Layer where
  | overrides
  | environment
  | ownFile
  | projectFile
  | root
  deriving DecidableEq, Repr

def Layer.all : List Layer :=
  [overrides, environment, ownFile, projectFile, root]

/-- Sources whose files have been read. -/
structure Tables where
  root : Path
  project : Fields
  own : Fields
  environment : List (String × String)
  overrides : Fields

/-- The last field of a file whose key is a spelling of a name. -/
def spelled? (name : Text) (fields : Fields) : Option Value :=
  fields.reverse.findSome? fun f => if normalKey f.1 = name then some (normalValue name f.2) else none

/-- The last override of a name that is not null. -/
def given? (name : Text) (overrides : Fields) : Option Value :=
  overrides.reverse.findSome? fun f =>
    match f.2 with
    | .null => none
    | v => if f.1 = name then some v else none

/-- The variable of a name, if it has one and this is not blank. -/
def fromVariable? (name : String) (environment : List (String × String)) : Option Value :=
  (environmentNames.find? fun v => v.2 = name).bind fun v => setting? environment v.1

def assignIf (s : Settings) (name : String) : Option Value → Except AssignFault Settings
  | none => .ok s
  | some v => s.assign name v

/-- The defaults with the values of all names that have one assigned to them in turn. -/
def assigned (values : String → Option Value) : Except AssignFault Settings :=
  names.foldlM (fun s name => s.assignIf name (values name)) defaults

def placedRoot (root p : Path) : Path :=
  if p.isAbsolute then p else Path.resolve root p

/-- A setting can have the value. -/
def Accepts (name : String) (v : Value) : Prop :=
  ∃ s, defaults.assign name v = .ok s

namespace Tables

def sets? (t : Tables) (name : String) : Layer → Option Value
  | .overrides => given? (Text.ofString name) t.overrides
  | .environment => fromVariable? name t.environment
  | .ownFile => spelled? (Text.ofString name) t.own
  | .projectFile => spelled? (Text.ofString name) t.project
  | .root => if name = "project_root" then some (.text (Text.ofChars t.root.chars)) else none

/-- The value of a name in the highest source that sets it. -/
def winning? (t : Tables) (name : String) : Option Value :=
  Layer.all.findSome? (t.sets? name)

def merged (t : Tables) : Fields :=
  merge t.root t.project t.own t.environment t.overrides

def load (t : Tables) : Except LoadFault Settings := do
  checkItems t.project
  checkItems t.own
  ofTables .plain t.root t.project t.own t.environment t.overrides

/-- The sources whose files have these tables, where no place is lost in a loop. A root that is not absolute
is read in the directory of all files. -/
structure Hold (t : Tables) (sources : Sources) : Prop where
  project : ∃ document,
    optionalTable (t.root.child projectFileName) sources.projectFile = .ok document ∧
      projectTable (t.root.child projectFileName) document = .ok t.project
  own : optionalTable (t.root.child ownFileName) sources.ownFile = .ok t.own
  environment : sources.environment = t.environment
  overrides : sources.overrides = t.overrides
  loops : ∀ p, sources.places.loops p = false
  directory : t.root.isAbsolute = false → sources.places.directory = .ok (Path.ofString "/")

structure OnlyKnown (t : Tables) : Prop where
  project : ∀ f ∈ t.project, isName (normalKey f.1) = true
  own : ∀ f ∈ t.own, isName (normalKey f.1) = true
  overrides : ∀ f ∈ givenFields t.overrides, isName f.1 = true

def RootNamed (t : Tables) : Prop :=
  ∀ text, t.winning? "project_root" = some (.text text) →
    (Path.ofChars (Text.shown text)).isAbsolute = false →
      ∀ step ∈ t.root.parts.map Text.ofChars ++ Path.steps text, ∀ x ∈ step, ¬ Path.IsUnnameable x

end Tables

section Merging

variable {key : Text} {fields : Fields}

theorem findSome?_cons_or {α β : Type} (f : α → Option β) (x : α) (xs : List α) :
    (x :: xs).findSome? f = (f x).or (xs.findSome? f) := by
  rw [List.findSome?_cons]
  cases f x <;> rfl

theorem written?_eq_get? (h : fields.keys.Nodup) : written? key fields = Fields.get? key fields := by
  induction fields with
  | nil => rfl
  | cons f fields ih =>
    obtain ⟨hf, hrest⟩ := List.nodup_cons.mp h
    rw [written?, List.reverse_cons, List.findSome?_append, ← written?, ih hrest, Fields.get?]
    by_cases hkey : f.1 = key
    · have hnone : Fields.get? key fields = none := by
        rw [← Option.not_isSome_iff_eq_none, isSome_get?_iff, ← hkey]
        exact hf
      simp [hnone, hkey]
    · simp [hkey]

theorem nodup_keys_put {v : Value} (h : fields.keys.Nodup) : (fields.put key v).keys.Nodup := by
  rw [Fields.keys_put]
  split
  · exact h
  · rename_i hnew
    exact List.nodup_append.mpr
      ⟨h, by simp, by simpa using fun a ha => ne_of_mem_of_not_mem ha hnew⟩

theorem nodup_keys_update {more : Fields} (h : fields.keys.Nodup) : (update fields more).keys.Nodup := by
  induction more generalizing fields with
  | nil => exact h
  | cons f more ih => exact ih (nodup_keys_put h)

theorem written?_ofPairs (key : Text) (pairs : Fields) :
    written? key (Fields.ofPairs pairs) = written? key pairs := by
  have hnodup : (update [] pairs).keys.Nodup := nodup_keys_update (by simp [Fields.keys])
  have hupdate : Fields.ofPairs pairs = update [] pairs := rfl
  rw [hupdate, written?_eq_get? hnodup, get?_update, Fields.get?, Option.or_none]

theorem spelled?_eq_written? (key : Text) (fields : Fields) :
    spelled? key fields =
      written? key (fields.map fun f => (normalKey f.1, normalValue (normalKey f.1) f.2)) := by
  rw [written?, spelled?, ← List.map_reverse, List.findSome?_map]
  congr 1
  funext f
  by_cases hkey : normalKey f.1 = key <;> simp [hkey]

theorem written?_normalFields (key : Text) (fields : Fields) :
    written? key (normalFields fields) = spelled? key fields := by
  rw [normalFields, written?_ofPairs, spelled?_eq_written?]

theorem written?_givenFields (key : Text) (overrides : Fields) :
    written? key (givenFields overrides) = given? key overrides := by
  rw [written?, givenFields, ← List.filter_reverse, ← List.head?_filterMap, List.filterMap_filter,
    List.head?_filterMap, given?]
  congr 1
  funext f
  cases f.2 <;> simp

theorem fromVariable?_eq_written? (name : String) (environment : List (String × String)) :
    fromVariable? name environment = written? (Text.ofString name) (environmentFields environment) := by
  rw [written?_environmentFields]
  simp only [Text.ofString_inj, fromVariable?]
  -- A name has one variable at most, so that the first and the last one are the same.
  by_cases hname : name ∈ environmentNames.map Prod.snd
  · simp only [environmentNames, List.map_cons, List.map_nil, List.mem_cons, List.not_mem_nil,
      or_false] at hname
    rcases hname with rfl | rfl | rfl | rfl <;> simp [environmentNames, findSome?_cons_or]
  · have hother : ∀ v ∈ environmentNames, ¬ v.2 = name :=
      fun v hv he => hname (List.mem_map.mpr ⟨v, hv, he⟩)
    rw [List.find?_eq_none.mpr (by simpa using hother), Option.bind_none, eq_comm, List.findSome?_eq_none_iff]
    exact fun v hv => if_neg (hother v (List.mem_reverse.mp hv))

theorem fieldOf?_merged (t : Tables) (name : String) : fieldOf? name t.merged = t.winning? name := by
  rw [fieldOf?, Tables.merged, get?_merge, written?_givenFields, ← fromVariable?_eq_written?, written?_normalFields,
    written?_normalFields]
  have hroot : t.sets? name .root =
      Fields.get? (Text.ofString name)
        [(Text.ofString "project_root", .text (Text.ofChars t.root.chars))] := by
    simp [Fields.get?, Tables.sets?, Text.ofString_inj, eq_comm]
  rw [← hroot, Tables.winning?, Layer.all]
  simp only [findSome?_cons_or, List.findSome?_nil, Option.or_none]
  rfl

end Merging

section Assigning

variable {fields : Fields} {values : String → Option Value} {s s' : Settings}

theorem exists_assign_iff {name : String} {v : Value} :
    (∃ s', s.assign name v = .ok s') ↔ Accepts name v := by
  unfold Accepts assign
  simp only
  split_ifs
  · cases Checked.under (keyStep name) (checkName v) <;> simp
  · cases Checked.under (keyStep name) (checkName v) <;> simp
  · cases Checked.under (keyStep name) (checkString v) <;> simp
  · cases Checked.under (keyStep name) (checkTimeout v) <;> simp
  · cases Checked.under (keyStep name) (checkPath v) <;> simp
  · simp
  · simp

theorem exists_assigned_iff :
    (∃ s, assigned values = .ok s) ↔ ∀ name ∈ names, ∀ v, values name = some v → Accepts name v := by
  have hrun : ∀ (todo : List String) (s : Settings),
      (∃ s', todo.foldlM (fun s name => s.assignIf name (values name)) s = .ok s') ↔
        ∀ name ∈ todo, ∀ v, values name = some v → Accepts name v := by
    intro todo
    induction todo with
    | nil => exact fun s => iff_of_true ⟨s, rfl⟩ nofun
    | cons name todo ih =>
      intro s
      simp only [List.foldlM_cons, bind_eq_ok_iff, List.forall_mem_cons]
      rw [exists_comm]
      simp only [exists_and_left, ih, exists_and_right]
      refine and_congr_left fun _ => ?_
      cases values name with
      | none => exact iff_of_true ⟨s, rfl⟩ nofun
      | some v => simp [assignIf, exists_assign_iff]
  exact hrun names defaults

/-- A value is assigned as the field of its name is checked. -/
theorem assignIf_eq_ok_iff {α : Type} {name : String} {default : α} {check : Value → Checked α}
    {set : α → Settings} (hkeep : set default = s)
    (hassign : ∀ v, s.assign name v =
      match Checked.under (keyStep name) (check v) with
      | .ok x => .ok (set x)
      | .error faults => .error (.invalid faults)) :
    s.assignIf name (fieldOf? name fields) = .ok s' ↔
      ∃ x, optional name default check fields = .ok x ∧ set x = s' := by
  unfold optional
  cases fieldOf? name fields with
  | none => simp [assignIf, hkeep]
  | some v =>
    rw [assignIf, hassign]
    simp only
    cases Checked.under (keyStep name) (check v) <;> simp

theorem assignIf_executable :
    s.assignIf "executable" (fieldOf? "executable" fields) = .ok s' ↔
      ∃ x, optional "executable" s.executable checkName fields = .ok x ∧ { s with executable := x } = s' :=
  assignIf_eq_ok_iff rfl fun _ => rfl

theorem assignIf_ruleset :
    s.assignIf "ruleset" (fieldOf? "ruleset" fields) = .ok s' ↔
      ∃ x, optional "ruleset" s.ruleset checkName fields = .ok x ∧ { s with ruleset := x } = s' :=
  assignIf_eq_ok_iff rfl fun _ => rfl

theorem assignIf_includedFiles :
    s.assignIf "included_files" (fieldOf? "included_files" fields) = .ok s' ↔
      ∃ x, optional "included_files" s.includedFiles checkString fields = .ok x ∧
        { s with includedFiles := x } = s' :=
  assignIf_eq_ok_iff rfl fun _ => rfl

theorem assignIf_timeout :
    s.assignIf "timeout" (fieldOf? "timeout" fields) = .ok s' ↔
      ∃ x, optional "timeout" s.timeout checkTimeout fields = .ok x ∧ { s with timeout := x } = s' :=
  assignIf_eq_ok_iff rfl fun _ => rfl

theorem assignIf_projectRoot :
    s.assignIf "project_root" (fieldOf? "project_root" fields) = .ok s' ↔
      ∃ x, optional "project_root" s.projectRoot checkPath fields = .ok x ∧
        { s with
          projectRoot := x
          rootFault := (fieldOf? "project_root" fields).elim s.rootFault fun v => pathFault? (some v) } = s' := by
  unfold optional
  cases fieldOf? "project_root" fields with
  | none => simp [assignIf]
  | some v =>
    rw [assignIf]
    cases hchecked : Checked.under (keyStep "project_root") (checkPath v) <;> simp [assign, hchecked]

/-- Accepted fields are known ones whose values can be assigned to the defaults in turn. -/
theorem ofFields_eq_ok_iff_assigned :
    ofFields fields = .ok s ↔
      checkKeys fields = .ok () ∧ assigned (fun name => fieldOf? name fields) = .ok s := by
  -- The defaults have no fault, so that what is left of it is that of the field.
  have hfault : (fieldOf? "project_root" fields).elim none (fun v => pathFault? (some v)) =
      pathFault? (fieldOf? "project_root" fields) := by
    cases fieldOf? "project_root" fields <;> rfl
  rw [ofFields_eq_ok_iff, assigned, names, ← hfault]
  obtain ⟨executable, ruleset, includedFiles, timeout, projectRoot, rootFault⟩ := s
  simp only [List.foldlM_cons, List.foldlM_nil, bind_eq_ok_iff, assignIf_executable, assignIf_ruleset,
    assignIf_includedFiles, assignIf_timeout, assignIf_projectRoot]
  constructor
  · rintro ⟨hexecutable, hruleset, hfiles, htimeout, hroot, rfl, hkeys⟩
    exact ⟨hkeys, _, ⟨_, hexecutable, rfl⟩, _, ⟨_, hruleset, rfl⟩, _, ⟨_, hfiles, rfl⟩, _, ⟨_, htimeout, rfl⟩,
      _, ⟨_, hroot, rfl⟩, rfl⟩
  · rintro ⟨hkeys, _, ⟨_, hexecutable, rfl⟩, _, ⟨_, hruleset, rfl⟩, _, ⟨_, hfiles, rfl⟩, _, ⟨_, htimeout, rfl⟩,
      _, ⟨_, hroot, rfl⟩, ⟨⟩⟩
    exact ⟨hexecutable, hruleset, hfiles, htimeout, hroot, rfl, hkeys⟩

end Assigning

section Known

variable {key : Text} {fields : Fields}

theorem isSome_written?_iff : (written? key fields).isSome ↔ ∃ f ∈ fields, f.1 = key := by
  rw [written?, List.isSome_findSome?, List.any_eq_true]
  refine ⟨?_, ?_⟩
  · rintro ⟨f, hf, hkey⟩
    exact ⟨f, List.mem_reverse.mp hf, by_contra fun hne => by simp [hne] at hkey⟩
  · rintro ⟨f, hf, hkey⟩
    exact ⟨f, List.mem_reverse.mpr hf, by simp [hkey]⟩

theorem isSome_spelled?_iff : (spelled? key fields).isSome ↔ ∃ f ∈ fields, normalKey f.1 = key := by
  rw [spelled?_eq_written?, isSome_written?_iff]
  simp

theorem isName_of_mem_environmentFields {environment : List (String × String)} {f : Text × Value}
    (h : f ∈ environmentFields environment) : isName f.1 = true := by
  obtain ⟨v, hv, hset⟩ := List.mem_filterMap.mp h
  have hname : ∀ v ∈ environmentNames, isName (Text.ofString v.2) = true := by decide
  obtain ⟨text, -, htext⟩ := Option.bind_eq_some_iff.mp hset
  split at htext
  · cases htext
  · cases htext
    exact hname v hv

theorem checkKeys_merged_iff (t : Tables) : checkKeys t.merged = .ok () ↔ t.OnlyKnown := by
  rw [checkKeys_eq_ok_iff]
  have hkeys : ∀ key, (Fields.get? key t.merged).isSome ↔
      (∃ f ∈ givenFields t.overrides, f.1 = key) ∨ (∃ f ∈ environmentFields t.environment, f.1 = key) ∨
        (∃ f ∈ t.own, normalKey f.1 = key) ∨ (∃ f ∈ t.project, normalKey f.1 = key) ∨
          key = Text.ofString "project_root" := by
    intro key
    rw [Tables.merged, get?_merge]
    simp only [Option.isSome_or, Bool.or_eq_true, written?_normalFields, isSome_written?_iff, isSome_spelled?_iff,
      isSome_get?_iff]
    simp [Fields.keys]
  simp only [hkeys]
  constructor
  · intro h
    exact ⟨fun f hf => h _ (.inr (.inr (.inr (.inl ⟨f, hf, rfl⟩)))),
      fun f hf => h _ (.inr (.inr (.inl ⟨f, hf, rfl⟩))), fun f hf => h _ (.inl ⟨f, hf, rfl⟩)⟩
  · rintro ⟨hproject, hown, hoverrides⟩ key
      (⟨f, hf, rfl⟩ | ⟨f, hf, rfl⟩ | ⟨f, hf, rfl⟩ | ⟨f, hf, rfl⟩ | rfl)
    · exact hoverrides f hf
    · exact isName_of_mem_environmentFields hf
    · exact hown f hf
    · exact hproject f hf
    · decide

end Known

section Loading

variable {t : Tables} {s u : Settings}

theorem Places.resolve_join (places : Places) {root p : Path} (hp : p.isAbsolute = false)
    (hroot : root.isAbsolute = false → places.directory = .ok (Path.ofString "/")) :
    places.resolve (root.join p) = .ok (Path.resolve root p) := by
  have hjoin : root.join p = ⟨root.anchor, root.parts ++ p.parts⟩ := if_neg (by simp [hp])
  have hplace : ∀ d : Path, (root.isAbsolute = false → d.parts = []) →
      Path.resolve d (root.join p) = Path.resolve root p := by
    intro d hd
    rw [Path.resolve, Path.resolve, hjoin, Path.join]
    have hanchor : (⟨root.anchor, root.parts ++ p.parts⟩ : Path).isAbsolute = root.isAbsolute := rfl
    rw [hanchor]
    cases habsolute : root.isAbsolute with
    | true => rfl
    | false =>
      rw [if_neg Bool.false_ne_true, hd habsolute]
      rfl
  unfold Places.resolve
  cases habsolute : (root.join p).isAbsolute with
  | true =>
    rw [hjoin] at habsolute
    have hroot' : root.isAbsolute = true := habsolute
    rw [if_pos rfl, hplace _ fun hnot => absurd (hroot'.symm.trans hnot) (by decide)]
  | false =>
    rw [hjoin] at habsolute
    rw [if_neg Bool.false_ne_true, hroot habsolute, Except.map, hplace _ fun _ => rfl]

/-- Without loops the place of a project root depends on its name only. -/
theorem placeRoot_eq_ok_iff (places : Places) {root : Path} {steps : List Text}
    {given placed : Option Path} (hloops : ∀ p, places.loops p = false)
    (hroot : root.isAbsolute = false → places.directory = .ok (Path.ofString "/")) :
    placeRoot places root steps given = .ok placed ↔
      (∀ p, given = some p → p.isAbsolute = false → Path.namingFault? [] steps = none) ∧
        placed = given.map (placedRoot root) := by
  cases given with
  | none => simp [placeRoot, eq_comm (b := placed)]
  | some p =>
    cases habsolute : p.isAbsolute with
    | true => simp [placeRoot, placedRoot, habsolute, eq_comm (b := placed)]
    | false =>
      cases hname : Path.namingFault? [] steps <;>
        simp [placeRoot, placedRoot, habsolute, hname, places.resolve_join habsolute hroot, hloops,
          eq_comm (b := placed)]

theorem place_plain_eq_ok_iff {root : Path} {steps : List Text} :
    place .plain root steps s = .ok u ↔
      (∀ p, s.projectRoot = some p → p.isAbsolute = false → Path.namingFault? [] steps = none) ∧
        u = { s with projectRoot := s.projectRoot.map (placedRoot root) } := by
  simp only [place_eq_ok_iff, placeRoot_eq_ok_iff .plain (fun _ => rfl) fun _ => rfl]
  constructor
  · rintro ⟨_, ⟨hnamed, rfl⟩, rfl⟩
    exact ⟨hnamed, rfl⟩
  · rintro ⟨hnamed, rfl⟩
    exact ⟨_, ⟨hnamed, rfl⟩, rfl⟩

theorem ofTables_of_plain {places : Places} {root : Path} {project own : Fields}
    {environment : List (String × String)} {overrides : Fields} (hloops : ∀ p, places.loops p = false)
    (hroot : root.isAbsolute = false → places.directory = .ok (Path.ofString "/")) :
    ofTables places root project own environment overrides =
      ofTables .plain root project own environment overrides := by
  have hplaces : ∀ steps given, placeRoot places root steps given = placeRoot .plain root steps given := by
    intro steps given
    cases given with
    | none => rfl
    | some p =>
      simp only [placeRoot]
      cases habsolute : p.isAbsolute with
      | true => rfl
      | false =>
        simp only [places.resolve_join habsolute hroot, Places.plain.resolve_join habsolute fun _ => rfl, hloops]
        rfl
  simp only [ofTables, place, hplaces]

theorem place_ok_iff_rootNamed (h : ofFields t.merged = .ok u) :
    (∃ s, place .plain t.root (rootSteps t.root t.merged) u = .ok s) ↔ t.RootNamed := by
  simp only [place_plain_eq_ok_iff, exists_and_left, exists_eq, and_true, namingFault?_eq_none_iff]
  obtain ⟨-, -, -, -, hroot, -⟩ := ofFields_eq_ok_iff.mp h
  rw [optional, fieldOf?_merged] at hroot
  rw [rootSteps, fieldOf?_merged, Tables.RootNamed]
  cases hv : t.winning? "project_root" with
  | none =>
    rw [hv] at hroot
    have hnone : u.projectRoot = none := (Except.ok.inj hroot).symm
    simp [hnone]
  | some v =>
    rw [hv] at hroot
    cases v with
    | null =>
      have hnone : u.projectRoot = none := (Except.ok.inj hroot).symm
      simp [hnone]
    | text text =>
      have hsome : u.projectRoot = some (Path.ofChars (Text.shown text)) := (Except.ok.inj hroot).symm
      rw [hsome]
      cases habsolute : (Path.ofChars (Text.shown text)).isAbsolute <;> simp [habsolute]
    | _ => cases hroot

theorem ofFields_merged_eq_ok_iff :
    ofFields t.merged = .ok u ↔ t.OnlyKnown ∧ assigned t.winning? = .ok u := by
  rw [ofFields_eq_ok_iff_assigned, checkKeys_merged_iff]
  simp only [fieldOf?_merged]

theorem Tables.load_eq_ok_iff :
    t.load = .ok s ↔ ¬ ListsUnwritable t.project ∧ ¬ ListsUnwritable t.own ∧
      ∃ u, ofFields t.merged = .ok u ∧ place .plain t.root (rootSteps t.root t.merged) u = .ok s := by
  simp only [Tables.load, bind_eq_ok_iff, ofTables_eq_ok_iff, ← checkItems_eq_ok_iff]
  exact ⟨fun ⟨_, hproject, _, hown, h⟩ => ⟨hproject, hown, h⟩,
    fun ⟨hproject, hown, h⟩ => ⟨_, hproject, _, hown, h⟩⟩

theorem Tables.exists_load_iff :
    (∃ s, t.load = .ok s) ↔
      t.OnlyKnown ∧ (∀ name ∈ names, ∀ v, t.winning? name = some v → Accepts name v) ∧
        ¬ ListsUnwritable t.project ∧ ¬ ListsUnwritable t.own ∧ t.RootNamed := by
  simp only [Tables.load_eq_ok_iff, ← exists_assigned_iff]
  constructor
  · rintro ⟨s, hproject, hown, u, hu, hplace⟩
    obtain ⟨hknown, hassigned⟩ := ofFields_merged_eq_ok_iff.mp hu
    exact ⟨hknown, ⟨u, hassigned⟩, hproject, hown, (place_ok_iff_rootNamed hu).mp ⟨s, hplace⟩⟩
  · rintro ⟨hknown, ⟨u, hassigned⟩, hproject, hown, hnamed⟩
    have hu := ofFields_merged_eq_ok_iff.mpr ⟨hknown, hassigned⟩
    obtain ⟨s, hplace⟩ := (place_ok_iff_rootNamed hu).mpr hnamed
    exact ⟨s, hproject, hown, u, hu, hplace⟩

theorem Tables.Hold.load_eq {sources : Sources} (h : t.Hold sources) :
    Settings.load t.root sources = t.load := by
  obtain ⟨⟨document, hdocument, hproject⟩, hown, henvironment, hoverrides, hloops, hdirectory⟩ := h
  have htables : ofTables sources.places t.root t.project t.own t.environment t.overrides =
      ofTables .plain t.root t.project t.own t.environment t.overrides :=
    ofTables_of_plain hloops hdirectory
  simp only [Settings.load, Tables.load, hdocument, hproject, hown, henvironment, hoverrides, htables, bind,
    Except.bind]

/-- Each name has the value of the highest source that sets it. Settings are loaded when no source has an
unknown field and each of these values is accepted, unless an included file listed in a file cannot be
written out, even if a higher source lists others, or a project root that is not absolute has no name; and
they are the defaults with these values. -/
theorem load_takes_highest (t : Tables) :
    (∀ name, fieldOf? name t.merged = t.winning? name) ∧
    ((∃ s, t.load = .ok s) ↔
      t.OnlyKnown ∧ (∀ name ∈ names, ∀ v, t.winning? name = some v → Accepts name v) ∧
        ¬ ListsUnwritable t.project ∧ ¬ ListsUnwritable t.own ∧ t.RootNamed) ∧
    (∀ s, t.load = .ok s → ∃ u, assigned t.winning? = .ok u ∧
      s = { u with projectRoot := u.projectRoot.map (placedRoot t.root) }) ∧
    ∀ sources, t.Hold sources → Settings.load t.root sources = t.load := by
  refine ⟨fieldOf?_merged t, Tables.exists_load_iff, ?_, fun _ hold => hold.load_eq⟩
  intro s hs
  obtain ⟨-, -, u, hu, hplace⟩ := Tables.load_eq_ok_iff.mp hs
  exact ⟨u, (ofFields_merged_eq_ok_iff.mp hu).2, (place_plain_eq_ok_iff.mp hplace).2⟩

/-- A number that cannot be written out in the list of a file, where a variable lists the files. -/
def hiddenNumber : Tables where
  root := Path.ofString "/ws"
  project := [(Text.ofString "included-files", .list [.int (Nat.pow 10 longestInteger : Nat)])]
  own := []
  environment := [("SPECLINT_INCLUDED_FILES", "specs/*.yaml")]
  overrides := []

theorem load_hiddenNumber :
    hiddenNumber.OnlyKnown ∧
      (∀ name ∈ names, ∀ v, hiddenNumber.winning? name = some v → Accepts name v) ∧
      hiddenNumber.winning? "included_files" = some (.string "specs/*.yaml") ∧
      hiddenNumber.load = .error (.unwritten .longInteger) := by
  have hvalues : assigned hiddenNumber.winning? = .ok
      { defaults with includedFiles := "specs/*.yaml", projectRoot := some (Path.ofString "/ws") } := rfl
  have hfault : Value.writingFault? Value.deepestShown (.int (Nat.pow 10 longestInteger : Nat)) =
      some .longInteger := by
    rw [Value.deepestShown, Value.writingFault?]
    exact if_pos isLong_pow
  have hknown : hiddenNumber.OnlyKnown :=
    ⟨by decide, fun _ hf => absurd hf List.not_mem_nil, fun _ hf => absurd hf List.not_mem_nil⟩
  refine ⟨hknown, exists_assigned_iff.mp ⟨_, hvalues⟩, rfl, ?_⟩
  have hkey : isIncludedFiles (Text.ofString "included-files") = true := by decide
  have hitem : itemFault? hiddenNumber.project = some .longInteger := by
    simp only [itemFault?, hiddenNumber, List.findSome?_cons, hkey, if_true, hfault]
  rw [Tables.load, checkItems, hitem]
  rfl

end Loading

end ApiLint.Settings
