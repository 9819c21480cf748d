import ApiLint.Proofs.Faults
import ApiLint.Proofs.Settings.Root
import ApiLint.Proofs.Text.Decoding
import ApiLint.Settings.Sources

/-! Loading settings gives settings, or a fault that is told to the user, or a fault that is not. These things
bring about the last: a file that the system does not tell about, that is no text or that the reader gives up
on, and a list of included files that cannot be written out, each of them in either file, and then a project
root that has no place. -/

namespace ApiLint

namespace Settings

/-- A fault that is not told comes out. -/
def Escapes {α : Type} (r : Except LoadFault α) : Prop :=
  ∃ fault, r = .error fault ∧ fault.isReported = false

theorem escapes_bind {α β : Type} {r : Except LoadFault α} {next : α → Except LoadFault β} :
    Escapes (r >>= next) ↔ Escapes r ∨ ∃ x, r = .ok x ∧ Escapes (next x) := by
  cases r <;> simp [Escapes, bind, Except.bind]

theorem not_escapes_ok {α : Type} (x : α) : ¬ Escapes (.ok x) := by
  rintro ⟨fault, h, -⟩
  cases h

theorem escapes_error_iff {α : Type} {fault : LoadFault} :
    Escapes (.error fault : Except LoadFault α) ↔ fault.isReported = false := by
  simp [Escapes]

/-- A file that is no text in UTF-8, or one on which the reader of tables gives up. -/
inductive GivenUp (bytes : List UInt8) : Prop where
  | noText : (∀ cs : List Char, bytes ≠ cs.flatMap String.utf8EncodeChar) → GivenUp bytes
  | longInteger {cs : List Char} {n : Nat} : bytes = cs.flatMap String.utf8EncodeChar →
      Toml.read cs = .error (.longInteger n) → GivenUp bytes
  | tooDeep {cs : List Char} : bytes = cs.flatMap String.utf8EncodeChar →
      Toml.read cs = .error .tooDeep → GivenUp bytes

/-- The included files that fields list cannot all be written out. -/
def ListsUnwritable (fields : Fields) : Prop :=
  ∃ f ∈ fields, isIncludedFiles f.1 ∧ ∃ items, f.2 = .list items ∧
    ∃ v ∈ items, Unwritable Value.deepestShown v

section

variable {file : Path} {bytes : List UInt8} {fields : Fields}

theorem escapes_readTable_iff : Escapes (readTable file bytes) ↔ GivenUp bytes := by
  unfold readTable
  cases hdecode : Text.decode bytes with
  | error fault =>
    have hnone : ∀ cs : List Char, bytes ≠ cs.flatMap String.utf8EncodeChar := by
      intro cs hcs
      rw [Text.decode_eq_ok_iff.mpr hcs] at hdecode
      cases hdecode
    exact iff_of_true (escapes_error_iff.mpr rfl) (.noText hnone)
  | ok cs =>
    have hbytes := Text.decode_eq_ok_iff.mp hdecode
    have honly : ∀ ds : List Char, bytes = ds.flatMap String.utf8EncodeChar → ds = cs := by
      intro ds hds
      rw [Text.decode_eq_ok_iff.mpr hds] at hdecode
      exact Except.ok.inj hdecode
    have hgiven : GivenUp bytes ↔
        (∃ n, Toml.read cs = .error (.longInteger n)) ∨ Toml.read cs = .error .tooDeep := by
      constructor
      · rintro (hnone | ⟨hds, hread⟩ | ⟨hds, hread⟩)
        · exact absurd hbytes (hnone cs)
        · exact Or.inl ⟨_, honly _ hds ▸ hread⟩
        · exact Or.inr (honly _ hds ▸ hread)
      · rintro (⟨n, hread⟩ | hread)
        · exact .longInteger hbytes hread
        · exact .tooDeep hbytes hread
    rw [hgiven]
    simp only
    cases Toml.read cs with
    | ok found => exact iff_of_false (not_escapes_ok found) (by simp)
    | error fault =>
      cases fault with
      | malformed cause place => simp [escapes_error_iff, LoadFault.isReported]
      | longInteger n => simp [escapes_error_iff, LoadFault.isReported]
      | tooDeep => simp [escapes_error_iff, LoadFault.isReported]

/-- Looking for a file does not end with its table, nor with a fault that is told: the system does not tell
what stands there, or the reader of tables is given bytes that it gives up. -/
inductive Lost : Found → Prop where
  | unseen {fault : SystemFault} : Lost (.unseen fault)
  | givenUp {bytes : List UInt8} : GivenUp bytes → Lost (.bytes bytes)

theorem escapes_optionalTable_iff {found : Found} : Escapes (optionalTable file found) ↔ Lost found := by
  cases found with
  | missing => exact iff_of_false (not_escapes_ok _) nofun
  | unseen fault => exact iff_of_true (escapes_error_iff.mpr rfl) .unseen
  | unread fault => exact iff_of_false (by simp [optionalTable, escapes_error_iff, LoadFault.isReported]) nofun
  | bytes bytes =>
    rw [optionalTable, escapes_readTable_iff]
    exact ⟨.givenUp, fun | .givenUp h => h⟩

theorem not_escapes_projectTable : ¬ Escapes (projectTable file fields) := by
  rintro ⟨fault, h, hnot⟩
  unfold projectTable at h
  split at h <;> cases h
  cases hnot

theorem isSome_itemFault?_iff : (itemFault? fields).isSome ↔ ListsUnwritable fields := by
  unfold itemFault? ListsUnwritable
  rw [List.isSome_findSome?, List.any_eq_true]
  refine exists_congr fun f => and_congr_right fun _ => ?_
  cases f.2 with
  | list items =>
    by_cases hkey : isIncludedFiles f.1
    · have hitems : (items.findSome? (Value.writingFault? Value.deepestShown)).isSome ↔
          ∃ v ∈ items, Unwritable Value.deepestShown v := by
        rw [List.isSome_findSome?, List.any_eq_true]
        exact exists_congr fun v => and_congr_right fun _ => Value.isSome_writingFault?_iff
      simp only [hkey, if_true, hitems, true_and]
      simp
    · simp [hkey]
  | _ => simp

theorem escapes_checkItems_iff : Escapes (checkItems fields) ↔ ListsUnwritable fields := by
  rw [← isSome_itemFault?_iff]
  unfold checkItems
  cases itemFault? fields with
  | some fault => exact iff_of_true (escapes_error_iff.mpr rfl) rfl
  | none => exact iff_of_false (not_escapes_ok ()) nofun

theorem checkItems_eq_ok_iff : checkItems fields = .ok () ↔ ¬ ListsUnwritable fields := by
  rw [← isSome_itemFault?_iff]
  unfold checkItems
  cases itemFault? fields <;> simp

variable {places : Places} {root : Path} {steps : List Text}

/-- A project root that is not absolute has no place: the way to it has no name, or the directory that it
would be read in is gone, or it is lost in a loop. -/
inductive Unplaced (places : Places) (root : Path) (steps : List Text) (p : Path) : Prop where
  | unnamed {step : Text} {x : CodePoint} : step ∈ steps → x ∈ step → Path.IsUnnameable x →
      Unplaced places root steps p
  | gone {fault : SystemFault} : places.resolve (root.join p) = .error fault → Unplaced places root steps p
  | looped {there : Path} : places.resolve (root.join p) = .ok there → places.loops there = true →
      Unplaced places root steps p

theorem namingFault?_eq_none_iff :
    Path.namingFault? [] steps = none ↔ ∀ step ∈ steps, ∀ x ∈ step, ¬ Path.IsUnnameable x := by
  rw [← Option.not_isSome_iff_eq_none, Path.isSome_namingFault?_iff fun _ hstep => absurd hstep List.not_mem_nil]
  simp only [not_exists, not_and]

theorem escapes_placeRoot_iff {p : Path} (hrelative : p.isAbsolute = false) :
    Escapes (placeRoot places root steps (some p)) ↔ Unplaced places root steps p := by
  simp only [placeRoot, hrelative, Bool.false_eq_true, if_false]
  cases hname : Path.namingFault? [] steps with
  | some fault =>
    obtain ⟨step, hstep, x, hx, hun⟩ :=
      (Path.isSome_namingFault?_iff fun _ h => absurd h List.not_mem_nil).mp (Option.isSome_of_eq_some hname)
    exact iff_of_true (escapes_error_iff.mpr rfl) (.unnamed hstep hx hun)
  | none =>
    have hnamed := namingFault?_eq_none_iff.mp hname
    cases hplace : places.resolve (root.join p) with
    | error fault => exact iff_of_true (escapes_error_iff.mpr rfl) (.gone hplace)
    | ok there =>
      simp only
      cases hloop : places.loops there with
      | true => exact iff_of_true (escapes_error_iff.mpr rfl) (.looped hplace hloop)
      | false =>
        refine iff_of_false (not_escapes_ok (some there)) ?_
        rintro (⟨hstep, hx, hun⟩ | hgone | ⟨hthere, hround⟩)
        · exact hnamed _ hstep _ hx hun
        · rw [hplace] at hgone
          cases hgone
        · rw [hplace, Except.ok.injEq] at hthere
          rw [hthere, hround] at hloop
          cases hloop

theorem escapes_place_iff {s : Settings} :
    Escapes (place places root steps s) ↔
      ∃ p, s.projectRoot = some p ∧ p.isAbsolute = false ∧ Unplaced places root steps p := by
  have hmap : Escapes (place places root steps s) ↔ Escapes (placeRoot places root steps s.projectRoot) := by
    unfold place Escapes
    cases placeRoot places root steps s.projectRoot <;> simp [Except.map]
  rw [hmap]
  cases s.projectRoot with
  | none => exact iff_of_false (not_escapes_ok none) nofun
  | some p =>
    cases hp : p.isAbsolute with
    | true => simp [placeRoot, hp, not_escapes_ok]
    | false => simp [escapes_placeRoot_iff hp, hp]

theorem escapes_ofTables_iff {project own : Fields} {environment : List (String × String)}
    {overrides : Fields} :
    Escapes (ofTables places root project own environment overrides) ↔
      ∃ s p, ofFields (merge root project own environment overrides) = .ok s ∧
        s.projectRoot = some p ∧ p.isAbsolute = false ∧
        Unplaced places root (rootSteps root (merge root project own environment overrides)) p := by
  unfold ofTables
  simp only
  cases ofFields (merge root project own environment overrides) with
  | error faults => simp [escapes_error_iff, LoadFault.isReported]
  | ok s => simp [escapes_place_iff]

end

/-- The files of the sources have these tables, and the included files that they list can be written out. -/
structure Given (root : Path) (sources : Sources) (project own : Fields) : Prop where
  projectFile : ∃ document,
    optionalTable (root.child projectFileName) sources.projectFile = .ok document ∧
      projectTable (root.child projectFileName) document = .ok project
  projectItems : ¬ ListsUnwritable project
  ownFile : optionalTable (root.child ownFileName) sources.ownFile = .ok own
  ownItems : ¬ ListsUnwritable own

/-- How a fault that is not told comes about, stage by stage. -/
inductive EscapesFrom (root : Path) (sources : Sources) : Prop where
  | projectFile : Lost sources.projectFile → EscapesFrom root sources
  | projectItems {document project : Fields} :
      optionalTable (root.child projectFileName) sources.projectFile = .ok document →
      projectTable (root.child projectFileName) document = .ok project →
      ListsUnwritable project → EscapesFrom root sources
  | ownFile {document project : Fields} :
      optionalTable (root.child projectFileName) sources.projectFile = .ok document →
      projectTable (root.child projectFileName) document = .ok project →
      ¬ ListsUnwritable project → Lost sources.ownFile → EscapesFrom root sources
  | ownItems {document project own : Fields} :
      optionalTable (root.child projectFileName) sources.projectFile = .ok document →
      projectTable (root.child projectFileName) document = .ok project →
      ¬ ListsUnwritable project →
      optionalTable (root.child ownFileName) sources.ownFile = .ok own → ListsUnwritable own →
      EscapesFrom root sources
  | projectRoot {project own : Fields} {s : Settings} {p : Path} :
      Given root sources project own →
      ofFields (merge root project own sources.environment sources.overrides) = .ok s →
      s.projectRoot = some p → p.isAbsolute = false →
      Unplaced sources.places root
        (rootSteps root (merge root project own sources.environment sources.overrides)) p →
      EscapesFrom root sources

/-- Loading ends with settings or with a fault that is told, but for the ways in which a fault gets out
that is not. -/
theorem load_escapes_iff (root : Path) (sources : Sources) :
    (∃ fault, load root sources = .error fault ∧ fault.isReported = false) ↔
      EscapesFrom root sources := by
  show Escapes (load root sources) ↔ EscapesFrom root sources
  unfold load
  simp only [escapes_bind, escapes_optionalTable_iff, not_escapes_projectTable, escapes_checkItems_iff,
    escapes_ofTables_iff, false_or]
  constructor
  · rintro (hlost | ⟨document, hdocument, project, hproject, hunwritable | ⟨_, hitems, hlost | ⟨own, hown,
      hunwritable | ⟨_, hitems', s, p, hs, hp, hrelative, hunplaced⟩⟩⟩⟩)
    · exact .projectFile hlost
    · exact .projectItems hdocument hproject hunwritable
    · exact .ownFile hdocument hproject (checkItems_eq_ok_iff.mp hitems) hlost
    · exact .ownItems hdocument hproject (checkItems_eq_ok_iff.mp hitems) hown hunwritable
    · exact .projectRoot ⟨⟨_, hdocument, hproject⟩, checkItems_eq_ok_iff.mp hitems, hown,
        checkItems_eq_ok_iff.mp hitems'⟩ hs hp hrelative hunplaced
  · rintro (hlost | ⟨hdocument, hproject, hunwritable⟩ | ⟨hdocument, hproject, hitems, hlost⟩ |
      ⟨hdocument, hproject, hitems, hown, hunwritable⟩ |
      ⟨⟨⟨_, hdocument, hproject⟩, hitems, hown, hitems'⟩, hs, hp, hrelative, hunplaced⟩)
    · exact Or.inl hlost
    · exact Or.inr ⟨_, hdocument, _, hproject, Or.inl hunwritable⟩
    · exact Or.inr ⟨_, hdocument, _, hproject, Or.inr ⟨(), checkItems_eq_ok_iff.mpr hitems, Or.inl hlost⟩⟩
    · exact Or.inr ⟨_, hdocument, _, hproject, Or.inr ⟨(), checkItems_eq_ok_iff.mpr hitems,
        Or.inr ⟨_, hown, Or.inl hunwritable⟩⟩⟩
    · exact Or.inr ⟨_, hdocument, _, hproject, Or.inr ⟨(), checkItems_eq_ok_iff.mpr hitems,
        Or.inr ⟨_, hown, Or.inr ⟨(), checkItems_eq_ok_iff.mpr hitems', _, _, hs, hp, hrelative, hunplaced⟩⟩⟩⟩

/-- A project file of one byte that begins no character. -/
theorem load_byte_without_text :
    load (Path.ofString "/ws") ⟨.bytes [0xff], .missing, .plain, [], []⟩ =
        .error (.encoding ⟨0, [0xff], .start⟩) ∧
      LoadFault.isReported (.encoding ⟨0, [0xff], .start⟩) = false :=
  ⟨rfl, rfl⟩

end Settings

end ApiLint
