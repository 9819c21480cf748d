import ApiLint.Proofs.Files.Steps
import ApiLint.Proofs.Settings.Precedence
import Mathlib.Data.List.Forall2

/-! A project root that files spell in two ways. Which sources set what, and whether settings are loaded at
all, does not depend on the spelling, and the settings have the same included files. -/

namespace ApiLint.Settings

open Schema

def pathOf (text : Text) : Path :=
  Path.ofChars (Text.shown text)

/-- Two absolute paths, the second of which is the first one without its steps back. -/
structure Normalizes (text text' : Text) : Prop where
  absolute : (pathOf text).isAbsolute = true
  absolute' : (pathOf text').isAbsolute = true
  parts : (pathOf text').parts = Path.stepBack [] (pathOf text).parts

/-- A field of a file whose project root may be spelled in another way. -/
inductive RespelledField (text text' : Text) : Text × Value → Text × Value → Prop
  | same (f : Text × Value) : RespelledField text text' f f
  | root {key : Text} : normalKey key = Text.ofString "project_root" →
      RespelledField text text' (key, .text text) (key, .text text')

/-- Tables of two files that differ in how a project root is spelled, at any places of the files. -/
structure Respelled (text text' : Text) (t t' : Tables) : Prop where
  root : t'.root = t.root
  project : List.Forall₂ (RespelledField text text') t.project t'.project
  own : List.Forall₂ (RespelledField text text') t.own t'.own
  environment : t'.environment = t.environment
  overrides : t'.overrides = t.overrides

section

variable {text text' name : Text} {fields fields' : Fields}

theorem RespelledField.key_eq {f f' : Text × Value} (h : RespelledField text text' f f') : f'.1 = f.1 := by
  cases h <;> rfl

theorem RespelledField.list_eq {f f' : Text × Value} (h : RespelledField text text' f f') (items : List Value) :
    f'.2 = .list items ↔ f.2 = .list items := by
  cases h with
  | same => rfl
  | root => simp

theorem forall_keys_iff (h : List.Forall₂ (RespelledField text text') fields fields') (p : Text → Prop) :
    (∀ f ∈ fields', p f.1) ↔ ∀ f ∈ fields, p f.1 := by
  induction h with
  | nil => rfl
  | cons hf _ ih => simp only [List.forall_mem_cons, hf.key_eq, ih]

theorem listsUnwritable_iff (h : List.Forall₂ (RespelledField text text') fields fields') :
    ListsUnwritable fields' ↔ ListsUnwritable fields := by
  unfold ListsUnwritable
  induction h with
  | nil => simp
  | cons hf _ ih => simp only [List.exists_mem_cons_iff, hf.key_eq, hf.list_eq, ih]

def RespelledValue (text text' name : Text) (v v' : Option Value) : Prop :=
  v' = v ∨ name = Text.ofString "project_root" ∧ v = some (.text text) ∧ v' = some (.text text')

theorem RespelledValue.or {u u' v v' : Option Value} (hu : RespelledValue text text' name u u')
    (hv : RespelledValue text text' name v v') : RespelledValue text text' name (u.or v) (u'.or v') := by
  rcases hu with rfl | ⟨hname, rfl, rfl⟩
  · cases u' with
    | none => exact hv
    | some u => exact Or.inl rfl
  · exact Or.inr ⟨hname, rfl, rfl⟩

theorem findSome?_respelled (h : List.Forall₂ (RespelledField text text') fields fields') :
    let spells (f : Text × Value) : Option Value :=
      if normalKey f.1 = name then some (normalValue name f.2) else none
    RespelledValue text text' name (fields.findSome? spells) (fields'.findSome? spells) := by
  intro spells
  induction h with
  | nil => exact Or.inl rfl
  | cons hf _ ih =>
    rw [findSome?_cons_or, findSome?_cons_or]
    refine RespelledValue.or ?_ ih
    cases hf with
    | same => exact Or.inl rfl
    | root hkey =>
      by_cases hname : name = Text.ofString "project_root"
      · exact Or.inr ⟨hname, if_pos (hkey.trans hname.symm), if_pos (hkey.trans hname.symm)⟩
      · have hother : normalKey _ ≠ name := fun he => hname (he.symm.trans hkey)
        exact Or.inl ((if_neg hother).trans (if_neg hother).symm)

theorem spelled?_respelled (h : List.Forall₂ (RespelledField text text') fields fields') :
    RespelledValue text text' name (spelled? name fields) (spelled? name fields') :=
  findSome?_respelled (List.forall₂_reverse_iff.mpr h)

end

theorem Tables.load_fields {t : Tables} {s : Settings} (h : t.load = .ok s) :
    optional "included_files" defaults.includedFiles checkString t.merged = .ok s.includedFiles ∧
      ∃ p, optional "project_root" defaults.projectRoot checkPath t.merged = .ok p ∧
        s.projectRoot = p.map (placedRoot t.root) := by
  obtain ⟨-, -, u, hu, hplace⟩ := Tables.load_eq_ok_iff.mp h
  obtain ⟨-, -, hfiles, -, hroot, -⟩ := ofFields_eq_ok_iff.mp hu
  obtain ⟨-, rfl⟩ := place_plain_eq_ok_iff.mp hplace
  exact ⟨hfiles, _, hroot, rfl⟩

theorem Tables.optional_of_winning {t t' : Tables} {α : Type} {name : String} (default : α)
    (check : Value → Checked α) (hsame : t'.winning? name = t.winning? name) :
    optional name default check t'.merged = optional name default check t.merged := by
  have hfield : fieldOf? name t'.merged = fieldOf? name t.merged := by
    rw [fieldOf?_merged, fieldOf?_merged, hsame]
  exact optional_of_same hfield

namespace Respelled

variable {text text' : Text} {t t' : Tables} {s s' : Settings}

theorem winning? (h : Respelled text text' t t') (name : String) :
    RespelledValue text text' (Text.ofString name) (t.winning? name) (t'.winning? name) := by
  have hsame : ∀ layer, t'.sets? name layer = t.sets? name layer →
      RespelledValue text text' (Text.ofString name) (t.sets? name layer) (t'.sets? name layer) :=
    fun _ => Or.inl
  rw [Tables.winning?, Tables.winning?, Layer.all]
  simp only [findSome?_cons_or, List.findSome?_nil, Option.or_none]
  refine (hsame _ ?_).or ((hsame _ ?_).or
    ((spelled?_respelled h.own).or ((spelled?_respelled h.project).or (hsame _ ?_))))
  · rw [Tables.sets?, Tables.sets?, h.overrides]
  · rw [Tables.sets?, Tables.sets?, h.environment]
  · rw [Tables.sets?, Tables.sets?, h.root]

theorem winning?_eq (h : Respelled text text' t t') {name : String} (hname : name ≠ "project_root") :
    t'.winning? name = t.winning? name :=
  (h.winning? name).resolve_right fun hroot => hname (Text.ofString_inj.mp hroot.1)

theorem onlyKnown_iff (h : Respelled text text' t t') : t'.OnlyKnown ↔ t.OnlyKnown := by
  have hkeys : ∀ {fields fields' : Fields}, List.Forall₂ (RespelledField text text') fields fields' →
      ((∀ f ∈ fields', isName (normalKey f.1) = true) ↔ ∀ f ∈ fields, isName (normalKey f.1) = true) :=
    fun hfields => forall_keys_iff hfields fun key => isName (normalKey key) = true
  constructor
  · rintro ⟨hproject, hown, hoverrides⟩
    exact ⟨(hkeys h.project).mp hproject, (hkeys h.own).mp hown, h.overrides ▸ hoverrides⟩
  · rintro ⟨hproject, hown, hoverrides⟩
    exact ⟨(hkeys h.project).mpr hproject, (hkeys h.own).mpr hown, h.overrides.symm ▸ hoverrides⟩

theorem accepts_iff (h : Respelled text text' t t') (name : String) :
    (∀ v, t'.winning? name = some v → Accepts name v) ↔ ∀ v, t.winning? name = some v → Accepts name v := by
  rcases h.winning? name with hsame | ⟨hname, hv, hv'⟩
  · rw [hsame]
  · obtain rfl := Text.ofString_inj.mp hname
    have haccepts : ∀ x, Accepts "project_root" (.text x) := fun _ => ⟨_, rfl⟩
    rw [hv, hv']
    refine iff_of_true ?_ ?_
    · rintro _ ⟨⟩
      exact haccepts _
    · rintro _ ⟨⟩
      exact haccepts _

/-- The way to a project root that is absolute needs no name. -/
theorem rootNamed_iff (h : Respelled text text' t t') (hnormal : Normalizes text text') :
    t'.RootNamed ↔ t.RootNamed := by
  unfold Tables.RootNamed
  rw [h.root]
  rcases h.winning? "project_root" with hsame | ⟨-, hv, hv'⟩
  · rw [hsame]
  · rw [hv, hv']
    refine iff_of_true ?_ ?_
    · rintro _ ⟨⟩ hrelative
      exact Bool.noConfusion (hnormal.absolute'.symm.trans hrelative)
    · rintro _ ⟨⟩ hrelative
      exact Bool.noConfusion (hnormal.absolute.symm.trans hrelative)

theorem exists_load_iff (h : Respelled text text' t t') (hnormal : Normalizes text text') :
    (∃ s, t'.load = .ok s) ↔ ∃ s, t.load = .ok s := by
  rw [Tables.exists_load_iff, Tables.exists_load_iff, h.onlyKnown_iff, listsUnwritable_iff h.project,
    listsUnwritable_iff h.own, h.rootNamed_iff hnormal]
  simp only [h.accepts_iff]

theorem load_eq (h : Respelled text text' t t') (hnormal : Normalizes text text') (hs : t.load = .ok s)
    (hs' : t'.load = .ok s') :
    s'.includedFiles = s.includedFiles ∧ (s'.projectRoot = s.projectRoot ∨
      s.projectRoot = some (pathOf text) ∧ s'.projectRoot = some (pathOf text')) := by
  obtain ⟨hfiles, p, hroot, hp⟩ := Tables.load_fields hs
  obtain ⟨hfiles', p', hroot', hp'⟩ := Tables.load_fields hs'
  constructor
  · rw [Tables.optional_of_winning _ _ (h.winning?_eq (by decide)), hfiles] at hfiles'
    exact (Except.ok.inj hfiles').symm
  · rcases h.winning? "project_root" with hsame | ⟨-, hv, hv'⟩
    · rw [Tables.optional_of_winning _ _ hsame, hroot] at hroot'
      obtain rfl := Except.ok.inj hroot'
      exact Or.inl (by rw [hp, hp', h.root])
    · rw [optional, fieldOf?_merged, hv] at hroot
      rw [optional, fieldOf?_merged, hv'] at hroot'
      obtain rfl : p = some (pathOf text) := (Except.ok.inj hroot).symm
      obtain rfl : p' = some (pathOf text') := (Except.ok.inj hroot').symm
      refine Or.inr ⟨hp.trans ?_, hp'.trans ?_⟩
      · exact congrArg some (if_pos hnormal.absolute)
      · exact congrArg some (if_pos hnormal.absolute')

end Respelled

end ApiLint.Settings
