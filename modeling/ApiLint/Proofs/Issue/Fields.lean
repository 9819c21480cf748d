import ApiLint.Issue.Basic
import Mathlib.Tactic.Common

/-! What the fields of an issue have to be for a check to accept them: each field is accepted by itself,
and a check of one field answers alike for all tables that hold the same in it. -/

namespace ApiLint

open Schema

variable {fields : Fields}

theorem fieldOf?_named (name : String) (named : List (String × Value)) :
    fieldOf? name (named.map fun f => (Text.ofString f.1, f.2)) = named.lookup name := by
  induction named with
  | nil => rfl
  | cons f named ih =>
    rw [List.map_cons, fieldOf?, Fields.get?, List.lookup_cons]
    by_cases hname : f.1 = name
    · simp [hname]
    · rw [if_neg (Text.ofString_inj.not.mpr hname), beq_false_of_ne (Ne.symm hname)]
      exact ih

theorem required_eq_ok_iff {α : Type} {name : String} {check : Value → Checked α} {x : α} :
    required name check fields = .ok x ↔ ∃ v, fieldOf? name fields = some v ∧ check v = .ok x := by
  unfold required
  cases fieldOf? name fields with
  | none => simp
  | some v => simp [Checked.under_eq_ok]

theorem optional_eq_ok_iff {α : Type} {name : String} {default : α} {check : Value → Checked α} {x : α} :
    optional name default check fields = .ok x ↔
      (fieldOf? name fields = none ∧ x = default) ∨
        ∃ v, fieldOf? name fields = some v ∧ check v = .ok x := by
  unfold optional
  cases fieldOf? name fields with
  | none => simp [eq_comm]
  | some v => simp [Checked.under_eq_ok]

section

variable {α : Type} {name : String} {check : Value → Checked α} {fields' : Fields}

theorem required_of_same (h : fieldOf? name fields = fieldOf? name fields') :
    required name check fields = required name check fields' := by
  rw [required, required, h]

theorem optional_of_same {default : α} (h : fieldOf? name fields = fieldOf? name fields') :
    optional name default check fields = optional name default check fields' := by
  rw [optional, optional, h]

end

theorem Position.ofFields_eq_ok_iff {p : Position} :
    Position.ofFields fields = .ok p ↔
      required "line" checkWhole fields = .ok p.line ∧
      required "character" checkWhole fields = .ok p.character := by
  simp only [Position.ofFields, Checked.apply_eq_ok]
  constructor
  · rintro ⟨_, _, ⟨_, _, ⟨⟩, hline, rfl⟩, hcharacter, rfl⟩
    exact ⟨hline, hcharacter⟩
  · rintro ⟨hline, hcharacter⟩
    exact ⟨_, _, ⟨_, _, rfl, hline, rfl⟩, hcharacter, rfl⟩

theorem Range.ofFields_eq_ok_iff {r : Range} :
    Range.ofFields fields = .ok r ↔
      required "start" Position.ofValue fields = .ok r.start ∧
      required "end" Position.ofValue fields = .ok r.stop := by
  simp only [Range.ofFields, Checked.apply_eq_ok]
  constructor
  · rintro ⟨_, _, ⟨_, _, ⟨⟩, hstart, rfl⟩, hstop, rfl⟩
    exact ⟨hstart, hstop⟩
  · rintro ⟨hstart, hstop⟩
    exact ⟨_, _, ⟨_, _, rfl, hstart, rfl⟩, hstop, rfl⟩

theorem Issue.ofParts_eq_ok_iff {severity : Checked Severity} {number : Checked (Option Int)} {i : Issue} :
    Issue.ofParts severity number fields = .ok i ↔
      required "code" checkName fields = .ok i.code ∧
      required "message" checkText fields = .ok i.message ∧
      severity = .ok i.severity ∧
      required "range" Range.ofValue fields = .ok i.range ∧
      number = .ok i.rawSeverity ∧
      optional "path" [] PathItem.listOfValue fields = .ok i.path ∧
      optional "source" none (nullable checkText) fields = .ok i.source := by
  simp only [Issue.ofParts, Checked.apply_eq_ok]
  constructor
  · rintro ⟨_, _, ⟨_, _, ⟨_, _, ⟨_, _, ⟨_, _, ⟨_, _, ⟨_, _, ⟨⟩, hcode, rfl⟩, hmessage, rfl⟩, hseverity, rfl⟩,
      hrange, rfl⟩, hnumber, rfl⟩, hpath, rfl⟩, hsource, rfl⟩
    exact ⟨hcode, hmessage, hseverity, hrange, hnumber, hpath, hsource⟩
  · rintro ⟨hcode, hmessage, hseverity, hrange, hnumber, hpath, hsource⟩
    exact ⟨_, _, ⟨_, _, ⟨_, _, ⟨_, _, ⟨_, _, ⟨_, _, ⟨_, _, rfl, hcode, rfl⟩, hmessage, rfl⟩, hseverity, rfl⟩,
      hrange, rfl⟩, hnumber, rfl⟩, hpath, rfl⟩, hsource, rfl⟩

end ApiLint
