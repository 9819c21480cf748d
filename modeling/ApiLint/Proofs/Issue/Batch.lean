import ApiLint.Issue.Batch
import ApiLint.Proofs.Schema.FirstFault

/-! What becomes of an output that was read as a value. It gives the issue of every element, in order, or
one reason to refuse it, which is decided by the kind of the value, then by the first element that is no
table, and then by the first fault of the first element that is no issue. -/

namespace ApiLint

open Schema

namespace Issue

inductive Field where
  | code
  | message
  | severity
  | range
  | path
  | source
  deriving DecidableEq, Repr

namespace Field

def order : List Field := [code, message, severity, range, path, source]

def name : Field → String
  | code => "code"
  | message => "message"
  | severity => "severity"
  | range => "range"
  | path => "path"
  | source => "source"

def demanded {α : Type} (check : Value → Checked α) : Option Value → Option Fault
  | none => some ⟨[], .missing⟩
  | some v => (check v).fault?

def waived {α : Type} (check : Value → Checked α) : Option Value → Option Fault
  | none => none
  | some v => (check v).fault?

/-- What is wrong with the value of a field; a severity need only be there. -/
def faultOf? : Field → Option Value → Option Fault
  | code => demanded checkName
  | message => demanded checkText
  | severity => demanded fun v => .ok (Severity.ofValue .fallback v)
  | range => demanded Range.ofValue
  | path => waived PathItem.listOfValue
  | source => waived (nullable checkText)

def fault? (fields : Fields) (f : Field) : Option Fault :=
  f.faultOf? (fieldOf? f.name fields)

end Field

section

variable {α : Type} {fields : Fields}

theorem fault?_required (name : String) (check : Value → Checked α) :
    (required name check fields).fault? =
      (Field.demanded check (fieldOf? name fields)).map (Fault.under (keyStep name)) := by
  unfold required
  cases fieldOf? name fields with
  | none => rfl
  | some v => exact Checked.fault?_under _ _

theorem fault?_optional (name : String) (default : α) (check : Value → Checked α) :
    (optional name default check fields).fault? =
      (Field.waived check (fieldOf? name fields)).map (Fault.under (keyStep name)) := by
  unfold optional
  cases fieldOf? name fields with
  | none => rfl
  | some v => exact Checked.fault?_under _ _

/-- The number of a severity is wrong only where the severity is missing, which is the graver fault. -/
theorem fault?_reportedNumber (h : (reportedSeverity fields).fault? = none) :
    (reportedNumber fields).fault? = none := by
  unfold reportedSeverity required at h
  unfold reportedNumber
  cases hv : fieldOf? "severity" fields with
  | none => simp [hv] at h
  | some v => cases v <;> rfl

/-- The first fault of an issue is that of its first field with a fault. -/
theorem fault?_ofFields (fields : Fields) :
    (ofFields fields).fault? =
      Field.order.findSome? fun f => (f.fault? fields).map (Fault.under (keyStep f.name)) := by
  have hnumber : ∀ range rest : Option Fault,
      (reportedSeverity fields).fault?.or (range.or ((reportedNumber fields).fault?.or rest)) =
        (reportedSeverity fields).fault?.or (range.or rest) := by
    intro range rest
    cases hs : (reportedSeverity fields).fault? with
    | none => rw [fault?_reportedNumber hs, Option.none_or (o := rest)]
    | some fault => rfl
  have hcons : ∀ (g : Field → Option Fault) (f : Field) (fs : List Field),
      (f :: fs).findSome? g = (g f).or (fs.findSome? g) := by
    intro g f fs
    rw [List.findSome?_cons]
    cases g f <;> rfl
  simp only [ofFields, ofParts, Checked.fault?_apply, Checked.fault?_ok, Option.none_or, Option.or_assoc,
    hnumber]
  simp only [reportedSeverity, fault?_required, fault?_optional, Field.order, hcons,
    List.findSome?_nil, Option.or_none]
  rfl

end

theorem fault?_ofFields_eq_some_iff {fields : Fields} {fault : Fault} :
    (ofFields fields).fault? = some fault ↔
      ∃ passed field rest inner, Field.order = passed ++ field :: rest ∧
        (∀ f ∈ passed, f.fault? fields = none) ∧ field.fault? fields = some inner ∧
          fault = inner.under (keyStep field.name) := by
  simp only [fault?_ofFields, List.findSome?_eq_some_iff, Option.map_eq_some_iff, Option.map_eq_none_iff]
  constructor
  · rintro ⟨passed, field, rest, horder, ⟨inner, hinner, rfl⟩, hpassed⟩
    exact ⟨passed, field, rest, inner, horder, hpassed, hinner, rfl⟩
  · rintro ⟨passed, field, rest, inner, horder, hpassed, hinner, rfl⟩
    exact ⟨passed, field, rest, horder, ⟨inner, hinner, rfl⟩, hpassed⟩

theorem fieldsFrom_tables (index : Nat) (tables : List Fields) :
    fieldsFrom index (tables.map Value.table) = .ok tables := by
  induction tables generalizing index with
  | nil => rfl
  | cons fields tables ih =>
    rw [List.map_cons, fieldsFrom, ih]
    rfl

theorem fieldsFrom_of_not_table {item : Value} (h : ∀ fields, item ≠ .table fields) (index : Nat)
    (before : List Fields) (after : List Value) :
    fieldsFrom index (before.map Value.table ++ item :: after) =
      .error (.notObject (index + before.length)) := by
  induction before generalizing index with
  | nil => cases item with
    | table fields => exact absurd rfl (h fields)
    | _ => rfl
  | cons fields before ih =>
    rw [List.map_cons, List.cons_append, fieldsFrom, ih, List.length_cons, Nat.add_right_comm,
      Nat.add_assoc]
    rfl

/-- All elements are tables, or there is a first one that is none. -/
theorem tables_or_not (items : List Value) :
    (∃ tables : List Fields, items = tables.map Value.table) ∨
      ∃ (before : List Fields) (item : Value) (after : List Value),
        (∀ fields, item ≠ .table fields) ∧ items = before.map Value.table ++ item :: after := by
  induction items with
  | nil => exact Or.inl ⟨[], rfl⟩
  | cons item items ih =>
    by_cases h : ∃ fields, item = .table fields
    · obtain ⟨fields, rfl⟩ := h
      rcases ih with ⟨tables, rfl⟩ | ⟨before, item, after, hitem, rfl⟩
      · exact Or.inl ⟨fields :: tables, rfl⟩
      · exact Or.inr ⟨fields :: before, item, after, hitem, rfl⟩
    · exact Or.inr ⟨[], item, items, fun fields hf => h ⟨fields, hf⟩, rfl⟩

section

variable {ε ε' α : Type} {f : ε → ε'} {r : Except ε α}

theorem mapError_eq_ok_iff {x : α} : r.mapError f = .ok x ↔ r = .ok x := by
  cases r with
  | ok y =>
    show Except.ok y = .ok x ↔ _
    simp
  | error e => exact ⟨nofun, nofun⟩

theorem mapError_eq_error_iff {e' : ε'} : r.mapError f = .error e' ↔ ∃ e, r = .error e ∧ f e = e' := by
  cases r with
  | ok x => exact ⟨nofun, fun ⟨_, h, _⟩ => nomatch h⟩
  | error e =>
    show Except.error (f e) = .error e' ↔ _
    simp

end

theorem listOfValue_tables (tables : List Fields) :
    listOfValue (.list (tables.map Value.table)) =
      (Checked.items ofFields tables).mapError fun faults => .schema faults.first := by
  simp only [listOfValue, fieldsFrom_tables]
  cases Checked.items ofFields tables <;> rfl

theorem listOfValue_tables_eq_error_iff {tables : List Fields} {reason : Reason} :
    listOfValue (.list (tables.map Value.table)) = .error reason ↔
      ∃ fault, (Checked.items ofFields tables).fault? = some fault ∧ reason = .schema fault := by
  simp only [listOfValue_tables, mapError_eq_error_iff, Checked.fault?_eq_some_iff]
  constructor
  · rintro ⟨faults, hfaults, rfl⟩
    exact ⟨_, ⟨faults, hfaults, rfl⟩, rfl⟩
  · rintro ⟨_, ⟨faults, hfaults, rfl⟩, rfl⟩
    exact ⟨faults, hfaults, rfl⟩

/-- The reason to refuse a value, which is the first to hold in this order: the value is no list, an
element is no table, a field of an element is wrong. Of several elements and of several fields the first
one counts. -/
inductive RefusedFor : Value → Reason → Prop where
  | notArray {v : Value} : (∀ items, v ≠ .list items) → RefusedFor v (.notArray v.kindName)
  | notObject {before : List Fields} {item : Value} {after : List Value} :
      (∀ fields, item ≠ .table fields) →
      RefusedFor (.list (before.map Value.table ++ item :: after)) (.notObject before.length)
  | schema {before after : List Fields} {fields : Fields} {passed rest : List Field} {field : Field}
      {fault : Fault} :
      (∀ b ∈ before, ∃ issue, ofValue (.table b) = .ok issue) → Field.order = passed ++ field :: rest →
      (∀ f ∈ passed, f.fault? fields = none) → field.fault? fields = some fault →
      RefusedFor (.list ((before ++ fields :: after).map Value.table))
        (.schema ⟨.index before.length :: keyStep field.name :: fault.steps, fault.rule⟩)

theorem listOfValue_tables_eq_ok_iff {tables : List Fields} {issues : List Issue} :
    listOfValue (.list (tables.map Value.table)) = .ok issues ↔
      List.Forall₂ (fun item issue => ofValue item = .ok issue) (tables.map Value.table) issues := by
  have hitems : Checked.items ofFields tables = .ok issues ↔
      List.Forall₂ (fun fields issue => ofValue (.table fields) = .ok issue) tables issues :=
    Checked.itemsFrom_eq_ok_iff
  rw [List.forall₂_map_left_iff, listOfValue_tables, mapError_eq_ok_iff, hitems]

theorem listOfValue_eq_ok_iff {v : Value} {issues : List Issue} :
    listOfValue v = .ok issues ↔
      ∃ items, v = .list items ∧ (∀ item ∈ items, ∃ fields, item = .table fields) ∧
        List.Forall₂ (fun item issue => ofValue item = .ok issue) items issues := by
  constructor
  · intro h
    obtain ⟨items, rfl⟩ : ∃ items, v = .list items := by
      cases v with
      | list items => exact ⟨items, rfl⟩
      | _ => cases h
    rcases tables_or_not items with ⟨tables, rfl⟩ | ⟨before, item, after, hitem, rfl⟩
    · exact ⟨_, rfl, by simp, listOfValue_tables_eq_ok_iff.mp h⟩
    · rw [listOfValue, fieldsFrom_of_not_table hitem] at h
      cases h
  · rintro ⟨items, rfl, htables, hissues⟩
    rcases tables_or_not items with ⟨tables, rfl⟩ | ⟨before, item, after, hitem, rfl⟩
    · exact listOfValue_tables_eq_ok_iff.mpr hissues
    · obtain ⟨fields, hfields⟩ := htables item (by simp)
      exact absurd hfields (hitem fields)

theorem RefusedFor.of_listOfValue {v : Value} {reason : Reason} (h : listOfValue v = .error reason) :
    RefusedFor v reason := by
  by_cases hv : ∃ items, v = .list items
  · obtain ⟨items, rfl⟩ := hv
    rcases tables_or_not items with ⟨tables, rfl⟩ | ⟨before, item, after, hitem, rfl⟩
    · obtain ⟨fault, hfault, rfl⟩ := listOfValue_tables_eq_error_iff.mp h
      obtain ⟨before, fields, after, inner, rfl, hbefore, hinner, rfl⟩ :=
        Checked.fault?_itemsFrom_eq_some_iff.mp hfault
      obtain ⟨passed, field, rest, fault, horder, hpassed, hfield, rfl⟩ :=
        fault?_ofFields_eq_some_iff.mp hinner
      rw [Nat.zero_add]
      exact .schema (fun b hb => Checked.fault?_eq_none_iff.mp (hbefore b hb)) horder hpassed hfield
    · rw [listOfValue, fieldsFrom_of_not_table hitem, Nat.zero_add] at h
      cases h
      exact .notObject hitem
  · have hkind : listOfValue v = .error (.notArray v.kindName) := by
      cases v with
      | list items => exact absurd ⟨items, rfl⟩ hv
      | _ => rfl
    rw [hkind, Except.error.injEq] at h
    exact h ▸ .notArray fun items hitems => hv ⟨items, hitems⟩

theorem RefusedFor.listOfValue {v : Value} {reason : Reason} (h : RefusedFor v reason) :
    listOfValue v = .error reason := by
  cases h with
  | notArray hv =>
    cases v with
    | list items => exact absurd rfl (hv items)
    | _ => rfl
  | notObject hitem => rw [Issue.listOfValue, fieldsFrom_of_not_table hitem, Nat.zero_add]
  | schema hbefore horder hpassed hfield =>
    refine listOfValue_tables_eq_error_iff.mpr ⟨_, Checked.fault?_itemsFrom_eq_some_iff.mpr ?_, rfl⟩
    refine ⟨_, _, _, _, rfl, fun b hb => Checked.fault?_eq_none_iff.mpr (hbefore b hb),
      fault?_ofFields_eq_some_iff.mpr ⟨_, _, _, _, horder, hpassed, hfield, rfl⟩, ?_⟩
    rw [Nat.zero_add]
    rfl

theorem listOfValue_eq_error_iff {v : Value} {reason : Reason} :
    listOfValue v = .error reason ↔ RefusedFor v reason :=
  ⟨RefusedFor.of_listOfValue, RefusedFor.listOfValue⟩

section

variable {output : List Char} {v : Value}

theorem listOfOutput_of_read (hblank : Text.blank output = false) (hread : Json.read output = .ok v) :
    listOfOutput output = (listOfValue v).mapError .refused := by
  simp [listOfOutput, hblank, hread]

/-- An output that is not blank and reads as a value gives issues just when the value is a list of tables
that are all issues, and then the issue of every element in its place. Any other such output is refused
as a whole, for the first reason that holds. -/
theorem listOfOutput_issues_or_reason (hblank : Text.blank output = false)
    (hread : Json.read output = .ok v) :
    (∀ issues, listOfOutput output = .ok issues ↔
      ∃ items, v = .list items ∧ (∀ item ∈ items, ∃ fields, item = .table fields) ∧
        List.Forall₂ (fun item issue => ofValue item = .ok issue) items issues) ∧
    (∀ fault, listOfOutput output = .error fault ↔
      ∃ reason, fault = .refused reason ∧ RefusedFor v reason) := by
  rw [listOfOutput_of_read hblank hread]
  refine ⟨fun issues => ?_, fun fault => ?_⟩
  · rw [mapError_eq_ok_iff, listOfValue_eq_ok_iff]
  · simp only [mapError_eq_error_iff, listOfValue_eq_error_iff]
    constructor
    · rintro ⟨reason, hreason, rfl⟩
      exact ⟨reason, rfl, hreason⟩
    · rintro ⟨reason, rfl, hreason⟩
      exact ⟨reason, hreason, rfl⟩

end

/-- A number further on goes before the empty code of the first element. -/
theorem refused_number_before_empty_code :
    let output := "[\x7b\"code\":\"\"\x7d,7]".toList
    let read := Value.list [.table [(Text.ofString "code", .text [])], .int 7]
    Text.blank output = false ∧ Json.read output = .ok read ∧
      listOfOutput output = .error (.refused (.notObject 1)) := by
  intro output read
  have hblank : Text.blank output = false := by decide
  have hread : Json.read output = .ok read := rfl
  have hreason : RefusedFor read (.notObject 1) :=
    @RefusedFor.notObject [[(Text.ofString "code", .text [])]] (.int 7) [] (by simp)
  exact ⟨hblank, hread, ((listOfOutput_issues_or_reason hblank hread).2 _).mpr ⟨_, rfl, hreason⟩⟩

end Issue

end ApiLint
