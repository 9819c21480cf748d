import ApiLint.Proofs.Report.Json
import ApiLint.Proofs.Text.Legible
import Mathlib.Data.Option.Basic

/-! What the answer to an output of the linter depends on. Only the fields that an issue is made of count,
in the range and its positions too; other fields, their order and a number that stands beside the
severity change neither the issues nor the reason to refuse them. -/

namespace ApiLint

open Schema

inductive Value.Like (agree : Fields → Fields → Prop) : Value → Value → Prop where
  | same (v : Value) : Like agree v v
  | tables {fields fields' : Fields} : agree fields fields' → Like agree (.table fields) (.table fields')

def Position.Agree (fields fields' : Fields) : Prop :=
  ∀ name ∈ ["line", "character"], fieldOf? name fields = fieldOf? name fields'

def Range.Agree (fields fields' : Fields) : Prop :=
  ∀ name ∈ ["start", "end"],
    Option.Rel (Value.Like Position.Agree) (fieldOf? name fields) (fieldOf? name fields')

/-- Two tables hold the same where an issue is read from them. -/
structure Issue.Agree (fields fields' : Fields) : Prop where
  same : ∀ name ∈ ["code", "message", "severity", "path", "source"],
    fieldOf? name fields = fieldOf? name fields'
  range : Option.Rel (Value.Like Range.Agree) (fieldOf? "range" fields) (fieldOf? "range" fields')

/-- The severity of an issue is that of its number, and this is the whole number that was reported for
it, if any. -/
structure Issue.Graded (fields : Fields) (i : Issue) : Prop where
  severity : i.severity = Severity.ofValue .fallback ((i.rawSeverity.map Value.int).getD .null)
  rawSeverity : ∃ v, fieldOf? "severity" fields = some v ∧
    ∀ n, i.rawSeverity = some n ↔ v = .int n

section

variable {α : Type} {fields fields' : Fields} {name : String} {check : Value → Checked α}

theorem required_of_rel {r : Value → Value → Prop} (hcheck : ∀ v w, r v w → check v = check w)
    (h : Option.Rel r (fieldOf? name fields) (fieldOf? name fields')) :
    required name check fields = required name check fields' := by
  unfold required
  generalize fieldOf? name fields = held, fieldOf? name fields' = held' at h
  cases h with
  | some hr => simp only [hcheck _ _ hr]
  | none => rfl

theorem Position.ofValue_of_like {v w : Value} (h : Value.Like Position.Agree v w) :
    Position.ofValue v = Position.ofValue w := by
  cases h with
  | same => rfl
  | tables hagree =>
    rw [Position.ofValue, Position.ofValue, Position.ofFields, Position.ofFields,
      required_of_same (hagree "line" (by simp)), required_of_same (hagree "character" (by simp))]

theorem Range.ofValue_of_like {v w : Value} (h : Value.Like Range.Agree v w) :
    Range.ofValue v = Range.ofValue w := by
  cases h with
  | same => rfl
  | tables hagree =>
    have hposition : ∀ v w, Value.Like Position.Agree v w → Position.ofValue v = Position.ofValue w :=
      fun _ _ => Position.ofValue_of_like
    rw [Range.ofValue, Range.ofValue, Range.ofFields, Range.ofFields,
      required_of_rel hposition (hagree "start" (by simp)),
      required_of_rel hposition (hagree "end" (by simp))]

namespace Issue

theorem reportedNumber_of_same {v : Value} (h : fieldOf? "severity" fields = some v)
    (h' : fieldOf? "severity" fields' = some v) : reportedNumber fields = reportedNumber fields' := by
  rw [reportedNumber, reportedNumber, h, h']
  cases v <;> rfl

/-- Without a severity the answer is a fault that comes before any fault of the number beside it. -/
theorem sameFirst_of_no_severity {number number' : Checked (Option Int)}
    (h : fieldOf? "severity" fields = none) :
    Checked.SameFirst (ofParts (reportedSeverity fields) number fields)
      (ofParts (reportedSeverity fields) number' fields) := by
  have hseverity : (reportedSeverity fields).fault? ≠ none := by
    rw [reportedSeverity, required, h]
    exact Option.some_ne_none _
  have hbefore : ∀ (told : Checked (Severity → Range → Option Int → List PathItem → Option Text → Issue))
      (range : Checked Range),
      (Checked.apply (Checked.apply told (reportedSeverity fields)) range).fault? ≠ none := by
    intro told range
    simp only [Checked.fault?_apply, ne_eq, Option.or_eq_none_iff]
    exact fun hnone => hseverity hnone.1.2
  exact ((Checked.SameFirst.apply_of_fault (hbefore _ _) number number').apply (.refl _)).apply (.refl _)

/-- Tables that agree are the same issue, or have the same first fault. -/
theorem ofFields_of_agree (h : Agree fields fields') :
    Checked.SameFirst (ofFields fields) (ofFields fields') := by
  have hseverity := h.same "severity" (by simp)
  have hrange : required "range" Range.ofValue fields = required "range" Range.ofValue fields' :=
    required_of_rel (fun _ _ => Range.ofValue_of_like) h.range
  have hparts : ∀ number : Checked (Option Int), ofParts (reportedSeverity fields') number fields' =
      ofParts (reportedSeverity fields) number fields := by
    intro number
    simp only [ofParts, reportedSeverity, required_of_same (h.same "code" (by simp)),
      required_of_same (h.same "message" (by simp)), required_of_same hseverity, hrange,
      optional_of_same (h.same "path" (by simp)), optional_of_same (h.same "source" (by simp))]
  rw [ofFields, ofFields, hparts]
  cases hfields : fieldOf? "severity" fields with
  | none => exact sameFirst_of_no_severity hfields
  | some v =>
    rw [hfields] at hseverity
    rw [reportedNumber_of_same hfields hseverity.symm]
    exact .refl _

theorem graded_of_ofFields {i : Issue} (h : ofFields fields = .ok i) : Graded fields i := by
  obtain ⟨-, -, hseverity, -, hnumber, -, -⟩ := ofParts_eq_ok_iff.mp h
  obtain ⟨v, hv, hof⟩ := required_eq_ok_iff.mp hseverity
  rw [Except.ok.injEq] at hof
  rw [reportedNumber, hv] at hnumber
  cases v with
  | int n =>
    have hraw : i.rawSeverity = some n := (Except.ok.inj hnumber).symm
    refine ⟨?_, _, hv, fun m => ?_⟩
    · rw [hraw, ← hof]
      rfl
    · rw [hraw, Option.some_inj, Value.int.injEq]
  | _ =>
    have hraw : i.rawSeverity = none := (Except.ok.inj hnumber).symm
    refine ⟨?_, _, hv, fun m => ?_⟩
    · rw [hraw, ← hof]
      rfl
    · rw [hraw]
      exact iff_of_false nofun nofun

end Issue

end

namespace Json

section

variable {cs rest : List Char} {v : Value}

theorem exists_not_blank_of_number (h : number cs = .ok (v, rest)) :
    ∃ c ∈ cs, Text.isBlank c = false := by
  unfold number at h
  split at h
  rename_i negative body hbody
  have hbody : body = cs ∨ ∃ tail, cs = '-' :: tail := by
    split at hbody
    · exact Or.inr ⟨_, rfl⟩
    · exact Or.inl (Prod.ext_iff.mp hbody).2.symm
  rcases hbody with rfl | ⟨tail, rfl⟩
  · split at h
    · exact ⟨'0', List.mem_cons_self, by decide⟩
    · split at h
      · rename_i hdigit
        exact ⟨_, List.mem_cons_self, Text.not_isBlank_of_isDigit hdigit⟩
      · cases h
    · cases h
  · exact ⟨'-', List.mem_cons_self, by decide⟩

theorem exists_not_blank_of_value {width depth : Nat} (h : value width depth cs = .ok (v, rest)) :
    ∃ c ∈ cs, Text.isBlank c = false := by
  revert h
  fun_cases value width depth cs with
  | case1 => exact fun _ => ⟨'"', List.mem_cons_self, by decide⟩
  | case2 | case4 | case5 => exact fun _ => ⟨'[', List.mem_cons_self, by decide⟩
  | case3 | case6 | case7 => exact fun _ => ⟨'\x7b', List.mem_cons_self, by decide⟩
  | case8 =>
    intro h
    have hwords : ∀ c ∈ ['n', 't', 'f', 'N', 'I', '-'], Text.isBlank c = false := by
      simp only [List.forall_mem_cons]
      exact ⟨rfl, rfl, rfl, rfl, rfl, rfl, List.forall_mem_nil _⟩
    rcases number_or_word_of_atom h with hnumber | ⟨-, c, hc, tail, rfl⟩
    · exact exists_not_blank_of_number hnumber
    · exact ⟨c, List.mem_cons_self, hwords c hc⟩

/-- A blank text is no document. -/
theorem not_blank_of_read (h : read cs = .ok v) : Text.blank cs = false := by
  obtain ⟨_, _, hvalue⟩ := exists_value_of_read h
  obtain ⟨c, hc, hblank⟩ := exists_not_blank_of_value hvalue
  have hmem : c ∈ cs := (List.dropWhile_suffix _).subset hc
  rw [Text.blank, List.all_eq_false]
  exact ⟨c, hmem, by simp [hblank]⟩

end

end Json

namespace Issue

/-- Lists of tables that agree one by one are answered alike, and so are outputs that read as them: the
same issues, or the same reason to refuse them. The severity of an issue and its number go by the severity
of its table alone. -/
theorem listOfOutput_of_agree {tables tables' : List Fields} (h : List.Forall₂ Agree tables tables') :
    listOfValue (.list (tables.map Value.table)) = listOfValue (.list (tables'.map Value.table)) ∧
    ∀ output output' : List Char, Json.read output = .ok (.list (tables.map Value.table)) →
      Json.read output' = .ok (.list (tables'.map Value.table)) →
      (∃ issues, listOfOutput output = .ok issues ∧ listOfOutput output' = .ok issues ∧
        List.Forall₂ Graded tables issues) ∨
      ∃ reason, listOfOutput output = .error (.refused reason) ∧
        listOfOutput output' = .error (.refused reason) := by
  have hitems : Checked.SameFirst (Checked.items ofFields tables) (Checked.items ofFields tables') :=
    Checked.SameFirst.itemsFrom (h.imp fun _ _ => ofFields_of_agree) 0
  have hvalue : listOfValue (.list (tables.map Value.table)) =
      listOfValue (.list (tables'.map Value.table)) := by
    rw [listOfValue_tables, listOfValue_tables]
    exact hitems.mapError_first Reason.schema
  refine ⟨hvalue, fun output output' hread hread' => ?_⟩
  rw [listOfOutput_of_read (Json.not_blank_of_read hread) hread,
    listOfOutput_of_read (Json.not_blank_of_read hread') hread', ← hvalue]
  cases hlist : listOfValue (.list (tables.map Value.table)) with
  | ok issues =>
    have hissues := List.forall₂_map_left_iff.mp (listOfValue_tables_eq_ok_iff.mp hlist)
    exact Or.inl ⟨issues, rfl, rfl, hissues.imp fun _ _ => graded_of_ofFields⟩
  | error reason => exact Or.inr ⟨reason, rfl, rfl⟩

/-- Fields in another order, unknown ones on three levels, and a text beside a severity that no severity
has. -/
theorem listOfOutput_of_agree_shuffled :
    let named (fields : List (String × Value)) : Fields := fields.map fun f => (Text.ofString f.1, f.2)
    let range : Range := ⟨⟨0, 0⟩, ⟨0, 1⟩⟩
    let plain := named [("code", .string "c"), ("message", .string "m"), ("severity", .int 7),
      ("range", range.toValue)]
    let shuffled := named [("raw_severity", .string "x"), ("range", .table (named [("kind", .null),
      ("end", .table (named [("character", .int 1), ("kind", .null), ("line", .int 0)])),
      ("start", range.start.toValue)])), ("severity", .int 7), ("message", .string "m"), ("kind", .null),
      ("code", .string "c")]
    let output := Json.write (.list [.table plain])
    let output' := Json.write (.list [.table shuffled])
    List.Forall₂ Agree [plain] [shuffled] ∧
      Json.read output = .ok (.list [.table plain]) ∧ Json.read output' = .ok (.list [.table shuffled]) ∧
      listOfOutput output = .ok [⟨"c", "m", .info, range, some 7, [], none⟩] ∧
      listOfOutput output' = listOfOutput output := by
  intro named range plain shuffled output output'
  have hsmall : ∀ n ∈ [(0 : Int), 1, 7], Short n := fun n hn =>
    short_of_lt ((by decide : ∀ n ∈ [(0 : Int), 1, 7], n.natAbs < 2 ^ 63) n hn)
  have hplace : range.ShortNumbers :=
    ⟨⟨hsmall 0 (by simp), hsmall 0 (by simp)⟩, hsmall 0 (by simp), hsmall 1 (by simp)⟩
  have hplain : Json.Restorable 989 (.table plain) := by
    refine restorable_ofFields (by simp) ?_
    simp only [List.forall_mem_cons]
    exact ⟨restorable_string _, restorable_string _, .int (hsmall 7 (by simp)), restorable_range hplace, nofun⟩
  have hshuffled : Json.Restorable 989 (.table shuffled) := by
    refine restorable_ofFields (by simp) ?_
    simp only [List.forall_mem_cons]
    refine ⟨restorable_string _, restorable_ofFields (by simp) ?_, .int (hsmall 7 (by simp)),
      restorable_string _, .null, restorable_string _, nofun⟩
    simp only [List.forall_mem_cons]
    refine ⟨.null, restorable_ofFields (by simp) ?_, restorable_position hplace.1, nofun⟩
    simp only [List.forall_mem_cons]
    exact ⟨.int (hsmall 1 (by simp)), .null, .int (hsmall 0 (by simp)), nofun⟩
  have hread : Json.read output = .ok (.list [.table plain]) :=
    (Json.read_write (.list (by simpa using hplain))).2
  have hread' : Json.read output' = .ok (.list [.table shuffled]) :=
    (Json.read_write (.list (by simpa using hshuffled))).2
  have hend : Position.Agree (named [("line", .int 0), ("character", .int 1)])
      (named [("character", .int 1), ("kind", .null), ("line", .int 0)]) := by
    simp only [Position.Agree, List.forall_mem_cons, named, fieldOf?_named]
    exact ⟨rfl, rfl, nofun⟩
  have hranges : Range.Agree (named [("start", range.start.toValue), ("end", range.stop.toValue)])
      (named [("kind", .null),
        ("end", .table (named [("character", .int 1), ("kind", .null), ("line", .int 0)])),
        ("start", range.start.toValue)]) := by
    simp only [Range.Agree, List.forall_mem_cons, named, fieldOf?_named, List.lookup_cons, String.reduceBEq]
    exact ⟨.some (.same _), .some (.tables hend), nofun⟩
  have hagree : Agree plain shuffled := by
    refine ⟨?_, ?_⟩
    · simp only [List.forall_mem_cons, plain, shuffled, named, fieldOf?_named]
      exact ⟨rfl, rfl, rfl, rfl, rfl, nofun⟩
    · simp only [plain, shuffled, named, fieldOf?_named, List.lookup_cons, String.reduceBEq]
      exact .some (.tables hranges)
  have hvalue : listOfValue (.list [.table plain]) = .ok [⟨"c", "m", .info, range, some 7, [], none⟩] := by
    decide
  have hissues : listOfOutput output = .ok [⟨"c", "m", .info, range, some 7, [], none⟩] := by
    rw [listOfOutput_of_read (Json.not_blank_of_read hread) hread, hvalue]
    rfl
  have hall : List.Forall₂ Agree [plain] [shuffled] := .cons hagree .nil
  refine ⟨hall, hread, hread', hissues, ?_⟩
  rcases (listOfOutput_of_agree hall).2 output output' hread hread' with
    ⟨_, hone, htwo, -⟩ | ⟨_, hone, htwo⟩
  · rw [hone, htwo]
  · rw [hone, htwo]

end Issue

end ApiLint
