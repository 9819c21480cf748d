import ApiLint.Proofs.Report.Sarif

/-! Issues that were written are checked again. An issue comes back as it is when its severity is known
beforehand, and when the severity is read from the written number, it comes back with that number as the
reported one. A report for machines holds what its issues are written as. -/

namespace ApiLint

open Schema Json

section

variable {α : Type} {name : String} {parts : List (String × Value)} {check : Value → Checked α} {v : Value}
  {x : α}

theorem required_named (hv : parts.lookup name = some v) (hx : check v = .ok x) :
    required name check (parts.map fun f => (Text.ofString f.1, f.2)) = .ok x :=
  required_eq_ok_iff.mpr ⟨v, (fieldOf?_named name parts).trans hv, hx⟩

theorem optional_named {default : α} (hv : parts.lookup name = some v) (hx : check v = .ok x) :
    optional name default check (parts.map fun f => (Text.ofString f.1, f.2)) = .ok x :=
  optional_eq_ok_iff.mpr (.inr ⟨v, (fieldOf?_named name parts).trans hv, hx⟩)

theorem nullable_getD {write : α → Value} (hnull : ∀ x, write x ≠ .null) (hx : ∀ x, check (write x) = .ok x)
    (held : Option α) : nullable check ((held.map write).getD .null) = .ok held := by
  cases held with
  | none => rfl
  | some x =>
    rw [Option.map_some, Option.getD_some, nullable, hx]
    · rfl
    · exact hnull x

end

theorem shortNumbers_ofFields {parts : List (String × Value)} (h : ∀ f ∈ parts, f.2.ShortNumbers) :
    (Value.ofFields parts).ShortNumbers := by
  refine .table fun f hf => ?_
  obtain ⟨g, hg, rfl⟩ := List.mem_map.mp hf
  exact h g hg

theorem checkName_string {code : String} (h : code ≠ "") : checkName (.string code) = .ok code := by
  simp [checkName, Value.string, h]

theorem ne_empty_of_checkName {v : Value} {code : String} (h : checkName v = .ok code) : code ≠ "" := by
  unfold checkName at h
  split at h
  · split at h
    · cases h
    · split at h
      · cases h
      · rename_i hcode
        cases h
        simpa using hcode
  · cases h

theorem Position.ofValue_toValue (p : Position) : Position.ofValue p.toValue = .ok p :=
  Position.ofFields_eq_ok_iff.mpr
    ⟨required_named (rfl : p.parts.lookup "line" = some (.int p.line)) rfl,
      required_named (rfl : p.parts.lookup "character" = some (.int p.character)) rfl⟩

theorem Range.ofValue_toValue (r : Range) : Range.ofValue r.toValue = .ok r :=
  Range.ofFields_eq_ok_iff.mpr
    ⟨required_named (rfl : r.parts.lookup "start" = some r.start.toValue) r.start.ofValue_toValue,
      required_named (rfl : r.parts.lookup "end" = some r.stop.toValue) r.stop.ofValue_toValue⟩

theorem PathItem.ofValue_toValue (item : PathItem) : PathItem.ofValue item.toValue = .ok item := by
  cases item <;> rfl

theorem PathItem.listOfValue_toValue (path : List PathItem) :
    PathItem.listOfValue (.list (path.map PathItem.toValue)) = .ok path := by
  refine Checked.itemsFrom_eq_ok_iff.mpr (List.forall₂_map_left_iff.mpr ?_)
  exact List.forall₂_same.mpr fun item _ => item.ofValue_toValue

namespace Issue

variable {i : Issue}

/-- What stands beside the severity is read from the written fields as it was. -/
theorem ofParts_toFields (hcode : i.code ≠ "") (severity : Severity) (number : Option Int) :
    ofParts (.ok severity) (.ok number) i.toFields =
      .ok { i with severity := severity, rawSeverity := number } := by
  have htext : ∀ t : Text, checkText (.text t) = .ok t := fun _ => rfl
  refine ofParts_eq_ok_iff.mpr ⟨?_, ?_, rfl, ?_, rfl, ?_, ?_⟩
  · exact required_named (rfl : i.parts.lookup "code" = some (.string i.code)) (checkName_string hcode)
  · exact required_named (rfl : i.parts.lookup "message" = some (.text i.message)) rfl
  · exact required_named (rfl : i.parts.lookup "range" = some i.range.toValue) i.range.ofValue_toValue
  · exact optional_named (rfl : i.parts.lookup "path" = some (.list (i.path.map PathItem.toValue)))
      (PathItem.listOfValue_toValue i.path)
  · exact optional_named (rfl : i.parts.lookup "source" = some ((i.source.map Value.text).getD .null))
      (nullable_getD nofun htext i.source)

theorem ofFieldsWith_toFields (hcode : i.code ≠ "") : ofFieldsWith i.severity i.toFields = .ok i := by
  have hwhole : ∀ n : Int, checkWhole (.int n) = .ok n := fun _ => rfl
  have hnumber : optional "raw_severity" none (nullable checkWhole) i.toFields = .ok i.rawSeverity :=
    optional_named (rfl : i.parts.lookup "raw_severity" = some ((i.rawSeverity.map Value.int).getD .null))
      (nullable_getD nofun hwhole i.rawSeverity)
  rw [ofFieldsWith, hnumber]
  exact ofParts_toFields hcode i.severity i.rawSeverity

theorem ofValue_toValue (hcode : i.code ≠ "") :
    ofValue i.toValue = .ok { i with rawSeverity := some i.severity.code } := by
  have hwritten : fieldOf? "severity" i.toFields = some (.int i.severity.code) :=
    fieldOf?_named "severity" i.parts
  have hseverity : reportedSeverity i.toFields = .ok i.severity := by
    refine required_eq_ok_iff.mpr ⟨_, hwritten, ?_⟩
    rw [Severity.ofValue, Severity.ofCode?_code, Option.getD_some]
  have hnumber : reportedNumber i.toFields = .ok (some i.severity.code) := by
    rw [reportedNumber, hwritten]
  rw [toValue, ofValue, ofFields, hseverity, hnumber]
  exact ofParts_toFields hcode i.severity _

theorem code_ne_empty_of_ofValue {v : Value} (h : ofValue v = .ok i) : i.code ≠ "" := by
  cases v with
  | table fields =>
    obtain ⟨hcode, -⟩ := ofParts_eq_ok_iff.mp h
    obtain ⟨_, -, hname⟩ := required_eq_ok_iff.mp hcode
    exact ne_empty_of_checkName hname
  | _ => cases h

end Issue

namespace Projection

def issueValues? (v : Value) : Option (List Value) := do
  let annotations ← (← v.at? ["annotations"]).list?
  annotations.mapM (Value.at? ["issue"])

theorem issueValues?_toValue (p : Projection) (document : String) :
    issueValues? (p.toValue document) = some (p.annotations.map fun a => a.issue.toValue) := by
  have hissue : Value.at? ["issue"] ∘ Annotation.toValue = fun a => pure a.issue.toValue := by
    funext a
    rw [Function.comp_apply, Annotation.toValue, Value.at?_ofFields]
    exact Value.at?_nil _
  have hlist : (p.toValue document).at? ["annotations"] =
      some (.list (p.annotations.map Annotation.toValue)) := by
    rw [toValue, Value.at?_ofFields]
    exact Value.at?_nil _
  rw [issueValues?, hlist]
  change (p.annotations.map Annotation.toValue).mapM (Value.at? ["issue"]) = _
  rw [List.mapM_map, hissue, List.mapM_pure]
  rfl

end Projection

namespace Issue

/-- An issue that was accepted comes back from what it is written as: as it is when its severity is known
beforehand, and else with the number of its severity as the reported one. A report holds what its issues
are written as, and an issue of a JSON document has a place in a report unless half of a pair stands alone
in it. -/
theorem restored_from_written {v : Value} {i : Issue} (h : ofValue v = .ok i) :
    ofFieldsWith i.severity i.toFields = .ok i ∧
    ofValue i.toValue = .ok { i with rawSeverity := some i.severity.code } ∧
    (ofValue i.toValue = .ok i ↔ i.rawSeverity = some (i.severity.code : Int)) ∧
    (v.ShortNumbers → i.HasWholeTexts → ∀ span : Span, Short span.start ∧ Short span.stop →
      (i.annotation span).Writable) ∧
    ∀ (p : Projection) (document : String), p.Writable → ∃ w, ∃ values : List Value,
      Json.read (p.renderJson document).toList = .ok w ∧ Projection.issueValues? w = some values ∧
      ∀ (k : Nat) (a : Annotation), p.annotations[k]? = some a → a.issue = i → values[k]? = some i.toValue := by
  have hcode := code_ne_empty_of_ofValue h
  have hback := ofValue_toValue hcode
  refine ⟨ofFieldsWith_toFields hcode, hback, ?_, ?_, ?_⟩
  · rw [hback, Except.ok.injEq]
    constructor
    · exact fun hsame => (congrArg Issue.rawSeverity hsame).symm
    · intro hraw
      rw [← hraw]
  · intro hv htexts span hspan
    exact writable_annotation htexts (shortNumbers_ofValue hv h) hspan
  · intro p document hp
    refine ⟨_, _, (hp.read_renderJson document).2, p.issueValues?_toValue document, fun k a ha hi => ?_⟩
    rw [List.getElem?_map, ha, Option.map_some, hi]

/-- A number that no severity has, numbers in other forms, and a path of texts and numbers. -/
theorem restored_from_written_regraded :
    let v := Value.ofFields [("code", .string "c"), ("message", .string "m"), ("severity", .int (-7)),
      ("range", Value.ofFields [("start", Value.ofFields [("line", .string " 1_0 "), ("character", .bool true)]),
        ("end", Value.ofFields [("line", .int 4611686018427387904), ("character", .int (-1))])]),
      ("raw_severity", .int 0), ("path", .list [.string "1", .bool false, .int 3])]
    let i : Issue := ⟨"c", Text.ofString "m", .info, ⟨⟨10, 1⟩, ⟨4611686018427387904, -1⟩⟩, some (-7),
      [.key (Text.ofString "1"), .index 0, .index 3], none⟩
    let p : Projection := ⟨[i.annotation ⟨0, 1⟩], none, []⟩
    ofValue v = .ok i ∧ ofFieldsWith .info i.toFields = .ok i ∧
      ofValue i.toValue = .ok { i with rawSeverity := some 2 } ∧ ofValue i.toValue ≠ .ok i ∧ p.Writable ∧
      ∃ w, ∃ values : List Value, Json.read (p.renderJson "d").toList = .ok w ∧
        Projection.issueValues? w = some values ∧ values[0]? = some i.toValue := by
  intro v i p
  have hv : ofValue v = .ok i := by decide
  have hshort : ∀ n : Int, n.natAbs < 2 ^ 63 → Short n := fun _ => short_of_lt
  have htexts : i.HasWholeTexts := by
    refine ⟨Text.isWhole_ofString _, ?_, nofun⟩
    intro name hname
    obtain rfl : name = Text.ofString "1" := by simpa [i] using hname
    exact Text.isWhole_ofString _
  have hstart : (Value.ofFields [("line", .string " 1_0 "), ("character", .bool true)]).ShortNumbers :=
    shortNumbers_ofFields (by simpa using ⟨.text _, .bool true⟩)
  have hstop : (Value.ofFields [("line", .int 4611686018427387904), ("character", .int (-1))]).ShortNumbers :=
    shortNumbers_ofFields (by simpa using ⟨.int (hshort _ (by decide)), .int (hshort _ (by decide))⟩)
  have hpath : (Value.list [.string "1", .bool false, .int 3]).ShortNumbers :=
    .list (by simpa using ⟨.text _, .bool false, .int (hshort 3 (by decide))⟩)
  have hnumbers : v.ShortNumbers := by
    refine shortNumbers_ofFields ?_
    simp only [List.forall_mem_cons]
    exact ⟨.text _, .text _, .int (hshort _ (by decide)), shortNumbers_ofFields (by simpa using ⟨hstart, hstop⟩),
      .int (hshort 0 (by decide)), hpath, nofun⟩
  obtain ⟨hwith, hof, hiff, hannotation, hreport⟩ := restored_from_written hv
  have hp : p.Writable := by
    have hspan := hannotation hnumbers htexts ⟨0, 1⟩ ⟨hshort 0 (by decide), hshort 1 (by decide)⟩
    exact ⟨by simpa [p] using hspan, hshort 0 (by decide)⟩
  obtain ⟨w, values, hread, hvalues, hplace⟩ := hreport p "d" hp
  exact ⟨hv, hwith, hof, hiff.not.mpr (by decide), hp, w, values, hread, hvalues, hplace 0 _ rfl rfl⟩

end Issue

end ApiLint
