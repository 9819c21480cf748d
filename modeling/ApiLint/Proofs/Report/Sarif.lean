import ApiLint.Proofs.Report.Json
import ApiLint.Report.Sarif
import Mathlib.Data.List.Induction

/-! What a report for analysis tools holds. A reader gets the rules and the results back from it: the
results are the findings in their order, and the rules are the codes in the order in which they first
occur, each described by its first finding. -/

namespace ApiLint

namespace Value

/-- What stands in tables inside one another, behind a path of names. -/
def at? : List String → Value → Option Value
  | [], v => some v
  | name :: names, .table fields => (fieldOf? name fields).bind (at? names)
  | _ :: _, _ => none

def text? : Value → Option Text
  | .text t => some t
  | _ => none

def string? (v : Value) : Option String :=
  v.text?.bind Text.toString?

def int? : Value → Option Int
  | .int n => some n
  | _ => none

def list? : Value → Option (List Value)
  | .list items => some items
  | _ => none

@[simp] theorem at?_nil (v : Value) : v.at? [] = some v := by
  cases v <;> rfl

@[simp] theorem at?_ofFields (name : String) (names : List String) (fields : List (String × Value)) :
    (Value.ofFields fields).at? (name :: names) = (fields.lookup name).bind (at? names) := by
  rw [Value.ofFields, at?, fieldOf?_named]

@[simp] theorem string?_string (s : String) : (Value.string s).string? = some s := by
  simp [string?, text?, Value.string]

end Value

namespace Sarif

def Rule.ofValue? (v : Value) : Option Rule := do
  let id ← (← v.at? ["id"]).string?
  let description ← (← v.at? ["shortDescription", "text"]).text?
  return ⟨id, description⟩

def Region.ofValue? (v : Value) : Option Region := do
  let startLine ← (← v.at? ["startLine"]).int?
  let startColumn ← (← v.at? ["startColumn"]).int?
  let endLine ← (← v.at? ["endLine"]).int?
  let endColumn ← (← v.at? ["endColumn"]).int?
  return ⟨startLine, startColumn, endLine, endColumn⟩

def regionOf? (location : Value) : Option (Option Region) :=
  match location.at? ["physicalLocation", "region"] with
  | none => some none
  | some v => (Region.ofValue? v).map some

def Result.ofValue? (v : Value) : Option Result := do
  let rule ← (← v.at? ["ruleId"]).string?
  let level ← (← v.at? ["level"]).string?
  let message ← (← v.at? ["message", "text"]).text?
  let [location] ← (← v.at? ["locations"]).list? | none
  return ⟨rule, level, message, ← regionOf? location⟩

/-- The rules and the results of a report, which has one run. -/
def ofValue? (v : Value) : Option (List Rule × List Result) := do
  let [run] ← (← v.at? ["runs"]).list? | none
  let rules ← (← run.at? ["tool", "driver", "rules"]).list?
  let results ← (← run.at? ["results"]).list?
  return (← rules.mapM Rule.ofValue?, ← results.mapM Result.ofValue?)

theorem Rule.ofValue?_toValue (r : Rule) : Rule.ofValue? r.toValue = some r := by
  simp [Rule.ofValue?, Rule.toValue, List.lookup_cons, Value.text?]

theorem Region.ofValue?_toValue (r : Region) : Region.ofValue? r.toValue = some r := by
  simp [Region.ofValue?, Region.toValue, List.lookup_cons, Value.int?]

theorem at?_locationValue (document : String) (region : Option Region) :
    (locationValue document region).at? ["physicalLocation", "region"] = region.map Region.toValue := by
  have hother : ("region" == "artifactLocation") = false := by decide
  rw [locationValue, Value.at?_ofFields, List.lookup_cons_self, Option.bind_some, Value.at?_ofFields,
    List.lookup_cons, hother]
  cases region with
  | none => rfl
  | some r =>
    simp only [Option.toList_some, List.map_cons, List.lookup_cons_self, Option.bind_some, Value.at?_nil,
      Option.map_some]

theorem regionOf?_locationValue (document : String) (region : Option Region) :
    regionOf? (locationValue document region) = some region := by
  rw [regionOf?, at?_locationValue]
  cases region with
  | none => rfl
  | some r => simp only [Option.map_some, Region.ofValue?_toValue]

theorem Result.ofValue?_toValue (document : String) (r : Result) :
    Result.ofValue? (r.toValue document) = some r := by
  simp [Result.ofValue?, Result.toValue, List.lookup_cons, Value.text?, Value.list?, regionOf?_locationValue]

theorem mapM_map_of_inverse {α β : Type} {write : α → β} {read : β → Option α}
    (h : ∀ x, read (write x) = some x) (xs : List α) : (xs.map write).mapM read = some xs := by
  have hpure : read ∘ write = fun x => pure x := funext h
  rw [List.mapM_map, hpure, List.mapM_pure, List.map_id']
  rfl

/-- The reader gets back what a report was made from. -/
theorem ofValue?_toValue (p : Projection) (document : String) (toolVersion : Option String) :
    ofValue? (toValue p document toolVersion) = some (rules p.annotations, results p) := by
  have hrules := mapM_map_of_inverse Rule.ofValue?_toValue (rules p.annotations)
  have hresults := mapM_map_of_inverse (Result.ofValue?_toValue document) (results p)
  simp [ofValue?, toValue, runValue, List.lookup_cons, Value.list?, hrules, hresults]

def codes (annotations : List Annotation) : List String :=
  annotations.map fun a => a.issue.code

/-- Rules that stand for the codes of findings, in the order in which these first occur, each with the
beginning of the message that came first. -/
structure Describe (annotations : List Annotation) (rules : List Rule) : Prop where
  mem_iff : ∀ code, code ∈ rules.map Rule.id ↔ code ∈ codes annotations
  order : (rules.map Rule.id).Pairwise fun a b => (codes annotations).idxOf a < (codes annotations).idxOf b
  first : ∀ rule ∈ rules, ∃ a, annotations.find? (fun a => a.issue.code = rule.id) = some a ∧
    rule.description = a.issue.message.take 120

section

variable {annotations : List Annotation} {listed : List Rule} {a : Annotation}

theorem codes_append_singleton : codes (annotations ++ [a]) = codes annotations ++ [a.issue.code] := by
  simp [codes]

theorem find?_append_of_mem {code : String} (h : code ∈ codes annotations) :
    (annotations ++ [a]).find? (fun a => a.issue.code = code) =
      annotations.find? fun a => a.issue.code = code := by
  obtain ⟨b, hb, hcode⟩ := List.mem_map.mp h
  have hsome : (annotations.find? fun a => a.issue.code = code).isSome :=
    List.find?_isSome.mpr ⟨b, hb, decide_eq_true hcode⟩
  rw [List.find?_append, Option.or_of_isSome hsome]

theorem find?_append_of_not_mem (h : a.issue.code ∉ codes annotations) :
    (annotations ++ [a]).find? (fun b => b.issue.code = a.issue.code) = some a := by
  have hnone : annotations.find? (fun b => b.issue.code = a.issue.code) = none := by
    rw [List.find?_eq_none]
    intro b hb hcode
    exact h (List.mem_map.mpr ⟨b, hb, of_decide_eq_true hcode⟩)
  rw [List.find?_append, hnone, Option.none_or]
  simp

/-- One more finding keeps the rules of the codes that are known. -/
theorem Describe.known (h : Describe annotations listed) (hcode : a.issue.code ∈ codes annotations) :
    Describe (annotations ++ [a]) listed where
  mem_iff code := by
    rw [h.mem_iff, codes_append_singleton, List.mem_append, List.mem_singleton]
    exact ⟨Or.inl, fun hc => hc.elim id fun he => he ▸ hcode⟩
  order := by
    refine h.order.imp_of_mem fun hx hy hlt => ?_
    rw [codes_append_singleton, List.idxOf_append_of_mem ((h.mem_iff _).mp hx),
      List.idxOf_append_of_mem ((h.mem_iff _).mp hy)]
    exact hlt
  first rule hrule := by
    rw [find?_append_of_mem ((h.mem_iff _).mp (List.mem_map_of_mem hrule))]
    exact h.first rule hrule

/-- A finding with a new code adds its rule behind the others. -/
theorem Describe.new (h : Describe annotations listed) (hcode : a.issue.code ∉ codes annotations) :
    Describe (annotations ++ [a]) (listed ++ [Rule.ofIssue a.issue]) where
  mem_iff code := by
    rw [List.map_append, List.mem_append, h.mem_iff, codes_append_singleton, List.mem_append]
    rfl
  order := by
    rw [List.map_append, List.pairwise_append, codes_append_singleton]
    refine ⟨h.order.imp_of_mem fun hx hy hlt => ?_, List.pairwise_singleton _ _, fun x hx y hy => ?_⟩
    · rw [List.idxOf_append_of_mem ((h.mem_iff _).mp hx), List.idxOf_append_of_mem ((h.mem_iff _).mp hy)]
      exact hlt
    · obtain rfl : y = a.issue.code := by simpa [Rule.ofIssue] using hy
      have hx' := (h.mem_iff x).mp hx
      rw [List.idxOf_append_of_mem hx', List.idxOf_append_of_notMem hcode]
      have hlt := List.idxOf_lt_length_iff.mpr hx'
      omega
  first rule hrule := by
    rcases List.mem_append.mp hrule with hrule | hrule
    · rw [find?_append_of_mem ((h.mem_iff _).mp (List.mem_map_of_mem hrule))]
      exact h.first rule hrule
    · obtain rfl := List.mem_singleton.mp hrule
      exact ⟨a, find?_append_of_not_mem hcode, rfl⟩

theorem describe_rules (annotations : List Annotation) : Describe annotations (rules annotations) := by
  induction annotations using List.reverseRecOn with
  | nil => exact ⟨by simp [rules, codes], by simp [rules], by simp [rules]⟩
  | append_singleton annotations a ih =>
    have hstep : rules (annotations ++ [a]) = addRule (rules annotations) a.issue := by
      simp [rules, List.foldl_append]
    rw [hstep, addRule]
    split
    · rename_i hknown
      exact ih.known ((ih.mem_iff _).mp hknown)
    · rename_i hnew
      exact ih.new fun hcode => hnew ((ih.mem_iff _).mpr hcode)

end

section

open Json

variable {depth : Nat}

structure Region.ShortNumbers (r : Region) : Prop where
  startLine : Short r.startLine
  startColumn : Short r.startColumn
  endLine : Short r.endLine
  endColumn : Short r.endColumn

theorem restorable_rule {r : Rule} (h : r.description.IsWhole) : Restorable (depth + 2) r.toValue := by
  refine restorable_ofFields (by simp) ?_
  simp only [List.forall_mem_cons]
  refine ⟨restorable_string _, restorable_string _, restorable_ofFields (by simp) ?_, nofun⟩
  simpa using restorable_text h

theorem restorable_region {r : Region} (h : r.ShortNumbers) : Restorable (depth + 1) r.toValue := by
  refine restorable_ofFields (by simp) ?_
  simp only [List.forall_mem_cons]
  exact ⟨.int h.startLine, .int h.startColumn, .int h.endLine, .int h.endColumn, nofun⟩

theorem restorable_location (document : String) {region : Option Region}
    (h : ∀ r, region = some r → r.ShortNumbers) : Restorable (depth + 3) (locationValue document region) := by
  have hartifact : Restorable (depth + 1) (Value.ofFields [("uri", .string document)]) :=
    restorable_ofFields (by simp) (by simpa using restorable_string _)
  have hplace : Restorable (depth + 2) (Value.ofFields
      (("artifactLocation", Value.ofFields [("uri", .string document)]) ::
        region.toList.map fun r => ("region", r.toValue))) := by
    cases region with
    | none => exact restorable_ofFields (by simp) (by simpa using hartifact)
    | some r => exact restorable_ofFields (by simp) (by simpa using ⟨hartifact, restorable_region (h r rfl)⟩)
  exact restorable_ofFields (by simp) (by simpa using hplace)

theorem restorable_result (document : String) {r : Result} (hmessage : r.message.IsWhole)
    (hregion : ∀ region, r.region = some region → region.ShortNumbers) :
    Restorable (depth + 5) (r.toValue document) := by
  refine restorable_ofFields (by simp) ?_
  simp only [List.forall_mem_cons]
  refine ⟨restorable_string _, restorable_string _, restorable_ofFields (by simp) ?_, .list ?_, nofun⟩
  · simpa using restorable_text hmessage
  · simpa using restorable_location document hregion

theorem isWhole_take {t : Text} (h : t.IsWhole) (n : Nat) : Text.IsWhole (t.take n) := by
  obtain ⟨cs, rfl⟩ := h
  exact ⟨cs.take n, List.map_take.symm⟩

/-- A report has a written form of its own when the messages of its findings are whole and their places
have written forms. -/
theorem restorable_toValue {p : Projection} (document : String) (toolVersion : Option String)
    (h : ∀ a ∈ p.annotations, a.issue.message.IsWhole ∧ (Region.ofRange a.issue.range).ShortNumbers) :
    Restorable (depth + 9) (toValue p document toolVersion) := by
  have hrules : Restorable (depth + 4) (.list ((rules p.annotations).map Rule.toValue)) := by
    refine .list fun v hv => ?_
    obtain ⟨rule, hrule, rfl⟩ := List.mem_map.mp hv
    obtain ⟨a, ha, hdescription⟩ := (describe_rules p.annotations).first rule hrule
    refine restorable_rule ?_
    rw [hdescription]
    exact isWhole_take (h a (List.mem_of_find?_eq_some ha)).1 120
  have hresults : Restorable (depth + 6) (.list ((results p).map (Result.toValue document))) := by
    refine .list fun v hv => ?_
    obtain ⟨result, hresult, rfl⟩ := List.mem_map.mp hv
    rcases List.mem_append.mp hresult with hresult | hresult
    · obtain ⟨a, ha, rfl⟩ := List.mem_map.mp hresult
      refine restorable_result document (h a ha).1 ?_
      rintro _ ⟨⟩
      exact (h a ha).2
    · obtain ⟨notice, -, rfl⟩ := List.mem_map.mp hresult
      exact restorable_result document (Text.isWhole_ofString _) nofun
  have hrun : Restorable (depth + 7) (runValue p document toolVersion) := by
    refine restorable_ofFields (by simp) ?_
    simp only [List.forall_mem_cons]
    refine ⟨restorable_ofFields (by simp) ?_, hresults, nofun⟩
    simp only [List.forall_mem_cons]
    refine ⟨restorable_ofFields (by simp) ?_, nofun⟩
    simp only [List.forall_mem_cons]
    exact ⟨restorable_string _, restorable_string _, hrules, nofun⟩
  refine restorable_ofFields (by simp) ?_
  simp only [List.forall_mem_cons]
  exact ⟨restorable_string _, restorable_string _, .list (by simpa using hrun), nofun⟩

end

/-- The report of a projection is the written form of a value, and the value is what a reader gets from it
wherever its texts and numbers can be read back. The results in it are the findings in their order, and its
rules are their codes in the order in which these first occur, described by the finding that came first. A
notice stands alone, without rules and without a region. -/
theorem render_lists_rules_and_results (lookup : Lookup) (issues : List Issue) (document : String)
    (toolVersion : Option String) :
    let p := Projection.ofIssues lookup issues
    ∃ (v : Value) (rules : List Rule) (results : List Result),
      (render p document toolVersion).toList = Json.write v ∧ ofValue? v = some (rules, results) ∧
      ((∀ a ∈ p.annotations, a.issue.message.IsWhole ∧ (Region.ofRange a.issue.range).ShortNumbers) →
        Json.read (render p document toolVersion).toList = .ok v) ∧
      (p.notice = none →
        results = p.annotations.map (fun a => ⟨a.issue.code, a.issue.severity.level, a.issue.message,
          some (Region.ofRange a.issue.range)⟩) ∧
        (rules.map Rule.id).Nodup ∧
        (∀ code, code ∈ rules.map Rule.id ↔ code ∈ results.map Result.rule) ∧
        (rules.map Rule.id).Pairwise (fun a b =>
          (results.map Result.rule).idxOf a < (results.map Result.rule).idxOf b) ∧
        ∀ rule ∈ rules, ∃ a, p.annotations.find? (fun a => a.issue.code = rule.id) = some a ∧
          rule.description = a.issue.message.take 120) ∧
      (∀ notice, p.notice = some notice → rules = [] ∧ ∃ message,
        results = [⟨"unrecognized-format", "warning", message, none⟩]) := by
  intro p
  have hwritten : (render p document toolVersion).toList = Json.write (toValue p document toolVersion) :=
    String.toList_ofList
  have hcodes : ((p.annotations.map fun a => Result.ofIssue a.issue).map Result.rule) = codes p.annotations := by
    simp [codes, Result.ofIssue, Function.comp_def]
  obtain ⟨hmem, horder, hfirst⟩ := describe_rules p.annotations
  refine ⟨_, _, _, hwritten, ofValue?_toValue p document toolVersion, fun hwhole => ?_, fun hnone => ?_,
    fun notice hnotice => ?_⟩
  · rw [hwritten]
    have hrestorable : Json.Restorable (981 + 9) (toValue p document toolVersion) :=
      restorable_toValue document toolVersion hwhole
    exact (Json.read_write hrestorable).2
  · have hresults : results p = p.annotations.map fun a => Result.ofIssue a.issue := by
      simp [results, hnone]
    rw [hresults, hcodes]
    refine ⟨rfl, horder.imp fun hlt => ?_, hmem, horder, hfirst⟩
    rintro rfl
    exact lt_irrefl _ hlt
  · have hunknown : Projection.isUnknownFormat issues = true := by
      by_contra hknown
      simp [p, Projection.ofIssues, hknown] at hnotice
    have hp : p = ⟨[], some Projection.unknownFormatNotice, []⟩ := if_pos hunknown
    rw [hp]
    exact ⟨rfl, _, rfl⟩

end Sarif

end ApiLint
