import ApiLint.Proofs.Issue.Numbers
import ApiLint.Proofs.Json.RoundTrip
import ApiLint.Proofs.Projection.Annotations
import ApiLint.Report.Json
import Mathlib.Data.List.Nodup

/-! A report for machines is read back. Its text is ASCII, the reader of the linter's output gets from it
the very value that was written, and no other report has this value. -/

namespace ApiLint

open Json

/-- A text in which no half of a surrogate pair stands alone. -/
def Text.IsWhole (t : Text) : Prop :=
  ∃ cs, t = ofChars cs

structure Issue.HasWholeTexts (i : Issue) : Prop where
  message : i.message.IsWhole
  path : ∀ name, .key name ∈ i.path → name.IsWhole
  source : ∀ t, i.source = some t → t.IsWhole

/-- What has a written form: no text with half of a pair alone, and no number that is too long. -/
structure Annotation.Writable (a : Annotation) : Prop where
  message : a.message.IsWhole
  texts : a.issue.HasWholeTexts
  numbers : a.issue.ShortNumbers
  span : Short a.span.start ∧ Short a.span.stop

structure Projection.Writable (p : Projection) : Prop where
  annotations : ∀ a ∈ p.annotations, a.Writable
  skipped : Short p.skipped.length

theorem Text.isWhole_ofString (s : String) : (Text.ofString s).IsWhole :=
  ⟨s.toList, rfl⟩

theorem Text.IsWhole.append {t u : Text} (ht : t.IsWhole) (hu : u.IsWhole) : (t ++ u).IsWhole := by
  obtain ⟨cs, rfl⟩ := ht
  obtain ⟨ds, rfl⟩ := hu
  exact ⟨cs ++ ds, List.map_append.symm⟩

theorem Text.ofString_injective : Function.Injective Text.ofString :=
  fun _ _ => Text.ofString_inj.mp

def Position.parts (p : Position) : List (String × Value) :=
  [("line", .int p.line), ("character", .int p.character)]

def Range.parts (r : Range) : List (String × Value) :=
  [("start", r.start.toValue), ("end", r.stop.toValue)]

def Issue.parts (i : Issue) : List (String × Value) :=
  [("code", .string i.code), ("message", .text i.message), ("severity", .int i.severity.code),
    ("range", i.range.toValue), ("raw_severity", (i.rawSeverity.map Value.int).getD .null),
    ("path", .list (i.path.map PathItem.toValue)), ("source", (i.source.map Value.text).getD .null)]

theorem Position.toValue_eq (p : Position) : p.toValue = Value.ofFields p.parts := rfl

theorem Range.toValue_eq (r : Range) : r.toValue = Value.ofFields r.parts := rfl

theorem Issue.toValue_eq (i : Issue) : i.toValue = Value.ofFields i.parts := rfl

section Written

variable {depth : Nat}

theorem restorable_text {t : Text} (h : t.IsWhole) : Restorable depth (.text t) := by
  obtain ⟨cs, rfl⟩ := h
  exact .text cs

theorem restorable_string (s : String) : Restorable depth (.string s) :=
  restorable_text (Text.isWhole_ofString s)

theorem restorable_ofFields {fields : List (String × Value)} (hkeys : (fields.map Prod.fst).Nodup)
    (h : ∀ f ∈ fields, Restorable depth f.2) : Restorable (depth + 1) (Value.ofFields fields) := by
  refine .table ?_ ?_ ?_
  · intro key hkey
    obtain ⟨f, hf, rfl⟩ := List.mem_map.mp hkey
    obtain ⟨g, -, rfl⟩ := List.mem_map.mp hf
    exact Text.isWhole_ofString g.1
  · have hnames := List.Nodup.map Text.ofString_injective hkeys
    simpa [Fields.keys, Function.comp_def] using hnames
  · intro f hf
    obtain ⟨g, hg, rfl⟩ := List.mem_map.mp hf
    exact h g hg

theorem restorable_position {p : Position} (h : p.ShortNumbers) : Restorable (depth + 1) p.toValue := by
  rw [Position.toValue_eq]
  refine restorable_ofFields (by simp [Position.parts]) ?_
  simp only [Position.parts, List.forall_mem_cons]
  exact ⟨.int h.1, .int h.2, nofun⟩

theorem restorable_range {r : Range} (h : r.ShortNumbers) : Restorable (depth + 2) r.toValue := by
  rw [Range.toValue_eq]
  refine restorable_ofFields (by simp [Range.parts]) ?_
  simp only [Range.parts, List.forall_mem_cons]
  exact ⟨restorable_position h.1, restorable_position h.2, nofun⟩

theorem restorable_issue {i : Issue} (ht : i.HasWholeTexts) (hn : i.ShortNumbers) :
    Restorable (depth + 3) i.toValue := by
  have hseverity : Short i.severity.code := by
    cases i.severity <;> exact short_of_lt (by decide)
  have hnumber : Restorable (depth + 2) ((i.rawSeverity.map Value.int).getD .null) := by
    cases hraw : i.rawSeverity with
    | none => exact .null
    | some n => exact .int (hn.rawSeverity n hraw)
  have hpath : Restorable (depth + 2) (.list (i.path.map PathItem.toValue)) := by
    refine .list fun v hv => ?_
    obtain ⟨item, hitem, rfl⟩ := List.mem_map.mp hv
    cases item with
    | key name => exact restorable_text (ht.path name hitem)
    | index n => exact .int (hn.path n hitem)
  have hsource : Restorable (depth + 2) ((i.source.map Value.text).getD .null) := by
    cases hs : i.source with
    | none => exact .null
    | some t => exact restorable_text (ht.source t hs)
  rw [Issue.toValue_eq]
  refine restorable_ofFields (by simp [Issue.parts]) ?_
  simp only [Issue.parts, List.forall_mem_cons]
  exact ⟨restorable_string _, restorable_text ht.message, .int hseverity, restorable_range hn.range,
    hnumber, hpath, hsource, nofun⟩

theorem restorable_annotation {a : Annotation} (h : a.Writable) : Restorable (depth + 4) a.toValue := by
  unfold Annotation.toValue
  refine restorable_ofFields (by simp) ?_
  simp only [List.forall_mem_cons]
  exact ⟨.int h.span.1, .int h.span.2, restorable_string _, restorable_text h.message,
    restorable_issue h.texts h.numbers, nofun⟩

theorem restorable_notice (notice : Option Notice) :
    Restorable (depth + 1) ((notice.map Notice.toValue).getD .null) := by
  cases notice with
  | none => exact .null
  | some n =>
    refine restorable_ofFields (by simp) ?_
    simp only [List.forall_mem_cons]
    exact ⟨restorable_string _, restorable_string _, nofun⟩

theorem short_span {content : List Char} (hcontent : content.length < 10 ^ longestInteger) {i : Issue}
    {span : Span} (h : i.span (LineIndex.ofChars content).lookup = .ok span) :
    Short span.start ∧ Short span.stop := by
  obtain ⟨hstart, hstop, -⟩ := Range.span_eq_ok_iff.mp h
  exact ⟨short_offset hcontent hstart, short_offset hcontent hstop⟩

theorem Issue.writable_annotation {i : Issue} {span : Span} (ht : i.HasWholeTexts) (hn : i.ShortNumbers)
    (hspan : Short span.start ∧ Short span.stop) : (i.annotation span).Writable :=
  ⟨((Text.isWhole_ofString _).append (Text.isWhole_ofString _)).append ht.message, ht, hn, hspan⟩

theorem Projection.writable_ofIssues {content output : List Char} {issues : List Issue}
    (hissues : Issue.listOfOutput output = .ok issues) (htexts : ∀ i ∈ issues, i.HasWholeTexts)
    (hcontent : content.length < 10 ^ longestInteger) (hcount : issues.length < 10 ^ longestInteger) :
    (Projection.ofIssues (LineIndex.ofChars content).lookup issues).Writable := by
  have hnumbers := Issue.shortNumbers_of_listOfOutput hissues
  refine ⟨fun a ha => ?_, (Projection.length_skipped_le _ issues).trans_lt hcount⟩
  obtain ⟨-, i, hi, span, hspan, rfl⟩ := Projection.mem_annotations_iff.mp ha
  exact Issue.writable_annotation (htexts i hi) (hnumbers i hi) (short_span hcontent hspan)

theorem Projection.Writable.restorable {p : Projection} (h : p.Writable) (document : String) :
    Restorable deepest (p.toValue document) := by
  have hannotations : Restorable 989 (.list (p.annotations.map Annotation.toValue)) := by
    refine .list fun v hv => ?_
    obtain ⟨a, ha, rfl⟩ := List.mem_map.mp hv
    exact restorable_annotation (h.annotations a ha)
  unfold Projection.toValue
  refine restorable_ofFields (by simp) ?_
  simp only [List.forall_mem_cons]
  exact ⟨restorable_string _, restorable_notice _, hannotations, .int h.skipped, nofun⟩

theorem Projection.Writable.read_renderJson {p : Projection} (h : p.Writable) (document : String) :
    (∀ c ∈ (p.renderJson document).toList, c.toNat < 128) ∧
      read (p.renderJson document).toList = .ok (p.toValue document) := by
  have hwritten : (p.renderJson document).toList = write (p.toValue document) := String.toList_ofList
  rw [hwritten]
  exact read_write (h.restorable document)

end Written

section Injective

theorem Value.string_inj {s t : String} : Value.string s = .string t ↔ s = t := by
  rw [Value.string, Value.string, Value.text.injEq]
  exact Text.ofString_injective.eq_iff

theorem DisplaySeverity.name_injective : Function.Injective DisplaySeverity.name := by
  intro s t h
  cases s <;> cases t <;> first | rfl | exact absurd h (by decide)

theorem Severity.code_injective : Function.Injective Severity.code := by
  intro s t h
  cases s <;> cases t <;> first | rfl | cases h

theorem PathItem.toValue_injective : Function.Injective PathItem.toValue := by
  intro a b h
  cases a <;> cases b <;> cases h <;> rfl

theorem Option.getD_null_injective {α : Type} {write : α → Value} (hw : Function.Injective write)
    (hnull : ∀ x, write x ≠ .null) : Function.Injective fun x : Option α => (x.map write).getD .null := by
  intro x y h
  cases x with
  | none =>
    cases y with
    | none => rfl
    | some y => exact absurd h.symm (hnull y)
  | some x =>
    cases y with
    | none => exact absurd h (hnull x)
    | some y => exact congrArg some (hw h)

theorem Position.toValue_injective : Function.Injective Position.toValue := by
  rintro ⟨line, character⟩ ⟨line', character'⟩ h
  simpa [Position.toValue] using h

theorem Range.toValue_injective : Function.Injective Range.toValue := by
  rintro ⟨start, stop⟩ ⟨start', stop'⟩ h
  simpa [Range.toValue, Position.toValue_injective.eq_iff] using h

theorem Issue.toValue_injective : Function.Injective Issue.toValue := by
  rintro ⟨code, message, severity, range, number, path, source⟩
    ⟨code', message', severity', range', number', path', source'⟩ h
  have hint : Function.Injective Value.int := fun _ _ => Value.int.inj
  have htext : Function.Injective Value.text := fun _ _ => Value.text.inj
  simp only [Issue.toValue, Issue.toFields, Value.table.injEq, List.cons.injEq, Prod.mk.injEq, true_and,
    and_true] at h
  obtain ⟨hcode, hmessage, hseverity, hrange, hnumber, hpath, hsource⟩ := h
  obtain rfl := Value.string_inj.mp hcode
  obtain rfl := Value.text.inj hmessage
  obtain rfl := Severity.code_injective (Int.ofNat.inj (Value.int.inj hseverity))
  obtain rfl := Range.toValue_injective hrange
  obtain rfl := Option.getD_null_injective hint nofun hnumber
  obtain rfl := PathItem.toValue_injective.list_map (Value.list.inj hpath)
  obtain rfl := Option.getD_null_injective htext nofun hsource
  rfl

theorem Annotation.toValue_injective : Function.Injective Annotation.toValue := by
  rintro ⟨⟨start, stop⟩, severity, message, issue⟩ ⟨⟨start', stop'⟩, severity', message', issue'⟩ h
  simp only [Value.ofFields, Annotation.toValue, List.map_cons, List.map_nil, Value.table.injEq,
    List.cons.injEq, Prod.mk.injEq, true_and, and_true] at h
  obtain ⟨hstart, hstop, hseverity, hmessage, hissue⟩ := h
  obtain rfl := Value.int.inj hstart
  obtain rfl := Value.int.inj hstop
  obtain rfl := DisplaySeverity.name_injective (Value.string_inj.mp hseverity)
  obtain rfl := Value.text.inj hmessage
  obtain rfl := Issue.toValue_injective hissue
  rfl

theorem Notice.toValue_injective : Function.Injective Notice.toValue := by
  rintro ⟨severity, message⟩ ⟨severity', message'⟩ h
  simp only [Notice.toValue, Value.ofFields, List.map_cons, List.map_nil, Value.table.injEq,
    List.cons.injEq, Prod.mk.injEq, true_and, and_true] at h
  obtain rfl := DisplaySeverity.name_injective (Value.string_inj.mp h.1)
  obtain rfl := Value.string_inj.mp h.2
  rfl

/-- The value of a report tells the report apart from all others, but for the issues that it counts as
skipped. -/
theorem Projection.toValue_inj {p q : Projection} {document document' : String}
    (h : p.toValue document = q.toValue document') :
    document = document' ∧ p.notice = q.notice ∧ p.annotations = q.annotations ∧
      p.skipped.length = q.skipped.length := by
  simp only [Projection.toValue, Value.ofFields, List.map_cons, List.map_nil, Value.table.injEq,
    List.cons.injEq, Prod.mk.injEq, true_and, and_true] at h
  obtain ⟨hdocument, hnotice, hannotations, hskipped⟩ := h
  exact ⟨Value.string_inj.mp hdocument, Option.getD_null_injective Notice.toValue_injective nofun hnotice,
    Annotation.toValue_injective.list_map (Value.list.inj hannotations),
    Int.ofNat.inj (Value.int.inj hskipped)⟩

end Injective

/-- The report of what the linter found in a text is written in ASCII, and what is read from it is its
value, which no other report has. Neither the text nor the issues may be so many that their count has no
written form. -/
theorem Projection.renderJson_reads_back (document : String) {content output : List Char}
    {issues : List Issue} (hissues : Issue.listOfOutput output = .ok issues)
    (htexts : ∀ i ∈ issues, i.HasWholeTexts) (hcontent : content.length < 10 ^ longestInteger)
    (hcount : issues.length < 10 ^ longestInteger) :
    let p := Projection.ofIssues (LineIndex.ofChars content).lookup issues
    (∀ c ∈ (p.renderJson document).toList, c.toNat < 128) ∧
    Json.read (p.renderJson document).toList = .ok (p.toValue document) ∧
    ∀ (q : Projection) (other : String),
      Json.read (p.renderJson document).toList = .ok (q.toValue other) →
        other = document ∧ q.notice = p.notice ∧ q.annotations = p.annotations ∧
          q.skipped.length = p.skipped.length := by
  intro p
  have hwritable : p.Writable := Projection.writable_ofIssues hissues htexts hcontent hcount
  obtain ⟨hascii, hread⟩ := hwritable.read_renderJson document
  refine ⟨hascii, hread, fun q other hother => ?_⟩
  rw [hread, Except.ok.injEq] at hother
  exact Projection.toValue_inj hother.symm

/-- A quote, a backslash, a control character, one outside the basic plane and a number that no severity
has. -/
theorem Projection.renderJson_reads_back_escapes :
    let issue : Issue := ⟨"\"", Text.ofChars ['\\', '\x7f', '😀'], .info, ⟨⟨0, 0⟩, ⟨0, 1⟩⟩, some (-7),
      [.key [], .index 3], none⟩
    let reported := Value.ofFields [("code", .string "\""), ("message", .text issue.message),
      ("severity", .int (-7)), ("range", issue.range.toValue), ("path", .list [.string "", .int 3])]
    let p := Projection.ofIssues (LineIndex.ofChars ['a']).lookup [issue]
    Issue.listOfOutput (Json.write (.list [reported])) = .ok [issue] ∧ issue.HasWholeTexts ∧
      1 < 10 ^ longestInteger ∧ (∀ c ∈ (p.renderJson "d").toList, c.toNat < 128) ∧
      Json.read (p.renderJson "d").toList = .ok (p.toValue "d") := by
  intro issue reported p
  have htexts : issue.HasWholeTexts := by
    refine ⟨⟨_, rfl⟩, ?_, nofun⟩
    intro name hname
    obtain rfl : name = [] := by simpa [issue] using hname
    exact ⟨[], rfl⟩
  have hreported : Restorable 989 reported := by
    refine restorable_ofFields (by simp) ?_
    simp only [List.forall_mem_cons]
    refine ⟨restorable_string _, restorable_text htexts.message, .int (short_of_lt (by decide)),
      restorable_range ?_, .list ?_, nofun⟩
    · exact ⟨⟨short_of_lt (by decide), short_of_lt (by decide)⟩, short_of_lt (by decide),
        short_of_lt (by decide)⟩
    · simp only [List.forall_mem_cons]
      exact ⟨restorable_string _, .int (short_of_lt (by decide)), nofun⟩
  have hlist : Restorable deepest (.list [reported]) := .list (by simpa using hreported)
  have hvalue : Issue.listOfValue (.list [reported]) = .ok [issue] := by decide
  have hissues : Issue.listOfOutput (Json.write (.list [reported])) = .ok [issue] := by
    rw [Issue.listOfOutput_of_read rfl (read_write hlist).2, hvalue]
    rfl
  have hone : ['a'].length < 10 ^ longestInteger := Nat.one_lt_pow (by decide) (by decide)
  have hall : ∀ i ∈ [issue], i.HasWholeTexts := by simpa using htexts
  obtain ⟨hascii, hback, -⟩ := Projection.renderJson_reads_back "d" hissues hall hone hone
  exact ⟨hissues, htexts, hone, hascii, hback⟩

end ApiLint
