import ApiLint.Proofs.Document.Offsets
import ApiLint.Proofs.Issue.Batch
import ApiLint.Proofs.Issue.Fields
import ApiLint.Proofs.Json.Bounded

/-! The numbers of an issue. All that an output of the linter gives are short, since they come from values
that were read, so that a range among them that does not fit a document is always told. -/

namespace ApiLint

open Schema Json

def Position.ShortNumbers (p : Position) : Prop :=
  Short p.line ∧ Short p.character

def Range.ShortNumbers (r : Range) : Prop :=
  r.start.ShortNumbers ∧ r.stop.ShortNumbers

structure Issue.ShortNumbers (i : Issue) : Prop where
  range : i.range.ShortNumbers
  rawSeverity : ∀ n, i.rawSeverity = some n → Short n
  path : ∀ n, .index n ∈ i.path → Short n

/-- What a list was made of has an element for each of its members. -/
theorem exists_of_forall₂ {α β : Type} {r : α → β → Prop} {xs : List α} {ys : List β} {y : β}
    (h : List.Forall₂ r xs ys) (hy : y ∈ ys) : ∃ x ∈ xs, r x y := by
  induction h with
  | nil => cases hy
  | cons hr _ ih =>
    rcases List.mem_cons.mp hy with rfl | hy
    · exact ⟨_, List.mem_cons_self, hr⟩
    · obtain ⟨x, hx, hr⟩ := ih hy
      exact ⟨x, List.mem_cons_of_mem _ hx, hr⟩

section

variable {fields : Fields} {v : Value}

theorem shortNumbers_field {name : String} (h : ∀ f ∈ fields, f.2.ShortNumbers)
    (hv : fieldOf? name fields = some v) : v.ShortNumbers := by
  unfold fieldOf? at hv
  induction fields with
  | nil => cases hv
  | cons f fields ih =>
    have hfields : ∀ g ∈ fields, g.2.ShortNumbers := fun g hg => h g (List.mem_cons_of_mem _ hg)
    rw [Fields.get?] at hv
    split at hv
    · cases hv
      exact h f List.mem_cons_self
    · exact ih hfields hv

theorem short_checkWhole {n : Int} (hv : v.ShortNumbers) (h : checkWhole v = .ok n) : Short n := by
  unfold checkWhole at h
  cases hw : whole v with
  | ok m =>
    rw [hw] at h
    cases h
    exact short_whole hv hw
  | error rule =>
    rw [hw] at h
    cases h

theorem short_required_whole {name : String} {n : Int} (hf : ∀ f ∈ fields, f.2.ShortNumbers)
    (h : required name checkWhole fields = .ok n) : Short n := by
  obtain ⟨v, hv, hcheck⟩ := required_eq_ok_iff.mp h
  exact short_checkWhole (shortNumbers_field hf hv) hcheck

theorem Position.shortNumbers_ofValue {p : Position} (hv : v.ShortNumbers)
    (h : Position.ofValue v = .ok p) : p.ShortNumbers := by
  cases hv with
  | table hf =>
    obtain ⟨hline, hcharacter⟩ := Position.ofFields_eq_ok_iff.mp h
    exact ⟨short_required_whole hf hline, short_required_whole hf hcharacter⟩
  | _ => cases h

theorem Range.shortNumbers_ofValue {r : Range} (hv : v.ShortNumbers) (h : Range.ofValue v = .ok r) :
    r.ShortNumbers := by
  cases hv with
  | table hf =>
    obtain ⟨hstart, hstop⟩ := Range.ofFields_eq_ok_iff.mp h
    obtain ⟨u, hu, hstart⟩ := required_eq_ok_iff.mp hstart
    obtain ⟨w, hw, hstop⟩ := required_eq_ok_iff.mp hstop
    exact ⟨Position.shortNumbers_ofValue (shortNumbers_field hf hu) hstart,
      Position.shortNumbers_ofValue (shortNumbers_field hf hw) hstop⟩
  | _ => cases h

theorem PathItem.short_ofValue {n : Int} (hv : v.ShortNumbers)
    (h : PathItem.ofValue v = .ok (.index n)) : Short n := by
  unfold PathItem.ofValue at h
  split at h
  · cases h
  · split at h
    · rename_i hw
      cases h
      exact short_whole hv hw
    · cases h

theorem PathItem.short_listOfValue {items : List PathItem} (hv : v.ShortNumbers)
    (h : PathItem.listOfValue v = .ok items) : ∀ n, .index n ∈ items → Short n := by
  cases hv with
  | list hvs =>
    have hitems := Checked.itemsFrom_eq_ok_iff.mp h
    intro n hn
    obtain ⟨v, hv, hitem⟩ := exists_of_forall₂ hitems hn
    exact PathItem.short_ofValue (hvs v hv) hitem
  | _ => cases h

theorem Issue.short_reportedNumber {number : Option Int} (hf : ∀ f ∈ fields, f.2.ShortNumbers)
    (h : Issue.reportedNumber fields = .ok number) : ∀ n, number = some n → Short n := by
  unfold Issue.reportedNumber at h
  split at h
  · rename_i m hm
    cases h
    cases shortNumbers_field hf hm with
    | int hm =>
      intro n hn
      exact Option.some.inj hn ▸ hm
  · cases h
    exact nofun
  · rcases optional_eq_ok_iff.mp h with ⟨-, rfl⟩ | ⟨v, hv, hcheck⟩
    · exact nofun
    · unfold nullable at hcheck
      split at hcheck
      · cases hcheck
        exact nofun
      · cases hw : checkWhole v with
        | ok n =>
          rw [hw] at hcheck
          cases hcheck
          intro m hm
          exact Option.some.inj hm ▸ short_checkWhole (shortNumbers_field hf hv) hw
        | error faults =>
          rw [hw] at hcheck
          cases hcheck

theorem Issue.shortNumbers_ofValue {i : Issue} (hv : v.ShortNumbers) (h : Issue.ofValue v = .ok i) :
    i.ShortNumbers := by
  cases hv with
  | table hf =>
    obtain ⟨-, -, -, hrange, hnumber, hpath, -⟩ := Issue.ofParts_eq_ok_iff.mp h
    obtain ⟨r, hr, hrange⟩ := required_eq_ok_iff.mp hrange
    refine ⟨Range.shortNumbers_ofValue (shortNumbers_field hf hr) hrange,
      Issue.short_reportedNumber hf hnumber, ?_⟩
    rcases optional_eq_ok_iff.mp hpath with ⟨-, hnone⟩ | ⟨v, hv, hpath⟩
    · rw [hnone]
      exact nofun
    · exact PathItem.short_listOfValue (shortNumbers_field hf hv) hpath
  | _ => cases h

end

theorem Issue.shortNumbers_of_listOfOutput {output : List Char} {issues : List Issue}
    (h : Issue.listOfOutput output = .ok issues) : ∀ i ∈ issues, i.ShortNumbers := by
  unfold Issue.listOfOutput at h
  split at h
  · cases h
    exact nofun
  · split at h
    all_goals first | cases h | skip
    rename_i v hread
    obtain ⟨items, rfl, -, hissues⟩ := Issue.listOfValue_eq_ok_iff.mp (mapError_eq_ok_iff.mp h)
    intro i hi
    obtain ⟨item, hitem, hissue⟩ := exists_of_forall₂ hissues hi
    cases shortNumbers_of_read hread with
    | list hitems => exact Issue.shortNumbers_ofValue (hitems item hitem) hissue

theorem not_isLong_of_short {n : Int} (h : Short n) : isLong n = false :=
  decide_eq_false (Nat.not_le.mpr h)

/-- Offsets are no greater than the length of the text. -/
theorem short_offset {content : List Char} (hcontent : content.length < 10 ^ longestInteger) {p : Position}
    {n : Int} (h : p.offset (LineIndex.ofChars content).lookup = .ok n) : Short n := by
  obtain ⟨-, hc, line, hline, hle, rfl⟩ := LineIndex.offset_eq_ok_iff.mp h
  have hd : LineIndex.DividesFrom content (0 : Nat) (LineIndex.ofChars content) :=
    LineIndex.divides_ofChars content
  have hbounds := hd.mem_bounds (List.mem_of_getElem? hline)
  have hle' : (line.start + p.character).natAbs ≤ content.length := by omega
  exact hle'.trans_lt hcontent

theorem Position.ShortNumbers.not_tellsLong {content : List Char} {p : Position} (h : p.ShortNumbers) :
    ¬ p.TellsLong content := by
  simp [Position.TellsLong, not_isLong_of_short h.1, not_isLong_of_short h.2]

/-- An issue that was read and has no span is told how its range does not fit. -/
theorem Issue.misfit_of_listOfOutput {output content : List Char} {issues : List Issue} {i : Issue}
    {fault : RangeFault} (hcontent : content.length < 10 ^ longestInteger)
    (h : Issue.listOfOutput output = .ok issues) (hi : i ∈ issues)
    (hspan : i.span (LineIndex.ofChars content).lookup = .error fault) : fault.IsMisfit := by
  have hrange := (Issue.shortNumbers_of_listOfOutput h i hi).range
  rcases Range.misfit_of_span hspan with hmisfit | rfl
  · exact hmisfit
  · rcases Range.span_eq_unwritten_iff.mp hspan with ⟨-, hlong⟩ | ⟨-, -, hlong⟩ | ⟨m, -, hm, -, -, hlong⟩
    · exact absurd hlong hrange.1.not_tellsLong
    · exact absurd hlong hrange.2.not_tellsLong
    · rw [not_isLong_of_short (short_offset hcontent hm)] at hlong
      cases hlong

end ApiLint
