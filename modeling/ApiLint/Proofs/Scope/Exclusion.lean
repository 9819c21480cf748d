import ApiLint.Proofs.Faults
import ApiLint.Proofs.Scope.Decision

/-! When a document is left out, and what is told of it. The patterns are asked in their order: the first
one that matches settles the search, one that asks for a base directory where there is none ends it with a
fault, and all others are passed over. -/

namespace ApiLint.Scope

open Glob

section

variable {sep : Char} {base : Place} {path pattern : List Char} {patterns : List (List Char)}

/-- A pattern that is to be read under a base directory where something else stands. -/
def Unresolved (sep : Char) (base : Place) (pattern : List Char) : Prop :=
  isRooted sep (normalize [sep] pattern) = false ∧ ∃ value, base = .other value

def Matches (sep : Char) (base : Place) (path pattern : List Char) : Prop :=
  ∃ resolved, resolve sep base pattern = .ok resolved ∧ matchesPath sep resolved path = true

theorem exists_fault_iff : (∃ fault, resolve sep base pattern = .error fault) ↔ Unresolved sep base pattern := by
  unfold Unresolved
  cases hrooted : isRooted sep (normalize [sep] pattern) with
  | true => simp [resolve_rooted hrooted]
  | false =>
    cases base with
    | path directory => simp [resolve_relative hrooted]
    | other value =>
      refine iff_of_true ⟨.notAPath value.kindName, ?_⟩ ⟨rfl, value, rfl⟩
      simp only [resolve, hrooted, Bool.false_eq_true, if_false]
      rfl

theorem Matches.not_unresolved (h : Matches sep base path pattern) : ¬ Unresolved sep base pattern := by
  obtain ⟨resolved, hresolved, -⟩ := h
  rw [← exists_fault_iff, hresolved]
  simp

theorem anyMatches_empty : anyMatches sep base path ([] :: patterns) = anyMatches sep base path patterns :=
  rfl

theorem anyMatches_of_unresolved (path : List Char) (patterns : List (List Char)) (hne : pattern ≠ [])
    (h : Unresolved sep base pattern) :
    ∃ fault, anyMatches sep base path (pattern :: patterns) = .error fault := by
  obtain ⟨fault, hfault⟩ := exists_fault_iff.mpr h
  refine ⟨fault, ?_⟩
  rw [anyMatches, if_neg (by simpa using hne), hfault]
  rfl

theorem anyMatches_of_matches (hne : pattern ≠ []) (h : Matches sep base path pattern) :
    anyMatches sep base path (pattern :: patterns) = .ok true := by
  obtain ⟨resolved, hresolved, hmatch⟩ := h
  rw [anyMatches, if_neg (by simpa using hne), hresolved]
  simp [bind, Except.bind, pure, Except.pure, hmatch]

theorem anyMatches_of_passed (hresolved : ¬ Unresolved sep base pattern)
    (hmatch : ¬ Matches sep base path pattern) :
    anyMatches sep base path (pattern :: patterns) = anyMatches sep base path patterns := by
  rw [anyMatches]
  split
  · rfl
  · cases hr : resolve sep base pattern with
    | error fault => exact absurd (exists_fault_iff.mp ⟨fault, hr⟩) hresolved
    | ok resolved =>
      have hfalse : matchesPath sep resolved path = false :=
        Bool.eq_false_iff.mpr fun h => hmatch ⟨resolved, hr, h⟩
      simp [bind, Except.bind, hfalse]

/-- A pattern matches, and no pattern before it is without its base. -/
def FirstMatch (sep : Char) (base : Place) (path : List Char) (patterns : List (List Char)) : Prop :=
  ∃ front pattern back, patterns = front ++ pattern :: back ∧ pattern ≠ [] ∧
    Matches sep base path pattern ∧ ∀ q ∈ front, q ≠ [] → ¬ Unresolved sep base q

theorem firstMatch_cons_iff : FirstMatch sep base path (pattern :: patterns) ↔
    (pattern ≠ [] ∧ Matches sep base path pattern) ∨
      (pattern ≠ [] → ¬ Unresolved sep base pattern) ∧ FirstMatch sep base path patterns := by
  constructor
  · rintro ⟨front, found, back, heq, hne, hmatch, hbefore⟩
    rcases List.cons_eq_append_iff.mp heq with ⟨rfl, hcons⟩ | ⟨front, rfl, rfl⟩
    · obtain ⟨rfl, rfl⟩ := List.cons.inj hcons
      exact Or.inl ⟨hne, hmatch⟩
    · obtain ⟨hfirst, hrest⟩ := List.forall_mem_cons.mp hbefore
      exact Or.inr ⟨hfirst, front, found, back, rfl, hne, hmatch, hrest⟩
  · rintro (⟨hne, hmatch⟩ | ⟨hfirst, front, found, back, rfl, hne, hmatch, hbefore⟩)
    · exact ⟨[], pattern, patterns, rfl, hne, hmatch, nofun⟩
    · exact ⟨pattern :: front, found, back, rfl, hne, hmatch, List.forall_mem_cons.mpr ⟨hfirst, hbefore⟩⟩

theorem anyMatches_eq_true_iff :
    anyMatches sep base path patterns = .ok true ↔ FirstMatch sep base path patterns := by
  induction patterns with
  | nil =>
    refine iff_of_false (fun h => by simp [anyMatches] at h) ?_
    rintro ⟨front, pattern, back, heq, -⟩
    simp at heq
  | cons pattern patterns ih =>
    rw [firstMatch_cons_iff, ← ih]
    by_cases hne : pattern = []
    · subst hne
      simp [anyMatches_empty]
    · by_cases hunresolved : Unresolved sep base pattern
      · obtain ⟨fault, hfault⟩ := anyMatches_of_unresolved path patterns hne hunresolved
        have hmatch : ¬ Matches sep base path pattern := fun h => h.not_unresolved hunresolved
        simp [hfault, hne, hunresolved, hmatch]
      · by_cases hmatch : Matches sep base path pattern
        · simp [anyMatches_of_matches hne hmatch, hne, hmatch]
        · simp [anyMatches_of_passed hunresolved hmatch, hunresolved, hmatch]

theorem anyMatches_eq_false_iff : anyMatches sep base path patterns = .ok false ↔
    ∀ pattern ∈ patterns, pattern ≠ [] → ¬ Unresolved sep base pattern ∧ ¬ Matches sep base path pattern := by
  induction patterns with
  | nil => simp [anyMatches]
  | cons pattern patterns ih =>
    rw [List.forall_mem_cons, ← ih]
    by_cases hne : pattern = []
    · subst hne
      simp [anyMatches_empty]
    · by_cases hunresolved : Unresolved sep base pattern
      · obtain ⟨fault, hfault⟩ := anyMatches_of_unresolved path patterns hne hunresolved
        simp [hfault, hne, hunresolved]
      · by_cases hmatch : Matches sep base path pattern
        · simp [anyMatches_of_matches hne hmatch, hne, hmatch]
        · simp [anyMatches_of_passed hunresolved hmatch, hunresolved, hmatch]

end

section

variable {levels : Nat} {separator : List Char} {base candidate : Place} {patterns : List (List Char)}

/-- There is something to match: a base, a separator of one character, and a path. -/
structure Askable (separator : List Char) (base candidate : Place) (sep : Char) (path : List Char) : Prop where
  base : base.isMissing = false
  separator : separator = [sep]
  candidate : candidate = .path path

def Selected (separator : List Char) (base candidate : Place) (patterns : List (List Char)) : Prop :=
  ∃ sep path, Askable separator base candidate sep path ∧ FirstMatch sep base (normalize [sep] path) patterns

/-- A document that every pattern was asked about and none matches. -/
def PassedOver (separator : List Char) (base candidate : Place) (patterns : List (List Char)) : Prop :=
  ∃ sep path, Askable separator base candidate sep path ∧ ∀ pattern ∈ patterns, pattern ≠ [] →
    ¬ Unresolved sep base pattern ∧ ¬ Matches sep base (normalize [sep] path) pattern

theorem Askable.exists_iff {sep : Char} {path : List Char} {p : Char → List Char → Prop}
    (h : Askable separator base candidate sep path) :
    (∃ sep path, Askable separator base candidate sep path ∧ p sep path) ↔ p sep path := by
  constructor
  · rintro ⟨sep', path', h', hp⟩
    obtain rfl : sep = sep' := by simpa using h.separator.symm.trans h'.separator
    obtain rfl : path = path' := by simpa using h.candidate.symm.trans h'.candidate
    exact hp
  · exact fun hp => ⟨sep, path, h, hp⟩

theorem exclusion_of_askable {sep : Char} {path : List Char} (h : Askable separator base candidate sep path) :
    exclusion separator base candidate patterns =
      match anyMatches sep base (normalize [sep] path) patterns with
      | .error fault => some (.fault fault)
      | .ok false => some .unmatched
      | .ok true => none := by
  obtain ⟨hbase, rfl, rfl⟩ := h
  rw [exclusion_path, hbase, isIncluded_path]
  rfl

/-- Without something to match the document is left out, and not for want of a match. -/
theorem exclusion_of_not_askable (patterns : List (List Char))
    (h : ∀ sep path, ¬ Askable separator base candidate sep path) :
    ∃ why, exclusion separator base candidate patterns = some why ∧ why ≠ .unmatched := by
  unfold exclusion
  cases hbase : base.isMissing with
  | true => exact ⟨.missing, rfl, nofun⟩
  | false =>
    rw [Bool.false_or]
    cases hcandidate : candidate.isMissing with
    | true => exact ⟨.missing, rfl, nofun⟩
    | false =>
      cases hseparator : separator? separator with
      | error fault => exact ⟨.fault fault, rfl, nofun⟩
      | ok sep =>
        cases candidate with
        | other value => exact ⟨.fault (.notAPath value.kindName), rfl, nofun⟩
        | path value =>
          have hone : separator = [sep] := by
            unfold separator? at hseparator
            split at hseparator
            · rw [Except.ok.inj hseparator]
            · cases hseparator
          exact absurd ⟨hbase, hone, rfl⟩ (h sep value)

theorem exclusion_eq_none_iff :
    exclusion separator base candidate patterns = none ↔ Selected separator base candidate patterns := by
  by_cases haskable : ∃ sep path, Askable separator base candidate sep path
  · obtain ⟨sep, path, h⟩ := haskable
    rw [Selected, h.exists_iff, ← anyMatches_eq_true_iff, exclusion_of_askable h]
    rcases anyMatches sep base (normalize [sep] path) patterns with fault | (_ | _) <;> simp
  · push Not at haskable
    obtain ⟨why, hwhy, -⟩ := exclusion_of_not_askable patterns haskable
    rw [hwhy]
    exact iff_of_false nofun fun ⟨sep, path, h, _⟩ => haskable sep path h

theorem exclusion_eq_unmatched_iff :
    exclusion separator base candidate patterns = some .unmatched ↔
      PassedOver separator base candidate patterns := by
  by_cases haskable : ∃ sep path, Askable separator base candidate sep path
  · obtain ⟨sep, path, h⟩ := haskable
    rw [PassedOver, h.exists_iff, ← anyMatches_eq_false_iff, exclusion_of_askable h]
    rcases anyMatches sep base (normalize [sep] path) patterns with fault | (_ | _) <;> simp
  · push Not at haskable
    obtain ⟨why, hwhy, hne⟩ := exclusion_of_not_askable patterns haskable
    rw [hwhy]
    exact iff_of_false (fun h => hne (Option.some.inj h)) fun ⟨sep, path, h, _⟩ => haskable sep path h

theorem level_record (why : Exclusion) :
    (why.record base candidate patterns).level = if why = .unmatched then .debug else .error := by
  cases why <;> rfl

theorem channel_record (why : Exclusion) : (why.record base candidate patterns).channel = .scope := by
  cases why <;> rfl

def Place.Sinks (levels : Nat) (place : Place) : Prop :=
  ∃ value, place = .other value ∧ TooDeep levels value

def Place.Writes (levels : Nat) (place : Place) : Prop :=
  ∀ value, place = .other value → ¬ Unwritable levels value

theorem Place.writingFault?_eq_tooDeep_iff {place : Place} :
    place.writingFault? levels = some .tooDeep ↔ place.Sinks levels := by
  unfold Place.Sinks
  cases place with
  | path => exact iff_of_false nofun nofun
  | other value => simp [Place.writingFault?, Value.writingFault?_eq_tooDeep_iff]

theorem Place.writingFault?_eq_none_iff {place : Place} :
    place.writingFault? levels = none ↔ place.Writes levels := by
  unfold Place.Writes
  cases place with
  | path => exact iff_of_true rfl nofun
  | other value => simp [Place.writingFault?, Value.writingFault?_eq_none_iff]

theorem shouldLint_eq_error_iff {fault : WritingFault} :
    shouldLint levels separator base candidate patterns = .error fault ↔
      fault = .tooDeep ∧ ¬ Selected separator base candidate patterns ∧
        ¬ PassedOver separator base candidate patterns ∧
        (base.Sinks levels ∨ base.Writes levels ∧ candidate.Sinks levels) := by
  rw [← exclusion_eq_none_iff, ← exclusion_eq_unmatched_iff]
  simp only [← Place.writingFault?_eq_tooDeep_iff, ← Place.writingFault?_eq_none_iff, ← Option.or_eq_some_iff]
  have hwriting : (exclusion separator base candidate patterns).bind
      (Exclusion.writingFault? levels base candidate) = some .tooDeep ↔
        exclusion separator base candidate patterns ≠ none ∧
        exclusion separator base candidate patterns ≠ some .unmatched ∧
          (base.writingFault? levels).or (candidate.writingFault? levels) = some .tooDeep := by
    cases exclusion separator base candidate patterns with
    | none => simp
    | some why => cases why <;> simp [Exclusion.writingFault?]
  rw [← hwriting]
  unfold shouldLint
  simp only
  split
  · rename_i h
    simp [h, eq_comm]
  · rename_i h
    simp [h]

theorem eq_of_shouldLint {result : Bool × List LogRecord}
    (h : shouldLint levels separator base candidate patterns = .ok result) :
    decision separator base candidate patterns = result := by
  unfold shouldLint at h
  simp only at h
  split at h
  · cases h
  · exact Except.ok.inj h

theorem Place.Writes.not_sinks {place : Place} (h : place.Writes levels) : ¬ place.Sinks levels := by
  rw [← Place.writingFault?_eq_tooDeep_iff, Place.writingFault?_eq_none_iff.mpr h]
  nofun

/-- The decision on places that can be written is the whole of it. -/
theorem shouldLint_of_writes (hbase : base.Writes levels) (hcandidate : candidate.Writes levels) :
    shouldLint levels separator base candidate patterns = .ok (decision separator base candidate patterns) := by
  cases hresult : shouldLint levels separator base candidate patterns with
  | ok result => rw [eq_of_shouldLint hresult]
  | error fault =>
    obtain ⟨-, -, -, hsinks | ⟨-, hsinks⟩⟩ := shouldLint_eq_error_iff.mp hresult
    · exact absurd hsinks hbase.not_sinks
    · exact absurd hsinks hcandidate.not_sinks

end

/-- The decision on a document, whatever stands for its path, its base, the separator and the patterns. It
comes to a fault just when the document is left out for another reason than that no pattern matches, and what
stands for its base, or the base can be written and what stands for its path, lies too deep. Otherwise the
document is linted when a pattern matches before any is without its base. There is no record then, and one
otherwise, which is an error unless all patterns were passed over. -/
theorem shouldLint_selects_and_records (levels : Nat) (separator : List Char) (base candidate : Place)
    (patterns : List (List Char)) :
    (∀ sep pattern, (∃ fault, resolve sep base pattern = .error fault) ↔ Unresolved sep base pattern) ∧
    (∀ fault, shouldLint levels separator base candidate patterns = .error fault ↔
      fault = .tooDeep ∧ ¬ Selected separator base candidate patterns ∧
        ¬ PassedOver separator base candidate patterns ∧
        (base.Sinks levels ∨ base.Writes levels ∧ candidate.Sinks levels)) ∧
    ∀ included records, shouldLint levels separator base candidate patterns = .ok (included, records) →
      (included = true ↔ Selected separator base candidate patterns) ∧
      (Selected separator base candidate patterns → records = []) ∧
      (¬ Selected separator base candidate patterns → ∃ record, records = [record] ∧
        record.channel = .scope ∧ (record.level = .debug ↔ PassedOver separator base candidate patterns) ∧
        (record.level = .error ↔ ¬ PassedOver separator base candidate patterns)) := by
  refine ⟨fun _ _ => exists_fault_iff, fun _ => shouldLint_eq_error_iff, fun included records h => ?_⟩
  have hdecision := eq_of_shouldLint h
  rw [← exclusion_eq_none_iff, ← exclusion_eq_unmatched_iff]
  unfold decision at hdecision
  cases hexclusion : exclusion separator base candidate patterns with
  | none =>
    rw [hexclusion] at hdecision
    cases hdecision
    simp
  | some why =>
    rw [hexclusion] at hdecision
    cases hdecision
    refine ⟨by simp, fun h => absurd h (Option.some_ne_none why), fun _ => ⟨_, rfl, channel_record why, ?_⟩⟩
    rw [level_record]
    by_cases h : why = .unmatched <;> simp [h]

def nest : Nat → Value
  | 0 => .null
  | n + 1 => .list [nest n]

theorem tooDeep_nest {levels n : Nat} (h : levels ≤ n) : TooDeep levels (nest n) := by
  induction levels generalizing n with
  | zero => exact .start
  | succ levels ih =>
    obtain ⟨n, rfl⟩ := Nat.exists_eq_succ_of_ne_zero (Nat.ne_of_gt (Nat.zero_lt_of_lt h))
    exact .item (List.forall_mem_nil _) (ih (Nat.le_of_succ_le_succ h))

/-- Lists two thousand deep stand for a path, and the document is not left out. -/
theorem shouldLint_nest :
    shouldLint Value.deepestShown ['/'] (.path "/a".toList) (.other (nest 2000)) ["**/*.json".toList] =
      .error .tooDeep := by
  have hcandidate : ∀ sep path, ¬ Askable ['/'] (.path "/a".toList) (.other (nest 2000)) sep path :=
    fun _ _ h => nomatch h.candidate
  refine shouldLint_eq_error_iff.mpr ⟨rfl, ?_, ?_, Or.inr ⟨nofun, _, rfl, tooDeep_nest (by decide)⟩⟩
  · exact fun ⟨sep, path, h, _⟩ => hcandidate sep path h
  · exact fun ⟨sep, path, h, _⟩ => hcandidate sep path h

/-- A base that is no path does no harm before a pattern that needs it. -/
example : (decision ['/'] (.other (.int 5)) (.path "/a.json".toList) ["".toList, "**/*.json".toList,
    "*.json".toList]).1 = true := by
  decide +kernel

end ApiLint.Scope
