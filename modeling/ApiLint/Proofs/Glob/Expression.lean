import ApiLint.Glob.Expression
import Mathlib.Data.List.Forall2

/-! What a pattern stands for within one segment, apart from any way to find out: the segment falls into
pieces, one for each character of the pattern. The matcher for plain text finds this out. So does the
expression that the pattern is written as, which can always be read, and where a pattern has no wildcard it
comes to the same as comparing. -/

namespace ApiLint.Glob

section

variable {α β : Type} {star one x : α} {pattern segment piece : List α}

/-- What one character of a pattern stands for. -/
inductive Piece (star one : α) : α → List α → Prop
  | any (piece : List α) : Piece star one star piece
  | single (x : α) : Piece star one one [x]
  | same {x : α} : x ≠ star → x ≠ one → Piece star one x [x]

/-- A segment falls into consecutive pieces, one for each character of a pattern. -/
def FallsInto (star one : α) (pattern segment : List α) : Prop :=
  ∃ pieces, List.Forall₂ (Piece star one) pattern pieces ∧ segment = pieces.flatten

theorem piece_one_iff (h : star ≠ one) : Piece star one one piece ↔ ∃ y, piece = [y] := by
  constructor
  · intro hp
    cases hp with
    | any => exact absurd rfl h
    | single y => exact ⟨y, rfl⟩
    | same _ hone => exact absurd rfl hone
  · rintro ⟨y, rfl⟩
    exact .single y

theorem piece_same_iff (hstar : x ≠ star) (hone : x ≠ one) : Piece star one x piece ↔ piece = [x] := by
  constructor
  · intro hp
    cases hp with
    | any => exact absurd rfl hstar
    | single => exact absurd rfl hone
    | same => rfl
  · rintro rfl
    exact .same hstar hone

theorem fallsInto_nil : FallsInto star one [] segment ↔ segment = [] := by
  constructor
  · rintro ⟨_, ⟨⟩, rfl⟩
    rfl
  · rintro rfl
    exact ⟨[], .nil, rfl⟩

theorem fallsInto_cons :
    FallsInto star one (x :: pattern) segment ↔
      ∃ piece rest, segment = piece ++ rest ∧ Piece star one x piece ∧ FallsInto star one pattern rest := by
  constructor
  · rintro ⟨_, hp | ⟨hp, hps⟩, rfl⟩
    exact ⟨_, _, rfl, hp, _, hps, rfl⟩
  · rintro ⟨piece, _, rfl, hp, pieces, hps, rfl⟩
    exact ⟨piece :: pieces, .cons hp hps, rfl⟩

theorem fallsInto_star :
    FallsInto star one (star :: pattern) segment ↔
      ∃ pre rest, segment = pre ++ rest ∧ FallsInto star one pattern rest := by
  rw [fallsInto_cons]
  constructor
  · rintro ⟨pre, rest, rfl, -, h⟩
    exact ⟨pre, rest, rfl, h⟩
  · rintro ⟨pre, rest, rfl, h⟩
    exact ⟨pre, rest, rfl, .any pre, h⟩

theorem fallsInto_one (hne : star ≠ one) :
    FallsInto star one (one :: pattern) segment ↔
      ∃ y rest, segment = y :: rest ∧ FallsInto star one pattern rest := by
  rw [fallsInto_cons]
  simp only [piece_one_iff hne]
  constructor
  · rintro ⟨_, rest, rfl, ⟨y, rfl⟩, h⟩
    exact ⟨y, rest, rfl, h⟩
  · rintro ⟨y, rest, rfl, h⟩
    exact ⟨[y], rest, rfl, ⟨y, rfl⟩, h⟩

theorem fallsInto_same (hstar : x ≠ star) (hone : x ≠ one) :
    FallsInto star one (x :: pattern) segment ↔
      ∃ rest, segment = x :: rest ∧ FallsInto star one pattern rest := by
  rw [fallsInto_cons]
  simp only [piece_same_iff hstar hone]
  constructor
  · rintro ⟨_, rest, rfl, rfl, h⟩
    exact ⟨rest, rfl, h⟩
  · rintro ⟨rest, rfl, h⟩
    exact ⟨[x], rest, rfl, rfl, h⟩

/-- Without wildcards a pattern stands for itself alone. -/
theorem fallsInto_iff_eq (h : ∀ x ∈ pattern, x ≠ star ∧ x ≠ one) :
    FallsInto star one pattern segment ↔ pattern = segment := by
  induction pattern generalizing segment with
  | nil => rw [fallsInto_nil, eq_comm]
  | cons x pattern ih =>
    obtain ⟨⟨hstar, hone⟩, hrest⟩ := List.forall_mem_cons.mp h
    simp only [fallsInto_same hstar hone, ih hrest]
    constructor
    · rintro ⟨_, rfl, rfl⟩
      rfl
    · rintro rfl
      exact ⟨pattern, rfl, rfl⟩

/-- Which characters there are has no part in it. -/
theorem fallsInto_map {f : α → β} (hf : Function.Injective f) (hne : star ≠ one) :
    FallsInto (f star) (f one) (pattern.map f) (segment.map f) ↔ FallsInto star one pattern segment := by
  have hne' : f star ≠ f one := fun h => hne (hf h)
  induction pattern generalizing segment with
  | nil => simp [fallsInto_nil]
  | cons x pattern ih =>
    by_cases hstar : x = star
    · subst hstar
      rw [List.map_cons, fallsInto_star, fallsInto_star]
      constructor
      · rintro ⟨_, _, hs, h⟩
        obtain ⟨pre, rest, rfl, rfl, rfl⟩ := List.map_eq_append_iff.mp hs
        exact ⟨pre, rest, rfl, ih.mp h⟩
      · rintro ⟨pre, rest, rfl, h⟩
        exact ⟨_, _, List.map_append, ih.mpr h⟩
    · have hstar' : f x ≠ f star := fun h => hstar (hf h)
      by_cases hone : x = one
      · subst hone
        rw [List.map_cons, fallsInto_one hne, fallsInto_one hne']
        cases segment with
        | nil => simp
        | cons y rest => simp [ih]
      · have hone' : f x ≠ f one := fun h => hone (hf h)
        rw [List.map_cons, fallsInto_same hstar hone, fallsInto_same hstar' hone']
        cases segment with
        | nil => simp
        | cons y rest => simp [ih, hf.eq_iff]

end

theorem globs_iff_fallsInto {pattern segment : List Char} :
    globs pattern segment = true ↔ FallsInto '*' '?' pattern segment := by
  have hne : '*' ≠ '?' := by decide
  induction pattern generalizing segment with
  | nil => simp [globs, fallsInto_nil]
  | cons c pattern ih =>
    by_cases hstar : c = '*'
    · subst hstar
      simp only [globs_star, fallsInto_star, ih]
    · by_cases hone : c = '?'
      · subst hone
        rw [fallsInto_one hne]
        cases segment with
        | nil => simp [globs]
        | cons y rest => simp [globs, ih]
      · rw [fallsInto_same hstar hone]
        cases segment with
        | nil => simp [globs, hstar]
        | cons y rest => simp [globs, hstar, hone, ih, @eq_comm _ c y]

namespace Expression

def itemOf (x : CodePoint) : Item :=
  if x = star then .many .any else if x = one then .once .any else .once (.just x)

def marksOf (x : CodePoint) : List Mark :=
  if x = star then [.atom .any, .star] else if x = one then [.atom .any] else [.atom (.just x)]

section

variable {x : CodePoint} {pattern segment rest : Text}

theorem marks?_plain (h : x ∉ marked) : marks? (x :: rest) = (marks? rest).map (.atom (.just x) :: ·) := by
  have hmarked : ∀ y ∈ marked, x ≠ y := fun y hy he => h (he ▸ hy)
  have hopening : isOpening x = false := by
    have hsub : ∀ y ∈ Text.ofString "()[\x7b?+|^$\\", y ∈ marked := by decide
    exact decide_eq_false fun hx => h (hsub x hx)
  have hback : x ≠ .scalar '\\' := hmarked _ (by decide)
  have hmark : plainMark? x = some (.atom (.just x)) := by
    rw [plainMark?, if_neg (hmarked _ (by decide)), if_neg (hmarked _ (by decide)), hopening]
    rfl
  rw [marks?.eq_3 _ _ fun _ _ he _ => hback he, hmark]
  rfl

/-- A character that is written to stand for itself is read so. -/
theorem marks?_escape (x : CodePoint) (rest : Text) :
    marks? (escape x ++ rest) = (marks? rest).map (.atom (.just x) :: ·) := by
  unfold escape
  split
  · rename_i hx
    have hnamed : ∀ y ∈ marked, isNamed y = false := by decide
    simp only [List.cons_append, List.nil_append, marks?, hnamed x hx]
    rfl
  · rename_i hx
    exact marks?_plain hx

theorem marks?_written (pattern : Text) : marks? (written pattern) = some (pattern.flatMap marksOf) := by
  induction pattern with
  | nil => rfl
  | cons x pattern ih =>
    have hcons : written (x :: pattern) = (if x = star then Text.ofString ".*"
        else if x = one then Text.ofString "." else escape x) ++ written pattern := List.flatMap_cons
    have hany : plainMark? (.scalar '.') = some (.atom .any) := by decide
    have hstar : plainMark? (.scalar '*') = some .star := by decide
    rw [hcons, List.flatMap_cons, marksOf]
    split
    · simp [Text.ofString, Text.ofChars, marks?, hany, hstar, ih]
    · split
      · simp [Text.ofString, Text.ofChars, marks?, hany, ih]
      · rw [marks?_escape, ih]
        rfl

theorem items?_atom {a : Atom} {marks : List Mark} (h : marks.head? ≠ some .star) :
    items? (.atom a :: marks) = (items? marks).map (.once a :: ·) := by
  cases marks with
  | nil => rfl
  | cons mark marks =>
    cases mark with
    | atom b => rfl
    | star => exact absurd rfl h

theorem head?_marks (pattern : Text) : (pattern.flatMap marksOf).head? ≠ some .star := by
  cases pattern with
  | nil => simp
  | cons x pattern =>
    rw [List.flatMap_cons, marksOf]
    split_ifs <;> simp

theorem items?_marks (pattern : Text) :
    items? (pattern.flatMap marksOf) = some (pattern.map itemOf) := by
  induction pattern with
  | nil => rfl
  | cons x pattern ih =>
    rw [List.flatMap_cons, List.map_cons, marksOf, itemOf]
    split_ifs
    · simp [items?, ih]
    · simp [items?_atom (head?_marks pattern), ih]
    · simp [items?_atom (head?_marks pattern), ih]

/-- Every pattern is written as an expression that is read as its characters are meant. -/
theorem read?_written (pattern : Text) : read? (written pattern) = some (pattern.map itemOf) := by
  rw [read?, marks?_written, Option.bind_some, items?_marks]

theorem takes_iff {a : Atom} {next : Text → Bool} :
    takes a next segment = true ↔
      ∃ taken rest, segment = taken ++ rest ∧ (∀ x ∈ taken, a.accepts x = true) ∧ next rest = true := by
  induction segment with
  | nil => simp [takes]
  | cons x segment ih =>
    simp only [takes, Bool.or_eq_true, Bool.and_eq_true, ih]
    constructor
    · rintro (⟨hx, taken, rest, rfl, htaken, hrest⟩ | hnext)
      · exact ⟨x :: taken, rest, rfl, List.forall_mem_cons.mpr ⟨hx, htaken⟩, hrest⟩
      · exact ⟨[], x :: segment, rfl, nofun, hnext⟩
    · rintro ⟨_ | ⟨y, taken⟩, rest, hs, htaken, hrest⟩
      · exact Or.inr (by simpa [hs] using hrest)
      · obtain ⟨rfl, rfl⟩ := List.cons.inj hs
        obtain ⟨hx, htaken⟩ := List.forall_mem_cons.mp htaken
        exact Or.inl ⟨hx, taken, rest, rfl, htaken, hrest⟩

theorem fits_iff_fallsInto :
    fits (pattern.map itemOf) segment = true ↔ FallsInto star one pattern segment := by
  have hne : star ≠ one := by decide
  induction pattern generalizing segment with
  | nil => simp [fits, fallsInto_nil]
  | cons x pattern ih =>
    rw [List.map_cons, itemOf]
    by_cases hstar : x = star
    · subst hstar
      simp [fits, takes_iff, Atom.accepts, fallsInto_star, ih]
    · by_cases hone : x = one
      · subst hone
        rw [if_neg hne.symm, if_pos rfl, fallsInto_one hne]
        cases segment with
        | nil => simp [fits]
        | cons y rest => simp [fits, Atom.accepts, ih]
      · rw [if_neg hstar, if_neg hone, fallsInto_same hstar hone]
        cases segment with
        | nil => simp [fits]
        | cons y rest => simp [fits, Atom.accepts, ih, @eq_comm _ x y]

theorem matchesWhole_iff : matchesWhole pattern segment = true ↔ FallsInto star one pattern segment := by
  rw [matchesWhole, read?_written, Option.any_some, fits_iff_fallsInto]

end

end Expression

/-- Comparing a pattern without wildcards is matching its expression. -/
theorem matchesName_eq_matchesWhole (pattern segment : Text) :
    matchesName pattern segment = Expression.matchesWhole pattern segment := by
  unfold matchesName
  split
  · rfl
  · rename_i hplain
    have hplain' : ∀ x ∈ pattern, x ≠ star ∧ x ≠ one := by simpa using hplain
    rw [Bool.eq_iff_iff, Expression.matchesWhole_iff, fallsInto_iff_eq hplain', decide_eq_true_iff]

theorem matchesSegment_eq_globs (pattern segment : List Char) :
    matchesSegment pattern segment = globs pattern segment := by
  unfold matchesSegment
  split
  · rfl
  · rename_i hplain
    have hplain' : ∀ c ∈ pattern, c ≠ '*' ∧ c ≠ '?' := by simpa [hasWildcard] using hplain
    rw [Bool.eq_iff_iff, globs_iff_fallsInto, fallsInto_iff_eq hplain', decide_eq_true_iff]

theorem matchesName_iff {pattern segment : Text} :
    matchesName pattern segment = true ↔ FallsInto star one pattern segment := by
  rw [matchesName_eq_matchesWhole, Expression.matchesWhole_iff]

theorem matchesSegment_iff {pattern segment : List Char} :
    matchesSegment pattern segment = true ↔ FallsInto '*' '?' pattern segment := by
  rw [matchesSegment_eq_globs, globs_iff_fallsInto]

theorem matchesName_ofChars (pattern segment : List Char) :
    matchesName (Text.ofChars pattern) (Text.ofChars segment) = matchesSegment pattern segment := by
  have hscalar : Function.Injective CodePoint.scalar := fun _ _ h => CodePoint.scalar.inj h
  rw [Bool.eq_iff_iff, matchesName_iff, matchesSegment_iff]
  exact fallsInto_map hscalar (by decide)

/-- A pattern matches a segment just when the segment falls into consecutive pieces, one for each character
of the pattern: any piece for a star, one code point for a question mark, and every other character itself.
The expression that a pattern is written as can always be read and matches the same segments, whether the
pattern has wildcards or is compared as it stands. -/
theorem matches_iff_fallsInto :
    (∀ pattern segment : List Char,
      (matchesSegment pattern segment = true ↔ FallsInto '*' '?' pattern segment) ∧
        matchesSegment pattern segment = matchesName (Text.ofChars pattern) (Text.ofChars segment)) ∧
    ∀ pattern segment : Text,
      (∃ items, Expression.read? (Expression.written pattern) = some items) ∧
        (matchesName pattern segment = true ↔ FallsInto star one pattern segment) ∧
        matchesName pattern segment = Expression.matchesWhole pattern segment := by
  refine ⟨fun pattern segment => ⟨matchesSegment_iff, (matchesName_ofChars pattern segment).symm⟩, ?_⟩
  intro pattern segment
  exact ⟨⟨_, Expression.read?_written pattern⟩, matchesName_iff, matchesName_eq_matchesWhole pattern segment⟩

example : Expression.written (Text.ofString "v?.*") = Text.ofString "v.\\..*" := by decide

example : matchesSegment "v?.*".toList "v\n.json".toList = true := by decide

end ApiLint.Glob
