import ApiLint.Value
import Mathlib.Tactic.Common

/-! Where faults come from: a chain of steps that may fail succeeds as a whole when each of them does, and a
value is written out unless something on the way through it is too long or lies too deep. -/

namespace ApiLint

section

variable {α β ε : Type} {r : Except ε α} {y : β}

theorem bind_eq_ok_iff {next : α → Except ε β} : r >>= next = .ok y ↔ ∃ x, r = .ok x ∧ next x = .ok y := by
  cases r <;> simp [bind, Except.bind]

theorem map_eq_ok_iff {f : α → β} : r.map f = .ok y ↔ ∃ x, r = .ok x ∧ f x = y := by
  cases r <;> simp [Except.map]

end

/-- The least number that is too long. -/
theorem isLong_pow : isLong (Nat.pow 10 longestInteger : Nat) = true :=
  decide_eq_true (Nat.le_of_eq (Int.natAbs_natCast _).symm)

theorem isLong_of_le {m n : Int} (hm : 0 ≤ m) (hle : m ≤ n) (h : isLong m = true) : isLong n = true := by
  have hlong := of_decide_eq_true h
  exact decide_eq_true (by omega)

/-- A value that is not written out within so many levels. -/
inductive Unwritable : Nat → Value → Prop where
  | tooDeep {v : Value} : Unwritable 0 v
  | longInteger {levels : Nat} {n : Int} :
      Nat.pow 10 longestInteger ≤ n.natAbs → Unwritable (levels + 1) (.int n)
  | item {levels : Nat} {items : List Value} {v : Value} :
      v ∈ items → Unwritable levels v → Unwritable (levels + 1) (.list items)
  | field {levels : Nat} {fields : Fields} {f : Text × Value} :
      f ∈ fields → Unwritable levels f.2 → Unwritable (levels + 1) (.table fields)

/-- Writing a value out gets too deep, and what comes before is written out. -/
inductive TooDeep : Nat → Value → Prop where
  | start {v : Value} : TooDeep 0 v
  | item {levels : Nat} {front back : List Value} {v : Value} :
      (∀ u ∈ front, ¬ Unwritable levels u) → TooDeep levels v →
        TooDeep (levels + 1) (.list (front ++ v :: back))
  | field {levels : Nat} {front back : Fields} {f : Text × Value} :
      (∀ g ∈ front, ¬ Unwritable levels g.2) → TooDeep levels f.2 →
        TooDeep (levels + 1) (.table (front ++ f :: back))

namespace Value

theorem itemsFault?_eq_findSome? (levels : Nat) (items : List Value) :
    itemsFault? levels items = items.findSome? (writingFault? levels) := by
  induction items with
  | nil => rfl
  | cons v vs ih =>
    rw [itemsFault?, ih, List.findSome?_cons]
    cases writingFault? levels v <;> rfl

theorem fieldsFault?_eq_findSome? (levels : Nat) (fields : Fields) :
    fieldsFault? levels fields = fields.findSome? fun f => writingFault? levels f.2 := by
  induction fields with
  | nil => rfl
  | cons f fields ih =>
    obtain ⟨k, v⟩ := f
    rw [fieldsFault?, ih, List.findSome?_cons]
    cases writingFault? levels v <;> rfl

theorem isSome_writingFault?_iff {levels : Nat} {v : Value} :
    (writingFault? levels v).isSome ↔ Unwritable levels v := by
  induction levels generalizing v with
  | zero =>
    have hfault : writingFault? 0 v = some .tooDeep := by cases v <;> rfl
    exact iff_of_true (by rw [hfault]; rfl) .tooDeep
  | succ levels ih =>
    cases v with
    | int n =>
      rw [writingFault?]
      split
      · rename_i h
        exact iff_of_true rfl (.longInteger (of_decide_eq_true h))
      · rename_i h
        refine iff_of_false nofun ?_
        rintro (_ | hlong)
        exact h (decide_eq_true hlong)
    | list items =>
      rw [writingFault?, itemsFault?_eq_findSome?, List.isSome_findSome?, List.any_eq_true]
      constructor
      · rintro ⟨u, hu, hfault⟩
        exact .item hu (ih.mp hfault)
      · rintro (_ | _ | ⟨hu, hunwritable⟩)
        exact ⟨_, hu, ih.mpr hunwritable⟩
    | table fields =>
      rw [writingFault?, fieldsFault?_eq_findSome?, List.isSome_findSome?, List.any_eq_true]
      constructor
      · rintro ⟨f, hf, hfault⟩
        exact .field hf (ih.mp hfault)
      · rintro (_ | _ | _ | ⟨hf, hunwritable⟩)
        exact ⟨_, hf, ih.mpr hunwritable⟩
    | _ => exact iff_of_false nofun nofun

theorem writingFault?_eq_none_iff {levels : Nat} {v : Value} :
    writingFault? levels v = none ↔ ¬ Unwritable levels v := by
  rw [← isSome_writingFault?_iff, Option.not_isSome_iff_eq_none]

theorem writingFault?_eq_tooDeep_iff {levels : Nat} {v : Value} :
    writingFault? levels v = some .tooDeep ↔ TooDeep levels v := by
  induction levels generalizing v with
  | zero =>
    have hfault : writingFault? 0 v = some .tooDeep := by cases v <;> rfl
    exact iff_of_true hfault .start
  | succ levels ih =>
    cases v with
    | int n =>
      refine iff_of_false (fun h => ?_) nofun
      rw [writingFault?] at h
      split at h <;> cases h
    | list items =>
      rw [writingFault?, itemsFault?_eq_findSome?, List.findSome?_eq_some_iff]
      simp only [writingFault?_eq_none_iff]
      constructor
      · rintro ⟨front, v, back, rfl, hdeep, hfront⟩
        exact .item hfront (ih.mp hdeep)
      · rintro (_ | ⟨hfront, hdeep⟩)
        exact ⟨_, _, _, rfl, ih.mpr hdeep, hfront⟩
    | table fields =>
      rw [writingFault?, fieldsFault?_eq_findSome?, List.findSome?_eq_some_iff]
      simp only [writingFault?_eq_none_iff]
      constructor
      · rintro ⟨front, f, back, rfl, hdeep, hfront⟩
        exact .field hfront (ih.mp hdeep)
      · rintro (_ | _ | ⟨hfront, hdeep⟩)
        exact ⟨_, _, _, rfl, ih.mpr hdeep, hfront⟩
    | _ => exact iff_of_false nofun nofun

end Value

end ApiLint
