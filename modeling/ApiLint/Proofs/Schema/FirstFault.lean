import ApiLint.Schema.Fault
import Mathlib.Data.List.Forall2

/-! The first fault of a check. Of several parts it is that of the first part that has one, and of the
items of a list that of the first item with a fault, under the index of that item. Checks of the same
parts that end in the same way, up to the first fault, do so together. -/

namespace ApiLint.Schema.Checked

section

variable {α β : Type}

def fault? : Checked α → Option Fault
  | .ok _ => none
  | .error faults => some faults.first

@[simp] theorem fault?_ok (x : α) : fault? (.ok x) = none := rfl

@[simp] theorem fault?_error (faults : Faults) :
    fault? (.error faults : Checked α) = some faults.first := rfl

theorem fault?_eq_none_iff {x : Checked α} : x.fault? = none ↔ ∃ y, x = .ok y := by
  cases x <;> simp

theorem fault?_eq_some_iff {x : Checked α} {fault : Fault} :
    x.fault? = some fault ↔ ∃ faults, x = .error faults ∧ faults.first = fault := by
  cases x <;> simp

@[simp] theorem fault?_under (step : Step) (x : Checked α) :
    fault? (under step x) = x.fault?.map (Fault.under step) := by
  cases x <;> rfl

@[simp] theorem fault?_apply (f : Checked (α → β)) (x : Checked α) :
    fault? (apply f x) = f.fault?.or x.fault? := by
  cases f <;> cases x <;> rfl

variable {check : α → Checked β} {xs : List α}

theorem itemsFrom_eq_ok_iff {first : Nat} {ys : List β} :
    itemsFrom check first xs = .ok ys ↔ List.Forall₂ (fun x y => check x = .ok y) xs ys := by
  induction xs generalizing first ys with
  | nil => cases ys <;> simp [itemsFrom]
  | cons x xs ih =>
    simp only [itemsFrom, apply_eq_ok, under_eq_ok, ih]
    constructor
    · rintro ⟨_, ys, ⟨_, y, ⟨⟩, hy, rfl⟩, hys, rfl⟩
      exact .cons hy hys
    · rintro (_ | ⟨hy, hys⟩)
      exact ⟨_, _, ⟨_, _, rfl, hy, rfl⟩, hys, rfl⟩

theorem fault?_itemsFrom_eq_some_iff {first : Nat} {fault : Fault} :
    (itemsFrom check first xs).fault? = some fault ↔
      ∃ before x after inner, xs = before ++ x :: after ∧ (∀ y ∈ before, (check y).fault? = none) ∧
        (check x).fault? = some inner ∧ fault = inner.under (.index (first + before.length)) := by
  induction xs generalizing first with
  | nil => simp [itemsFrom]
  | cons x xs ih =>
    simp only [itemsFrom, fault?_apply, fault?_ok, Option.none_or, fault?_under, Option.or_eq_some_iff,
      Option.map_eq_some_iff, Option.map_eq_none_iff, ih]
    constructor
    · rintro (⟨inner, hinner, rfl⟩ | ⟨hx, before, z, after, inner, rfl, hbefore, hinner, rfl⟩)
      · exact ⟨[], x, xs, inner, rfl, by simp, hinner, rfl⟩
      · refine ⟨x :: before, z, after, inner, rfl, ?_, hinner, ?_⟩
        · simpa using ⟨hx, hbefore⟩
        · rw [List.length_cons, Nat.add_right_comm, Nat.add_assoc]
    · rintro ⟨before, z, after, inner, hxs, hbefore, hinner, rfl⟩
      cases before with
      | nil =>
        cases hxs
        exact Or.inl ⟨inner, hinner, rfl⟩
      | cons y before =>
        cases hxs
        refine Or.inr ⟨hbefore x List.mem_cons_self, before, z, after, inner, rfl, ?_, hinner, ?_⟩
        · exact fun y hy => hbefore y (List.mem_cons_of_mem _ hy)
        · rw [List.length_cons, Nat.add_right_comm, Nat.add_assoc]

end

/-- The same value, or faults of which the first is the same. -/
inductive SameFirst {α : Type} : Checked α → Checked α → Prop where
  | ok (x : α) : SameFirst (.ok x) (.ok x)
  | error {faults faults' : Faults} : faults.first = faults'.first →
      SameFirst (.error faults) (.error faults')

namespace SameFirst

variable {α β : Type}

theorem refl (x : Checked α) : SameFirst x x := by
  cases x with
  | ok x => exact .ok x
  | error faults => exact .error rfl

theorem under {x x' : Checked α} (h : SameFirst x x') (step : Step) :
    SameFirst (Checked.under step x) (Checked.under step x') := by
  cases h with
  | ok x => exact .ok x
  | error hfirst => exact .error (congrArg (Fault.under step) hfirst)

theorem apply {f f' : Checked (α → β)} {x x' : Checked α} (hf : SameFirst f f') (hx : SameFirst x x') :
    SameFirst (Checked.apply f x) (Checked.apply f' x') := by
  cases hf with
  | ok f =>
    cases hx with
    | ok x => exact .ok (f x)
    | error hfirst => exact .error hfirst
  | error hfirst => cases hx <;> exact .error hfirst

/-- Behind a fault no part counts. -/
theorem apply_of_fault {f : Checked (α → β)} (h : f.fault? ≠ none) (x x' : Checked α) :
    SameFirst (Checked.apply f x) (Checked.apply f x') := by
  cases f with
  | ok f => exact absurd rfl h
  | error faults => cases x <;> cases x' <;> exact .error rfl

theorem itemsFrom {check : α → Checked β} {xs ys : List α}
    (h : List.Forall₂ (fun x y => SameFirst (check x) (check y)) xs ys) (first : Nat) :
    SameFirst (Checked.itemsFrom check first xs) (Checked.itemsFrom check first ys) := by
  induction h generalizing first with
  | nil => exact .ok []
  | cons hitem _ ih => exact apply (apply (.ok List.cons) (hitem.under _)) (ih (first + 1))

theorem mapError_first {ε : Type} {x x' : Checked α} (h : SameFirst x x') (f : Fault → ε) :
    x.mapError (fun faults => f faults.first) = x'.mapError fun faults => f faults.first := by
  cases h with
  | ok x => rfl
  | error hfirst => exact congrArg (fun fault => Except.error (f fault)) hfirst

end SameFirst

end ApiLint.Schema.Checked
