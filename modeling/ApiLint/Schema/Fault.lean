import ApiLint.Text.CodePoint
import ApiLint.Decimal.Basic

/-! Faults of data against a schema. A check of several parts goes on after a fault, so that its answer
is the value or every fault, in the order of the parts. -/

namespace ApiLint.Schema

/-- A step from a value to a part of it. -/
inductive Step where
  | key (name : Text)
  | index (n : Nat)
  deriving DecidableEq, Repr

def Step.shown : Step → List Char
  | key name => name.filterMap CodePoint.scalar?
  | index n => digits n

/-- The rule that a value breaks. -/
inductive Rule where
  | missing
  | object (name : String)
  | string
  | nonEmptyString
  | unicodeString
  | whole
  | wholeText
  | wholeFraction
  | wholeSize
  | finite
  | array
  | number
  | numberText
  | positive
  | path
  | unknownKey
  | unknownAttribute (name : String)
  deriving DecidableEq, Repr

namespace Rule

def name : Rule → String
  | missing => "missing"
  | object _ => "model_type"
  | string => "string_type"
  | nonEmptyString => "string_too_short"
  | unicodeString => "string_unicode"
  | whole => "int_type"
  | wholeText => "int_parsing"
  | wholeFraction => "int_from_float"
  | wholeSize => "int_parsing_size"
  | finite => "finite_number"
  | array => "tuple_type"
  | number => "float_type"
  | numberText => "float_parsing"
  | positive => "greater_than"
  | path => "path_type"
  | unknownKey => "extra_forbidden"
  | unknownAttribute _ => "no_such_attribute"

def message : Rule → String
  | missing => "Field required"
  | object name => "Input should be a valid dictionary or instance of " ++ name
  | string => "Input should be a valid string"
  | nonEmptyString => "String should have at least 1 character"
  | unicodeString => "Input should be a valid string, unable to parse raw data as a unicode string"
  | whole => "Input should be a valid integer"
  | wholeText => "Input should be a valid integer, unable to parse string as an integer"
  | wholeFraction => "Input should be a valid integer, got a number with a fractional part"
  | wholeSize => "Unable to parse input string as an integer, exceeded maximum size"
  | finite => "Input should be a finite number"
  | array => "Input should be a valid tuple"
  | number => "Input should be a valid number"
  | numberText => "Input should be a valid number, unable to parse string as a number"
  | positive => "Input should be greater than 0"
  | path => "Input is not a valid path for <class 'pathlib.Path'>"
  | unknownKey => "Extra inputs are not permitted"
  | unknownAttribute name => "Object has no attribute '" ++ name ++ "'"

end Rule

/-- A broken rule, and the steps to the value that breaks it. -/
structure Fault where
  steps : List Step
  rule : Rule
  deriving DecidableEq, Repr

namespace Fault

def under (step : Step) (f : Fault) : Fault :=
  { f with steps := step :: f.steps }

/-- The steps with points between them, and what is wrong. -/
def shown (f : Fault) : List Char :=
  List.intercalate ['.'] (f.steps.map Step.shown) ++ ": ".toList ++ f.rule.message.toList

end Fault

/-- The faults of a value, of which there is one at least. -/
structure Faults where
  first : Fault
  rest : List Fault
  deriving DecidableEq, Repr

namespace Faults

def one (steps : List Step) (rule : Rule) : Faults :=
  ⟨⟨steps, rule⟩, []⟩

def toList (fs : Faults) : List Fault :=
  fs.first :: fs.rest

def append (fs gs : Faults) : Faults :=
  ⟨fs.first, fs.rest ++ gs.toList⟩

def under (step : Step) (fs : Faults) : Faults :=
  ⟨fs.first.under step, fs.rest.map (Fault.under step)⟩

theorem toList_append (fs gs : Faults) : (fs.append gs).toList = fs.toList ++ gs.toList := rfl

end Faults

/-- A checked value, or every fault in it. -/
abbrev Checked := Except Faults

namespace Checked

def refused {α : Type} (rule : Rule) : Checked α :=
  .error (Faults.one [] rule)

def ofRule {α : Type} : Except Rule α → Checked α
  | .ok x => .ok x
  | .error rule => refused rule

def under {α : Type} (step : Step) : Checked α → Checked α
  | .ok x => .ok x
  | .error faults => .error (faults.under step)

/-- A value built from one more part; the faults of all parts are kept in order. -/
def apply {α β : Type} : Checked (α → β) → Checked α → Checked β
  | .ok f, .ok x => .ok (f x)
  | .ok _, .error faults => .error faults
  | .error faults, .ok _ => .error faults
  | .error faults, .error more => .error (faults.append more)

/-- The items of a list, each checked under its index from `first` on. -/
def itemsFrom {α β : Type} (check : α → Checked β) : Nat → List α → Checked (List β)
  | _, [] => .ok []
  | first, x :: xs =>
    apply (apply (.ok List.cons) (under (.index first) (check x))) (itemsFrom check (first + 1) xs)

def items {α β : Type} (check : α → Checked β) (xs : List α) : Checked (List β) :=
  itemsFrom check 0 xs

theorem apply_eq_ok {α β : Type} {f : Checked (α → β)} {x : Checked α} {y : β} :
    apply f x = .ok y ↔ ∃ g a, f = .ok g ∧ x = .ok a ∧ g a = y := by
  cases f <;> cases x <;> simp [apply]

theorem under_eq_ok {α : Type} {step : Step} {x : Checked α} {a : α} :
    under step x = .ok a ↔ x = .ok a := by
  cases x <;> simp [under]

end Checked

end ApiLint.Schema
