import ApiLint.Value

/-! How grave a finding is. A tool reports it as a small whole number; people read it under one of four
names, and machines as a level of report. -/

namespace ApiLint

inductive Severity where
  | error
  | warning
  | info
  | hint
  deriving DecidableEq, Repr

/-- The words that findings are shown with. -/
inductive DisplaySeverity where
  | error
  | warning
  | weakWarning
  | information
  deriving DecidableEq, Repr

namespace DisplaySeverity

def name : DisplaySeverity → String
  | error => "error"
  | warning => "warning"
  | weakWarning => "weak_warning"
  | information => "information"

/-- The colour that a finding is shown in. -/
def colour : DisplaySeverity → String
  | error => "red"
  | warning => "yellow"
  | weakWarning => "blue"
  | information => "cyan"

end DisplaySeverity

namespace Severity

def all : List Severity := [error, warning, info, hint]

def code : Severity → Nat
  | error => 0
  | warning => 1
  | info => 2
  | hint => 3

def name : Severity → String
  | error => "ERROR"
  | warning => "WARNING"
  | info => "INFO"
  | hint => "HINT"

def plainName : Severity → String
  | error => "error"
  | warning => "warning"
  | info => "info"
  | hint => "hint"

def ofCode? (n : Int) : Option Severity :=
  all.find? fun s => (s.code : Int) = n

/-- The severity that a tool reports; anything but one of the four numbers is `default`. -/
def ofValue (default : Severity) : Value → Severity
  | .int n => (ofCode? n).getD default
  | _ => default

/-- What an unknown severity counts as. -/
def fallback : Severity := info

def display : Severity → DisplaySeverity
  | error => .error
  | warning => .warning
  | info => .weakWarning
  | hint => .information

/-- The level of a finding in a report for machines. -/
def level : Severity → String
  | error => "error"
  | warning => "warning"
  | info => "note"
  | hint => "note"

@[simp] theorem ofCode?_code (s : Severity) : ofCode? s.code = some s := by
  cases s <;> rfl

end Severity

end ApiLint
