/-! Decimal numbers and the doubles they stand for. A decimal is a sign, a whole number of units and a
power of ten; `Decimal.toFloat` takes the nearest double. `Double` goes the other way and gives a
finite double as a whole number of units and a power of two; `roundDiv` is the nearest whole number to a
quotient, where a half goes to the even neighbour. -/

namespace ApiLint

/-- The digits of a number in base ten, the most significant first. -/
def digits (n : Nat) : List Char :=
  Nat.toDigits 10 n

theorem isDigit_of_mem_digits {n : Nat} : ∀ d ∈ digits n, d.isDigit :=
  fun _ => Nat.isDigit_of_mem_toDigits (by decide) (by decide)

theorem toList_toString_int (n : Int) :
    (toString n).toList = if 0 ≤ n then digits n.natAbs else '-' :: digits n.natAbs := by
  cases n with
  | ofNat m =>
    have hm : (toString (Int.ofNat m)).toList = (toString m).toList := rfl
    rw [hm, Nat.toString_eq_ofList_toDigits, String.toList_ofList,
      if_pos (show 0 ≤ Int.ofNat m from Int.natCast_nonneg m)]
    rfl
  | negSucc m =>
    have hm : (toString (Int.negSucc m)).toList = ("-" ++ toString (m + 1)).toList := rfl
    rw [hm, String.toList_append, Nat.toString_eq_ofList_toDigits, String.toList_ofList,
      String.toList_ofList, if_neg (by omega)]
    rfl

/-- The number that decimal digits spell; other characters count as the digit their code gives. -/
def ofDigits (cs : List Char) : Nat :=
  cs.foldl (fun n c => 10 * n + (c.toNat - '0'.toNat)) 0

/-- The digits that the text of a whole number may have. -/
def longestInteger : Nat := 4300

/-- Whether a whole number has more digits than that, so that it is not written. -/
def isLong (n : Int) : Bool := Nat.pow 10 longestInteger ≤ n.natAbs

def unwrittenMessage : String :=
  "Exceeds the limit (4300 digits) for integer string conversion; use " ++
    "sys.set_int_max_str_digits() to increase the limit"

/-- What is said about the text of a whole number with more digits than that. -/
def longIntegerMessage (count : Nat) : String :=
  "Exceeds the limit (4300 digits) for integer string conversion: value has " ++ toString count ++
    " digits; use sys.set_int_max_str_digits() to increase the limit"

/-- The value of a hexadecimal digit. -/
def hexDigit? (c : Char) : Option Nat :=
  if '0' ≤ c ∧ c ≤ '9' then some (c.toNat - '0'.toNat)
  else if 'a' ≤ c ∧ c ≤ 'f' then some (c.toNat - 'a'.toNat + 10)
  else if 'A' ≤ c ∧ c ≤ 'F' then some (c.toNat - 'A'.toNat + 10)
  else none

/-- The number that hexadecimal digits spell, if they all are digits. -/
def ofHexDigits? (cs : List Char) : Option Nat :=
  cs.foldl (fun n c => do return 16 * (← n) + (← hexDigit? c)) (some 0)

/-- The last `width` hexadecimal digits of a number, in lower case. -/
def hexDigits (width n : Nat) : List Char :=
  ((List.range width).map fun i => Nat.digitChar (n / Nat.pow 16 i % 16)).reverse

/-- The number `(-1)^negative * units * 10^power`. -/
structure Decimal where
  negative : Bool
  units : Nat
  power : Int
  deriving DecidableEq, Repr

namespace Decimal

/-- The decimal written as `whole.fraction` times a power of ten. -/
def ofParts (negative : Bool) (whole fraction : List Char) (power : Int) : Decimal :=
  ⟨negative, ofDigits (whole ++ fraction), power - fraction.length⟩

/-- No double lies beyond these powers of ten, so that a number of larger size is infinite and one of
smaller size is zero. -/
def largestPower : Int := 310

def smallestPower : Int := -330

/-- The nearest double. -/
def toFloat (d : Decimal) : Float :=
  let size := d.power + (digits d.units).length
  let magnitude : Float :=
    if d.units = 0 ∨ size < smallestPower then Float.ofScientific 0 false 0
    else if largestPower < size then Float.ofBits 0x7ff0000000000000
    else Float.ofScientific d.units (decide (d.power < 0)) d.power.natAbs
  if d.negative then -magnitude else magnitude

end Decimal

/-- The double nearest to a whole number. -/
def floatOfInt (n : Int) : Float :=
  Decimal.toFloat ⟨decide (n < 0), n.natAbs, 0⟩

/-- A finite double as `(-1)^negative * units * 2^power`. -/
structure Double where
  negative : Bool
  units : Nat
  power : Int
  deriving DecidableEq, Repr

namespace Double

/-- The parts of a finite double; `none` for an infinity or a number that is none. -/
def ofFloat? (x : Float) : Option Double :=
  let bits := x.toBits.toNat
  let fraction : Nat := bits % Nat.pow 2 52
  let exponent : Nat := bits / Nat.pow 2 52 % Nat.pow 2 11
  let negative : Bool := bits / Nat.pow 2 63 = 1
  if exponent = 2047 then none
  else if exponent = 0 then some ⟨negative, fraction, -1074⟩
  else some ⟨negative, Nat.pow 2 52 + fraction, (exponent : Int) - 1075⟩

/-- The magnitude as a quotient of whole numbers. -/
def quotient (d : Double) : Nat × Nat :=
  if 0 ≤ d.power then (d.units * Nat.pow 2 d.power.natAbs, 1)
  else (d.units, Nat.pow 2 d.power.natAbs)

/-- The whole number that a double is, if it is one. -/
def toInt? (d : Double) : Option Int :=
  let (n, m) := d.quotient
  if n % m = 0 then some (if d.negative then -Int.ofNat (n / m) else Int.ofNat (n / m)) else none

end Double

/-- The whole number nearest to `n / d`; of two equally near ones the even one. -/
def roundDiv (n d : Nat) : Nat :=
  let q := n / d
  let r := n % d
  if 2 * r < d then q else if d < 2 * r then q + 1 else if q % 2 = 0 then q else q + 1

/-- A double with one decimal place. -/
def tenths (x : Float) : String :=
  match Double.ofFloat? x with
  | none => if x.isNaN then "nan" else if x < 0 then "-inf" else "inf"
  | some d =>
    let (n, m) := d.quotient
    let t := roundDiv (10 * n) m
    let sign := if d.negative then "-" else ""
    sign ++ String.ofList (digits (t / 10)) ++ "." ++ String.ofList (digits (t % 10))

end ApiLint
