import ApiLint.Decimal.Basic

/-! The shortest decimal text of a double: the fewest digits that read back as the same double, and of
the candidates with that many digits the nearest. -/

namespace ApiLint

/-- How many decimal places the point of `n / m` stands to the right of its first digit, plus one:
the `k` with `10^(k-1) ≤ n / m < 10^k`. -/
def pointPlace (n m : Nat) : Int :=
  if m ≤ n then (digits (n / m)).length
  else
    let places := (digits (m / n)).length
    if m = n * Nat.pow 10 (places - 1) then 2 - places else 1 - places

/-- The decimals that read back as a double, as an interval of numbers in units of a quarter of the
double's own unit; its ends belong to it when the double's units are even. -/
structure RoundingInterval where
  low : Nat
  high : Nat
  closed : Bool

namespace Double

/-- Below a power of two the doubles lie twice as dense. -/
def interval (d : Double) : RoundingInterval where
  low := if d.units = Nat.pow 2 52 ∧ -1074 < d.power then 4 * d.units - 1 else 4 * d.units - 2
  high := 4 * d.units + 2
  closed := d.units % 2 = 0

/-- Whether `c * 10^step` reads back as the double. -/
def readsBack (d : Double) (c : Nat) (step : Int) : Bool :=
  let i := d.interval
  let quarter := d.power - 2
  -- both sides over the common unit 10^min(step,0) * 2^min(quarter,0)
  let left := c * Nat.pow 10 step.toNat * Nat.pow 2 (-quarter).toNat
  let scale := Nat.pow 10 (-step).toNat * Nat.pow 2 quarter.toNat
  if i.closed then i.low * scale ≤ left ∧ left ≤ i.high * scale
  else i.low * scale < left ∧ left < i.high * scale

/-- The nearest of the multiples of `10^step` beside the double that read back as it. -/
def onGrid (d : Double) (step : Int) : Option Nat :=
  let (n, m) := d.quotient
  let num := n * Nat.pow 10 (-step).toNat
  let den := m * Nat.pow 10 step.toNat
  let below := num / den
  let near := roundDiv num den
  let far := if near = below then below + 1 else below
  if d.readsBack near step then some near
  else if d.readsBack far step then some far
  else none

/-- The shortest digits of a double that is not zero, and the place of the point. -/
def shortest (d : Double) : Nat × Int :=
  let (n, m) := d.quotient
  let place := pointPlace n m
  let found := (List.range 17).findSome? fun i : Nat =>
    let step := place - (i + 1 : Nat)
    (d.onGrid step).map fun c => (c, step)
  found.getD (0, 0)

end Double

/-- How a number is laid out: exponents from `first` up to below `past` are written positionally. -/
structure NumberLayout where
  first : Int
  past : Int
  exponentDigits : Nat

/-- From 0.0001 up to below ten to the sixteenth a number is positional, and keeps one decimal place;
beyond, the exponent has a sign and two digits at least. -/
def NumberLayout.plain : NumberLayout := ⟨-4, 16, 2⟩

namespace NumberLayout

/-- Digits without trailing zeros, and the exponent of the first of them, laid out. -/
def render (layout : NumberLayout) (ds : List Char) (exponent : Int) : List Char :=
  if layout.first ≤ exponent ∧ exponent < layout.past then
    if exponent < 0 then
      ['0', '.'] ++ List.replicate (exponent.natAbs - 1) '0' ++ ds
    else
      let whole := exponent.toNat + 1
      let padded := ds ++ List.replicate (whole - ds.length) '0'
      let fraction := padded.drop whole
      padded.take whole ++ ['.'] ++ (if fraction.isEmpty then ['0'] else fraction)
  else
    let size := digits exponent.natAbs
    let padded := List.replicate (layout.exponentDigits - size.length) '0' ++ size
    let fraction := ds.drop 1
    ds.take 1 ++ (if fraction.isEmpty then [] else '.' :: fraction) ++
      ['e', if exponent < 0 then '-' else '+'] ++ padded

end NumberLayout

/-- The shortest text that reads back as a double. -/
def shortestText (x : Float) : String :=
  match Double.ofFloat? x with
  | none => if x.isNaN then "nan" else if x < 0 then "-inf" else "inf"
  | some d =>
    let sign := if d.negative then "-" else ""
    if d.units = 0 then sign ++ "0.0"
    else
      let (c, step) := d.shortest
      let all := digits c
      let kept := (all.reverse.dropWhile (· = '0')).reverse
      sign ++ String.ofList (NumberLayout.plain.render kept (step + all.length - 1))

end ApiLint
