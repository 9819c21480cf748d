import ApiLint.Decimal.Basic

/-! Dates and times of day, alone or together, as configuration files can hold them, with the two ways
in which messages show them: the plain form (`1979-05-27 07:32:00+00:00`) and the form inside a list. -/

namespace ApiLint

structure Date where
  year : Nat
  month : Nat
  day : Nat
  deriving DecidableEq, Repr

structure TimeOfDay where
  hour : Nat
  minute : Nat
  second : Nat
  microsecond : Nat
  deriving DecidableEq, Repr

/-- A day, with a time in it, with the distance of that time from the prime meridian in minutes. -/
structure Moment where
  date : Date
  time : TimeOfDay
  offset : Option Int
  deriving DecidableEq, Repr

/-- A number in base ten with zeros in front of it up to a width. -/
def padded (width n : Nat) : String :=
  let ds := digits n
  String.ofList (List.replicate (width - ds.length) '0' ++ ds)

namespace Date

def isLeap (year : Nat) : Bool :=
  year % 4 = 0 && (year % 100 ≠ 0 || year % 400 = 0)

def daysIn (year month : Nat) : Nat :=
  if month = 2 then if isLeap year then 29 else 28
  else if month = 4 ∨ month = 6 ∨ month = 9 ∨ month = 11 then 30
  else 31

/-- Years count from one, and a month has only its own days. -/
def valid (d : Date) : Bool :=
  1 ≤ d.year && 1 ≤ d.month && d.month ≤ 12 && 1 ≤ d.day && d.day ≤ daysIn d.year d.month

def plain (d : Date) : String :=
  padded 4 d.year ++ "-" ++ padded 2 d.month ++ "-" ++ padded 2 d.day

end Date

namespace TimeOfDay

def plain (t : TimeOfDay) : String :=
  let fraction := if t.microsecond = 0 then "" else "." ++ padded 6 t.microsecond
  padded 2 t.hour ++ ":" ++ padded 2 t.minute ++ ":" ++ padded 2 t.second ++ fraction

/-- The numbers of a time, without the seconds and microseconds that are zero at its end. -/
def parts (t : TimeOfDay) : List Nat :=
  if t.microsecond ≠ 0 then [t.hour, t.minute, t.second, t.microsecond]
  else if t.second ≠ 0 then [t.hour, t.minute, t.second]
  else [t.hour, t.minute]

end TimeOfDay

/-- Numbers with a comma and a space between neighbours. -/
def commaNumbers (ns : List Nat) : String :=
  ", ".intercalate (ns.map toString)

def Date.listed (d : Date) : String :=
  "datetime.date(" ++ commaNumbers [d.year, d.month, d.day] ++ ")"

def TimeOfDay.listed (t : TimeOfDay) : String :=
  "datetime.time(" ++ commaNumbers t.parts ++ ")"

namespace Moment

def plainOffset (minutes : Int) : String :=
  let sign := if minutes < 0 then "-" else "+"
  sign ++ padded 2 (minutes.natAbs / 60) ++ ":" ++ padded 2 (minutes.natAbs % 60)

def plain (m : Moment) : String :=
  m.date.plain ++ " " ++ m.time.plain ++ (m.offset.map plainOffset).getD ""

/-- A distance from the prime meridian; one to the west counts whole days back and seconds forward. -/
def listedOffset (minutes : Int) : String :=
  let distance :=
    if minutes < 0 then "days=-1, seconds=" ++ toString ((1440 - minutes.natAbs) * 60)
    else "seconds=" ++ toString (minutes.natAbs * 60)
  if minutes = 0 then "datetime.timezone.utc"
  else "datetime.timezone(datetime.timedelta(" ++ distance ++ "))"

def listed (m : Moment) : String :=
  let zone := (m.offset.map fun o => ", tzinfo=" ++ listedOffset o).getD ""
  "datetime.datetime(" ++ commaNumbers ([m.date.year, m.date.month, m.date.day] ++ m.time.parts) ++
    zone ++ ")"

end Moment

end ApiLint
