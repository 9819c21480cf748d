import ApiLint.Decimal.Shortest
import ApiLint.Moment
import ApiLint.Text.Quoted

/-! Values of data documents: what JSON and configuration files hold. A table keeps the order in which
its keys were first written, and `Fields.put` gives a key its latest value without moving it. A value can
be written out, unless a whole number in it is too long or its containers lie too deep in one another. -/

namespace ApiLint

inductive Value where
  | null
  | bool (b : Bool)
  | int (n : Int)
  | float (x : Float)
  | text (t : Text)
  | list (items : List Value)
  | table (fields : List (Text × Value))
  | date (d : Date)
  | time (t : TimeOfDay)
  | moment (m : Moment)

instance : Inhabited Value := ⟨.null⟩

abbrev Fields := List (Text × Value)

namespace Fields

def get? (key : Text) : Fields → Option Value
  | [] => none
  | (k, v) :: rest => if k = key then some v else get? key rest

/-- A table with a new value for a key, in the place of the old one or else at the end. -/
def put (key : Text) (value : Value) : Fields → Fields
  | [] => [(key, value)]
  | (k, v) :: rest => if k = key then (k, value) :: rest else (k, v) :: put key value rest

def erase (key : Text) : Fields → Fields
  | [] => []
  | (k, v) :: rest => if k = key then rest else (k, v) :: erase key rest

def ofPairs (pairs : List (Text × Value)) : Fields :=
  pairs.foldl (fun fields p => put p.1 p.2 fields) []

def keys (fields : Fields) : List Text :=
  fields.map Prod.fst

theorem get?_put (key k : Text) (v : Value) (fields : Fields) :
    get? k (put key v fields) = if k = key then some v else get? k fields := by
  induction fields with
  | nil => simp [put, get?, eq_comm]
  | cons f rest ih =>
    obtain ⟨k', v'⟩ := f
    by_cases h : k' = key
    · subst h
      by_cases hk : k' = k
      · subst hk; simp [put, get?]
      · simp [put, get?, hk, Ne.symm hk]
    · by_cases hk : k' = k
      · subst hk; simp [put, get?, h]
      · simp [put, get?, h, hk, ih]

theorem keys_put (key : Text) (v : Value) (fields : Fields) :
    keys (put key v fields) = if key ∈ keys fields then keys fields else keys fields ++ [key] := by
  induction fields with
  | nil => simp [put, keys]
  | cons f rest ih =>
    obtain ⟨k, w⟩ := f
    by_cases h : k = key
    · subst h; simp [put, keys]
    · have hk : key ≠ k := Ne.symm h
      simp only [keys, List.map_cons, put, h, if_false] at ih ⊢
      rw [ih]
      by_cases hm : key ∈ rest.map Prod.fst
      · simp [hm]
      · simp [hm, hk]

end Fields

namespace Value

def kindName : Value → String
  | null => "NoneType"
  | bool _ => "bool"
  | int _ => "int"
  | float _ => "float"
  | text _ => "str"
  | list _ => "list"
  | table _ => "dict"
  | date _ => "date"
  | time _ => "time"
  | moment _ => "datetime"

mutual

/-- A value as it stands inside a list or a table in a message. -/
def listed : Value → List Char
  | null => "None".toList
  | bool b => (if b then "True" else "False").toList
  | int n => (toString n).toList
  | float x => (shortestText x).toList
  | text t => Text.quoted t
  | list items => Text.bracketed '[' ']' (listedItems items)
  | table fields => Text.bracketed '\x7b' '\x7d' (listedFields fields)
  | date d => d.listed.toList
  | time t => t.listed.toList
  | moment m => m.listed.toList

def listedItems : List Value → List (List Char)
  | [] => []
  | v :: vs => listed v :: listedItems vs

def listedFields : List (Text × Value) → List (List Char)
  | [] => []
  | (k, v) :: fields => (Text.quoted k ++ [':', ' '] ++ listed v) :: listedFields fields

end

/-- A value as a message shows it: texts and moments plainly, all else as inside a list. -/
def shown : Value → List Char
  | text t => Text.shown t
  | date d => d.plain.toList
  | time t => t.plain.toList
  | moment m => m.plain.toList
  | v => listed v

def string (s : String) : Value :=
  text (Text.ofString s)

end Value

/-- Why a value is not written out. -/
inductive WritingFault where
  | longInteger
  | tooDeep
  deriving DecidableEq, Repr

def WritingFault.message : WritingFault → String
  | longInteger => unwrittenMessage
  | tooDeep => "maximum recursion depth exceeded while getting the repr of an object"

namespace Value

/-- The levels of a value that can be written out, its parts being a level below it. -/
def deepestShown : Nat := 986

mutual

/-- The first fault on the way through a value that may have so many levels. -/
def writingFault? : Nat → Value → Option WritingFault
  | 0, _ => some .tooDeep
  | _ + 1, .int n => if isLong n then some .longInteger else none
  | levels + 1, .list items => itemsFault? levels items
  | levels + 1, .table fields => fieldsFault? levels fields
  | _ + 1, _ => none

def itemsFault? (levels : Nat) : List Value → Option WritingFault
  | [] => none
  | v :: vs => (writingFault? levels v).or (itemsFault? levels vs)

def fieldsFault? (levels : Nat) : List (Text × Value) → Option WritingFault
  | [] => none
  | (_, v) :: fields => (writingFault? levels v).or (fieldsFault? levels fields)

end

end Value

end ApiLint
