/-! Text as it reaches the linter from outside: a sequence of code points in which half of a
surrogate pair may stand alone. `Text.scalars?` reads such a text back into plain characters and
fails exactly when a half is left over. -/

namespace ApiLint

/-- A code point: a scalar value, or half of a surrogate pair that stands alone. -/
inductive CodePoint where
  | scalar (c : Char)
  | half (offset : Fin 0x800)
  deriving DecidableEq, Repr

namespace CodePoint

/-- The number that Unicode gives to the code point. -/
def toNat : CodePoint → Nat
  | scalar c => c.toNat
  | half offset => 0xD800 + offset.val

/-- The code point with a given number; numbers past the last one stand for the null character. -/
def ofNat (n : Nat) : CodePoint :=
  if h : n - 0xD800 < 0x800 ∧ 0xD800 ≤ n then half ⟨n - 0xD800, h.1⟩ else scalar (Char.ofNat n)

def scalar? : CodePoint → Option Char
  | scalar c => some c
  | half _ => none

end CodePoint

/-- A sequence of code points. -/
abbrev Text := List CodePoint

namespace Text

/-- Plain characters as code points. -/
def ofChars (cs : List Char) : Text :=
  cs.map CodePoint.scalar

def ofString (s : String) : Text :=
  ofChars s.toList

/-- The characters of a text in which no half of a pair stands alone. -/
def scalars? : Text → Option (List Char)
  | [] => some []
  | .scalar c :: rest => (scalars? rest).map (c :: ·)
  | .half _ :: _ => none

def toString? (t : Text) : Option String :=
  t.scalars?.map String.ofList

@[simp] theorem scalars?_ofChars (cs : List Char) : (ofChars cs).scalars? = some cs := by
  induction cs with
  | nil => rfl
  | cons c cs ih => simpa [ofChars, scalars?] using ih

@[simp] theorem toString?_ofString (s : String) : (ofString s).toString? = some s := by
  simp [toString?, ofString]

theorem ofString_inj {s t : String} : ofString s = ofString t ↔ s = t := by
  refine ⟨fun h => ?_, congrArg ofString⟩
  simpa using congrArg toString? h

instance : Coe String Text := ⟨ofString⟩

end Text

end ApiLint
