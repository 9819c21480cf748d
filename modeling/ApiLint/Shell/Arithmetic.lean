import ApiLint.Shell.Script

/-! Whole numbers in scripts. -/

namespace ApiLint.Shell

/-- The number that a text of digits with an optional sign stands for. -/
def int? (cs : Bytes) : Option Int :=
  let digits := match cs with
    | '-' :: rest => rest
    | '+' :: rest => rest
    | cs => cs
  if digits.isEmpty || !digits.all Char.isDigit then none
  else
    let n : Nat := digits.foldl (fun n d => 10 * n + (d.toNat - 48)) 0
    some (if cs.head? = some '-' then -(n : Int) else n)

/-- The operators by how tightly they bind, the loosest first. -/
def operators : List (List String) :=
  [["||"], ["&&"], ["|"], ["^"], ["&"], ["==", "!="], ["<=", ">=", "<", ">"], ["<<", ">>"], ["+", "-"],
    ["*", "/", "%"]]

def truth (b : Bool) : Int := if b then 1 else 0

/-- What an operator gives; nothing when it divides by zero. -/
def apply (operator : String) (a b : Int) : Option Int :=
  match operator with
  | "||" => some (truth (a ≠ 0 || b ≠ 0))
  | "&&" => some (truth (a ≠ 0 && b ≠ 0))
  | "|" => some (Int.ofNat (a.toNat ||| b.toNat))
  | "^" => some (Int.ofNat (a.toNat ^^^ b.toNat))
  | "&" => some (Int.ofNat (a.toNat &&& b.toNat))
  | "==" => some (truth (a = b))
  | "!=" => some (truth (a ≠ b))
  | "<=" => some (truth (a ≤ b))
  | ">=" => some (truth (a ≥ b))
  | "<" => some (truth (a < b))
  | ">" => some (truth (a > b))
  | "<<" => some (a * Int.pow 2 b.toNat)
  | ">>" => some (a / Int.pow 2 b.toNat)
  | "+" => some (a + b)
  | "-" => some (a - b)
  | "*" => some (a * b)
  | "/" => if b = 0 then none else some (a.tdiv b)
  | "%" => if b = 0 then none else some (a.tmod b)
  | _ => none

def skipBlanks (cs : Bytes) : Bytes := cs.dropWhile fun c => c = ' ' || c = '\t' || c = '\n'

def operatorAt? (level : List String) (cs : Bytes) : Option (String × Bytes) :=
  level.findSome? fun o =>
    if o.toList.isPrefixOf cs then
      let behind := cs.drop o.length
      let longer := match o, behind with
        | "<", c :: _ => c = '<' || c = '='
        | ">", c :: _ => c = '>' || c = '='
        | "|", c :: _ => c = '|'
        | "&", c :: _ => c = '&'
        | _, _ => false
      if longer then none else some (o, behind)
    else none

/-- The value of an expression at the given levels, and what stands behind it. -/
def value (lookup : Bytes → Bytes) :
    Nat → List (List String) → Option Int → Bytes → Option (Int × Bytes)
  | 0, _, _, _ => none
  | fuel + 1, level :: levels, some left, cs =>
    match operatorAt? level (skipBlanks cs) with
    | some (operator, behind) => do
      let (right, behind) ← value lookup fuel levels none behind
      let result ← apply operator left right
      value lookup fuel (level :: levels) (some result) behind
    | none => some (left, cs)
  | fuel + 1, level :: levels, none, cs => do
    let (left, behind) ← value lookup fuel levels none cs
    value lookup fuel (level :: levels) (some left) behind
  | fuel + 1, [], _, cs =>
    match skipBlanks cs with
    | '(' :: rest => do
      let (n, behind) ← value lookup fuel operators none rest
      match skipBlanks behind with
      | ')' :: behind => some (n, behind)
      | _ => none
    | '-' :: rest => (value lookup fuel [] none rest).map fun (n, behind) => (-n, behind)
    | '+' :: rest => value lookup fuel [] none rest
    | '!' :: rest => (value lookup fuel [] none rest).map fun (n, behind) => (truth (n = 0), behind)
    | cs =>
      let item := cs.takeWhile fun c => c.isAlphanum || c = '_'
      let behind := cs.drop item.length
      match item with
      | [] => none
      | c :: _ =>
        if c.isDigit then (int? item).map fun n => (n, behind)
        else
          let text := lookup item
          (if text.isEmpty then some 0 else int? text).map fun n => (n, behind)

/-- The value of a whole expression. -/
def evaluate (lookup : Bytes → Bytes) (cs : Bytes) : Option Int :=
  if (skipBlanks cs).isEmpty then some 0
  else
    match value lookup (20 * cs.length + 40) operators none cs with
    | some (n, behind) => if (skipBlanks behind).isEmpty then some n else none
    | none => none

end ApiLint.Shell
