import ApiLint.Log

/-! Consoles, of which there is one for each wish and terminal, and the handlers of records. -/

namespace ApiLint.Console

/-- What a console is made for. -/
structure Wish where
  colour : Bool
  emoji : Bool
  terminal : Bool
  deriving DecidableEq, Repr

structure Device where
  number : Nat
  wish : Wish
  deriving DecidableEq, Repr

namespace Device

def coloured (c : Device) : Bool :=
  c.wish.colour && c.wish.terminal

/-- Lines are never broken to fit the console. -/
def softWrap (_ : Device) : Bool := true

end Device

/-- The consoles made so far. -/
abbrev Manager := List Device

/-- The console for a wish, made when there is none yet. -/
def Manager.get (m : Manager) (wish : Wish) : Device × Manager :=
  match m.find? fun c => c.wish = wish with
  | some c => (c, m)
  | none =>
    let c : Device := ⟨m.length, wish⟩
    (c, m ++ [c])

/-- Where the records of the program go, and from which level on. -/
structure Logging where
  level : Level
  handlers : Nat
  deriving DecidableEq, Repr

/-- A handler of this program takes the place of the ones before it. -/
def configureLogging (verbose : Bool) : Logging :=
  ⟨if verbose then .debug else .warning, 1⟩

end ApiLint.Console
