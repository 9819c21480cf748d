import ApiLint.Console.Line

/-! Messages to the user. Each has a tone, which a symbol in front of it and a colour can show; colours
reach only a terminal. -/

namespace ApiLint.Console

inductive Tone where
  | info
  | ok
  | warn
  | fail
  deriving DecidableEq, Repr

namespace Tone

def symbol : Tone → String
  | info => "ℹ️ "
  | ok => "✅ "
  | warn => "⚠️ "
  | fail => "❌ "

/-- The number of the colour in a terminal. -/
def colour : Tone → Nat
  | info => 36
  | ok => 32
  | warn => 33
  | fail => 31

end Tone

/-- What a message is printed with; without a wish for or against colour the terminal decides. -/
structure Look where
  emoji : Bool
  colour : Option Bool
  terminal : Bool
  deriving DecidableEq, Repr

def Look.coloured (look : Look) : Bool :=
  look.colour.getD look.terminal && look.terminal

/-- A piece of text between the codes that switch a colour on and off. -/
def colourPiece (colour : Nat) (piece : List Char) : List Char :=
  if piece.isEmpty then []
  else ("\x1b[" ++ toString colour ++ "m").toList ++ piece ++ "\x1b[0m".toList

/-- A line in a colour, which is switched anew behind every tab. -/
def colourLine (colour : Nat) (line : List Char) : List Char :=
  (tabParts line).flatMap (colourPiece colour)

def messageLines (tone : Tone) (look : Look) (message : String) : List (List Char) :=
  let whole := (if look.emoji then tone.symbol else "") ++ message
  let shown := Text.splitAt '\n' (printed whole.toList)
  if look.coloured then shown.map (colourLine tone.colour) else shown.map expandTabs

def ended (lines : List (List Char)) : List Char :=
  lines.flatMap fun line => line ++ ['\n']

end ApiLint.Console
