import ApiLint.Decimal.Basic
import ApiLint.Text.Case
import ApiLint.Text.Lines
import ApiLint.Text.Word

/-! The names of styles in console markup. Two spellings of one style have the same normal name, so that
a closing tag finds the opening one; what names no style is only put into small letters. -/

namespace ApiLint.Style

/-- The attributes in their order, each with its short name if it has one. -/
def attributes : List (String × String) :=
  [("bold", "b"), ("dim", "d"), ("italic", "i"), ("underline", "u"), ("blink", "blink"),
    ("blink2", "blink2"), ("reverse", "r"), ("conceal", "c"), ("strike", "s"),
    ("underline2", "uu"), ("frame", "frame"), ("encircle", "encircle"), ("overline", "o")]

/-- The place of an attribute in the order. -/
def attributeIndex? (word : String) : Option Nat :=
  attributes.findIdx? fun a => a.1 = word || a.2 = word

def colours : List String := [
  "black", "red", "green", "yellow", "blue", "magenta", "cyan", "white", "bright_black",
  "bright_red", "bright_green", "bright_yellow", "bright_blue", "bright_magenta", "bright_cyan",
  "bright_white", "default", "navy_blue", "dark_blue", "blue3", "blue1", "dark_green",
  "deep_sky_blue4", "dodger_blue3", "dodger_blue2", "green4", "spring_green4", "turquoise4",
  "deep_sky_blue3", "dodger_blue1", "green3", "spring_green3", "dark_cyan", "light_sea_green",
  "deep_sky_blue2", "deep_sky_blue1", "spring_green2", "cyan3", "dark_turquoise", "turquoise2",
  "green1", "spring_green1", "medium_spring_green", "cyan2", "cyan1", "dark_red", "deep_pink4",
  "purple4", "purple3", "blue_violet", "orange4", "medium_purple4", "slate_blue3", "royal_blue1",
  "chartreuse4", "dark_sea_green4", "pale_turquoise4", "steel_blue", "steel_blue3",
  "cornflower_blue", "chartreuse3", "cadet_blue", "sky_blue3", "steel_blue1", "pale_green3",
  "sea_green3", "aquamarine3", "medium_turquoise", "chartreuse2", "sea_green2", "sea_green1",
  "aquamarine1", "dark_slate_gray2", "dark_magenta", "dark_violet", "purple", "light_pink4",
  "plum4", "medium_purple3", "slate_blue1", "yellow4", "wheat4", "light_slate_grey",
  "light_slate_gray", "medium_purple", "light_slate_blue", "dark_olive_green3", "dark_sea_green",
  "light_sky_blue3", "sky_blue2", "dark_sea_green3", "dark_slate_gray3", "sky_blue1", "chartreuse1",
  "light_green", "pale_green1", "dark_slate_gray1", "red3", "medium_violet_red", "magenta3",
  "dark_orange3", "indian_red", "hot_pink3", "medium_orchid3", "medium_orchid", "medium_purple2",
  "dark_goldenrod", "light_salmon3", "rosy_brown", "medium_purple1", "gold3", "dark_khaki",
  "navajo_white3", "light_steel_blue3", "light_steel_blue", "yellow3", "dark_sea_green2",
  "light_cyan3", "light_sky_blue1", "green_yellow", "dark_olive_green2", "dark_sea_green1",
  "pale_turquoise1", "deep_pink3", "magenta2", "hot_pink2", "orchid", "medium_orchid1", "orange3",
  "light_pink3", "pink3", "plum3", "violet", "light_goldenrod3", "tan", "misty_rose3", "thistle3",
  "plum2", "khaki3", "light_goldenrod2", "light_yellow3", "light_steel_blue1", "yellow2",
  "dark_olive_green1", "honeydew2", "light_cyan1", "red1", "deep_pink2", "deep_pink1", "magenta1",
  "orange_red1", "indian_red1", "hot_pink", "dark_orange", "salmon1", "light_coral",
  "pale_violet_red1", "orchid2", "orchid1", "orange1", "sandy_brown", "light_salmon1",
  "light_pink1", "pink1", "plum1", "gold1", "navajo_white1", "misty_rose1", "thistle1", "yellow1",
  "light_goldenrod1", "khaki1", "wheat1", "cornsilk1"]

/-- The shades of grey that have a name, by their number. -/
def greys : List Nat :=
  [0, 3, 7, 11, 15, 19, 23, 27, 30, 35, 37, 39, 42, 46, 50, 53, 54, 58, 62, 63, 66, 69, 70, 74, 78,
    82, 84, 85, 89, 93, 100]

def isGrey (word : String) : Bool :=
  greys.any fun n => word = "grey" ++ toString n || word = "gray" ++ toString n

/-- A number of one to three digits that fits a byte. -/
def isByte (cs : List Char) : Bool :=
  !cs.isEmpty && cs.all Char.isDigit && ofDigits cs < 256

/-- What stands between an opening text and a closing bracket at the end. -/
def enclosed? (opening : String) (cs : List Char) : Option (List Char) :=
  if opening.toList.isPrefixOf cs && cs.getLast? = some ')' then
    some (cs.drop opening.length).dropLast
  else none

/-- Why words spell no style. A word that names nothing leaves the name of the style as it is; a number
that cannot be read is a fault of the whole text. -/
inductive Fault where
  | unknown
  | emptyNumber
  | longNumber (digits : Nat)
  deriving DecidableEq, Repr

/-- The digits of the longest number that is read. -/
def mostDigits : Nat := 4300

def Fault.message : Fault → String
  | unknown => "unknown style"
  | emptyNumber => "invalid literal for int() with base 10: ''"
  | longNumber digits =>
    "Exceeds the limit (" ++ toString mostDigits ++ " digits) for integer string conversion: value has " ++
      toString digits ++ " digits; use sys.set_int_max_str_digits() to increase the limit"

/-- A part of a colour, in digits of any script. -/
def readComponent (cs : List Char) : Except Fault Nat :=
  if cs.isEmpty then .error .emptyNumber
  else if mostDigits < cs.length then .error (.longNumber cs.length)
  else .ok (cs.foldl (fun n c => 10 * n + (Text.digitValue? c).getD 0) 0)

/-- Reads three numbers between commas, which have to fit a byte. -/
def readComponents (cs : List Char) : Except Fault Unit :=
  if cs.isEmpty || !cs.all (fun c => c = ',' || (Text.digitValue? c).isSome) then .error .unknown
  else
    match Text.splitAt ',' cs with
    | [red, green, blue] => do
      let parts := [← readComponent red, ← readComponent green, ← readComponent blue]
      if parts.all (· < 256) then return else .error .unknown
    | _ => .error .unknown

/-- Reads a colour by its parts: six hexadecimal digits, a number, or three numbers. -/
def readNumberedColour (cs : List Char) : Except Fault Unit :=
  if cs.head? = some '#' && cs.length = 7 && (ofHexDigits? cs.tail).isSome then .ok ()
  else if (enclosed? "color(" cs).any (fun n => n.length ≤ 3 && isByte n) then .ok ()
  else
    match enclosed? "rgb(" cs with
    | some parts => readComponents parts
    | none => .error .unknown

def lower (s : String) : String :=
  String.ofList (Text.lower s.toList)

def readColour (word : String) : Except Fault String :=
  let name := lower word
  if colours.contains name || isGrey name then .ok name
  else (readNumberedColour name.toList).map fun _ => name

/-- A style that its words spell out. -/
structure Spelled where
  attributes : List (Nat × Bool)
  colour : Option String
  background : Option String
  link : Option String

/-- The style without words. -/
def Spelled.empty : Spelled := ⟨[], none, none, none⟩

def setAttribute (index : Nat) (value : Bool) (known : List (Nat × Bool)) : List (Nat × Bool) :=
  (index, value) :: known.filter fun a => a.1 ≠ index

/-- Reads a word that stands for itself: an attribute or a colour. -/
def readWord (s : Spelled) (word : String) : Except Fault Spelled :=
  match attributeIndex? (lower word) with
  | some i => .ok { s with attributes := setAttribute i true s.attributes }
  | none => (readColour word).map fun colour => { s with colour := some colour }

def readWords (s : Spelled) : List String → Except Fault Spelled
  | [] => .ok s
  | [word] => readWord s word
  | word :: next :: rest =>
    if lower word = "on" then
      match readColour next with
      | .ok colour => readWords { s with background := some colour } rest
      | .error fault => .error fault
    else if lower word = "not" then
      match attributeIndex? next with
      | some i => readWords { s with attributes := setAttribute i false s.attributes } rest
      | none => .error .unknown
    else if lower word = "link" then readWords { s with link := some next } rest
    else
      match readWord s word with
      | .ok s => readWords s (next :: rest)
      | .error fault => .error fault

def attributeWords (s : Spelled) : List String :=
  attributes.zipIdx.flatMap fun a =>
    match s.attributes.lookup a.2 with
    | some true => [a.1.1]
    | some false => ["not", a.1.1]
    | none => []

/-- The words of a style in their order. -/
def Spelled.name (s : Spelled) : String :=
  let words := attributeWords s ++ s.colour.toList ++
    (s.background.map fun c => ["on", c]).getD [] ++ (s.link.map fun l => ["link", l]).getD []
  if words.isEmpty then "none" else " ".intercalate words

/-- The words of a text between blanks. -/
def words (cs : List Char) : List String :=
  ((cs.splitBy fun a b => Text.isBlank a = Text.isBlank b).filter fun w =>
    !w.all Text.isBlank).map String.ofList

def read (cs : List Char) : Except Fault Spelled :=
  if words cs = ["none"] then .ok .empty else readWords .empty (words cs)

def normalName (cs : List Char) : Except Fault String :=
  match read cs with
  | .ok s => .ok s.name
  | .error .unknown => .ok (lower (String.ofList (Text.trim cs)))
  | .error fault => .error fault

/-- The fault that a text has as the spelling of a style. -/
def fault? (cs : List Char) : Option Fault :=
  match read cs with
  | .ok _ | .error .unknown => none
  | .error fault => some fault

end ApiLint.Style
