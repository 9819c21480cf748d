/-! The words of a command line, each of them a text that the system could decode. A word that begins with
a hyphen names options: one by its long name, whose value may follow an equals sign, or several by their
letters. A value that is not in the word itself is the next word, whatever it looks like. Two hyphens end
the options. -/

namespace ApiLint.CommandLine

/-- What options are about. -/
inductive Switch where
  | root
  | ruleset
  | timeout
  | format
  | force
  | verbose
  | noColour
  | noEmoji
  | help
  deriving DecidableEq, Repr

/-- How an option is written. -/
structure Form where
  switch : Switch
  name : String
  letter : Option Char
  takesValue : Bool
  deriving DecidableEq, Repr

/-- Why words cannot be understood. -/
inductive UsageFault where
  | noCommand
  | unknownCommand
  | unknownOption
  | missingValue
  | unexpectedValue
  | missingArgument
  | extraArgument
  | badValue
  | noSuchFile
  | isDirectory
  | unreadable
  deriving DecidableEq, Repr

abbrev Word := List Char

/-- What was given: options in their order, each with its value, and the other words. -/
structure Given where
  switches : List (Switch × Word)
  words : List Word
  deriving DecidableEq, Repr

namespace Given

def withWord (g : Given) (w : Word) : Given :=
  { g with words := w :: g.words }

def has (g : Given) (switch : Switch) : Bool :=
  g.switches.any fun s => s.1 = switch

/-- The value of an option; the last one counts. -/
def value? (g : Given) (switch : Switch) : Option Word :=
  (g.switches.reverse.find? fun s => s.1 = switch).map Prod.snd

end Given

/-- The options of a word of letters; the last of them may still need the next word as its value. -/
def letters (forms : List Form) : Word → Except UsageFault (List (Switch × Word) × Option Switch)
  | [] => .ok ([], none)
  | c :: rest =>
    match forms.find? fun f => f.letter = some c with
    | none => .error .unknownOption
    | some form =>
      if form.takesValue then
        if rest.isEmpty then .ok ([], some form.switch) else .ok ([(form.switch, rest)], none)
      else do
        let (more, waiting) ← letters forms rest
        return ((form.switch, []) :: more, waiting)

/-- The options that a word names, with the last one that still needs a value. -/
def wordOptions (forms : List Form) (w : Word) : Except UsageFault (List (Switch × Word) × Option Switch) :=
  let name := w.takeWhile (· ≠ '=')
  let value? := if name.length < w.length then some (w.drop (name.length + 1)) else none
  match forms.find? fun f => f.name.toList = name with
  | some form =>
    match form.takesValue, value? with
    | true, some value => .ok ([(form.switch, value)], none)
    | true, none => .ok ([], some form.switch)
    | false, some _ => .error .unexpectedValue
    | false, none => .ok ([(form.switch, [])], none)
  | none => if w.take 2 = ['-', '-'] then .error .unknownOption else letters forms (w.drop 1)

def isOption (w : Word) : Bool :=
  w.head? = some '-' && 1 < w.length

/-- What the words of a command give. -/
def readWords (forms : List Form) : List Word → Except UsageFault Given
  | [] => .ok ⟨[], []⟩
  | w :: rest =>
    if w = ['-', '-'] then .ok ⟨[], rest⟩
    else if isOption w then
      match wordOptions forms w with
      | .error fault => .error fault
      | .ok (switches, none) =>
        (readWords forms rest).map fun g => { g with switches := switches ++ g.switches }
      | .ok (switches, some waiting) =>
        match rest with
        | [] => .error .missingValue
        | value :: rest =>
          (readWords forms rest).map fun g =>
            { g with switches := switches ++ (waiting, value) :: g.switches }
    else (readWords forms rest).map fun g => g.withWord w

end ApiLint.CommandLine
