import ApiLint.Literal.Expression
import ApiLint.Text.Lines

/-! Reading a literal. A text is first read plainly. When that fails, it is read once more, `deep`, to
look for the cause; where several could be named, the first one in the text is. -/

namespace ApiLint.Literal

/-- What reading from a token on comes to: a value and the tokens behind it, a stop at a token that does
not fit, or the cause why the whole text cannot be read. -/
inductive Reading (α : Type) where
  | read (value : α) (rest : List Placed)
  | stop (rest : List Placed)
  | fault (f : Fault)

/-- The cause that stands in the place of the next token. -/
def cutAt? : List Placed → Option Fault
  | ⟨.cut fault, _, _⟩ :: _ => some fault
  | _ => none

namespace Reading

/-- Goes on behind a value. -/
def andThen {α β : Type} (r : Reading α) (f : α → List Placed → Reading β) : Reading β :=
  match r with
  | read value rest => f value rest
  | stop rest => .stop rest
  | fault f => .fault f

/-- A reading that stands after another attempt has come as far as `rest`. -/
def unlessCut {α : Type} (rest : List Placed) (r : Reading α) : Reading α :=
  match cutAt? rest with
  | some f => .fault f
  | none => r

/-- The cause that an attempt comes upon. -/
def fault? {α : Type} : Reading α → Option Fault
  | read _ rest | stop rest => cutAt? rest
  | fault f => some f

end Reading

/-- Words that are no names. -/
def keywords : List String :=
  ["False", "None", "True", "and", "as", "assert", "async", "await", "break", "class", "continue",
    "def", "del", "elif", "else", "except", "finally", "for", "from", "global", "if", "import", "in",
    "is", "lambda", "nonlocal", "not", "or", "pass", "raise", "return", "try", "while", "with", "yield"]

def isKeyword (cs : List Char) : Bool :=
  keywords.contains (String.ofList cs)

def isConstantName (cs : List Char) : Bool :=
  cs = "True".toList || cs = "False".toList || cs = "None".toList

def afterSign? (s : String) : List Placed → Option (List Placed)
  | ⟨.sign t, _, _⟩ :: rest => if s = t then some rest else none
  | _ => none

def afterWord? (s : String) : List Placed → Option (List Placed)
  | ⟨.word cs, _, _⟩ :: rest => if s = String.ofList cs then some rest else none
  | _ => none

/-- The tokens behind words that may stand at the beginning. -/
def pastWords (words : List String) : List Placed → List Placed
  | ⟨.word cs, p, q⟩ :: rest =>
    if words.contains (String.ofList cs) then rest else ⟨.word cs, p, q⟩ :: rest
  | ts => ts

def isSign (signs : List String) : List Placed → Bool
  | ⟨.sign s, _, _⟩ :: _ => signs.contains s
  | _ => false

/-- The name at the beginning and the tokens behind it. -/
def takeName? : List Placed → Option (List Char × List Placed)
  | ⟨.word cs, _, _⟩ :: rest => if isKeyword cs then none else some (cs, rest)
  | _ => none

/-- The quotations at the beginning and the tokens behind them. -/
def takeQuotations : List Placed → List Quotation × List Placed
  | ⟨.quotation q, _, _⟩ :: rest => (q :: (takeQuotations rest).1, (takeQuotations rest).2)
  | rest => ([], rest)

/-- The signs of each level of binding between two operands, the loosest level first. Two levels are
words. -/
def operatorSigns (level : Nat) : List String :=
  match level with
  | 3 => ["==", "!=", "<", "<=", ">", ">="]
  | 4 => ["|"]
  | 5 => ["^"]
  | 6 => ["&"]
  | 7 => ["<<", ">>"]
  | 8 => ["+", "-"]
  | 9 => ["*", "/", "//", "%", "@"]
  | _ => []

/-- The level that comparisons begin at, and that of the operands of a star. -/
def comparisonLevel : Nat := 3

def operandLevel : Nat := 4

/-- The level behind the last one that has operators. -/
def tightest : Nat := 10

def afterOperator? (level : Nat) (ts : List Placed) : Option (List Placed) :=
  if isSign (operatorSigns level) ts then some ts.tail
  else
    match level with
    | 0 => afterWord? "or" ts
    | 1 => afterWord? "and" ts
    | 3 =>
      match afterWord? "is" ts, afterWord? "not" ts with
      | some rest, _ => some ((afterWord? "not" rest).getD rest)
      | none, some rest => afterWord? "in" rest
      | none, none => afterWord? "in" ts
    | _ => none

/-- What two operands and an operator between them are read as. -/
def combine (level : Nat) (l r : Expression) : Expression :=
  match level with
  | 8 => .sum l r
  | 3 => .other "comparison"
  | _ => .other "expression"

/-- The brackets that are open behind the last token that was read. -/
def lastLevel (before after : List Placed) : Nat :=
  ((before.take (before.length - after.length)).getLast?.map Placed.level).getD 0

/-- The words that were statements once. -/
def isFormerStatement (cs : List Char) : Bool :=
  cs = "print".toList || cs = "exec".toList

/-- Whether two expressions side by side at the beginning are no sign of a missing comma. -/
def excusesComma : List Placed → Bool
  | ⟨.word cs, _, _⟩ :: rest =>
    cs = "match".toList || cs = "case".toList || cs = ['_'] ||
      (!isKeyword cs && match rest with
        | ⟨.quotation _, _, _⟩ :: _ => true
        | _ => false)
  | _ => false

/-- What the arguments of a call have had so far. -/
structure Passed where
  any : Bool
  keyword : Bool
  unpacking : Bool

mutual

/-- An expression with or without a condition. -/
def expression : Nat → Bool → List Placed → Reading Expression
  | 0, _, ts => .stop ts
  | n + 1, deep, ts =>
    let start : Reading Expression :=
      match afterWord? "lambda" ts with
      | some rest => .stop rest
      | none => chain n deep 0 ts
    start.andThen fun e rest =>
      match if deep then cause? n ts e rest else none with
      | some f => .fault f
      | none =>
        match afterWord? "if" rest with
        | none => .read e rest
        | some more =>
          match chain n deep 0 more with
          | .fault f => .fault f
          | .stop far => .unlessCut far (.read e rest)
          | .read _ far =>
            match afterWord? "else" far with
            | none => .unlessCut far (.read e rest)
            | some more =>
              match expression n deep more with
              | .read _ rest => .read (.other "conditional expression") rest
              | .stop far => .unlessCut far (.read e rest)
              | .fault f => .fault f

/-- The cause that is to be named where an expression `e` stands before `rest`. What is read plainly to
see whether a comma is missing is not read deeply any more. -/
def cause? : Nat → List Placed → Expression → List Placed → Option Fault
  | 0, _, _, _ => none
  | n + 1, ts, e, rest =>
    let former := (takeName? ts).any fun name => isFormerStatement name.1 && !isSign ["("] name.2
    let excused :=
      match e with
      | .name cs => isFormerStatement cs
      | _ => false
    let beside :=
      if excusesComma ts then none
      else
        match expression n false rest with
        | .read _ far =>
          (cutAt? far).or (if excused || lastLevel rest far = 0 then none else some .commaMissing)
        | other => other.fault?
    let condition :=
      match afterWord? "if" rest with
      | none => none
      | some more =>
        match chain n true 0 more with
        | .read _ far =>
          if (afterWord? "else" far).isSome || isSign [":"] far then none
          else (cutAt? far).or (some .elseMissing)
        | other => other.fault?
    let call :=
      match takeName? ts with
      | some (name, more) =>
        if !former && more.length ≠ rest.length then none
        else
          match chain n (excusesComma ts) 0 ((afterSign? "*" more).getD more) with
          | .read e far =>
            let others := (afterSign? "," far).bind fun more => (listed n true more).fault?
            (cause? n more e far).or (others.or (if former then some (.callMissing name) else none))
          | other => other.fault?
      | none => none
    beside.or (condition.or call)

/-- Expressions between commas, of which some may have a star. -/
def listed : Nat → Bool → List Placed → Reading Unit
  | 0, _, ts => .stop ts
  | n + 1, deep, ts =>
    let first :=
      match afterSign? "*" ts with
      | some rest => chain n deep operandLevel rest
      | none => expression n deep ts
    first.andThen fun _ rest =>
      match afterSign? "," rest with
      | none => .read () rest
      | some more => listed n deep more

/-- Operands of a level with the operators between them. -/
def chain : Nat → Bool → Nat → List Placed → Reading Expression
  | 0, _, _, ts => .stop ts
  | n + 1, deep, level, ts =>
    if level = 2 then
      match afterWord? "not" ts with
      | some rest => (chain n deep 2 rest).andThen fun _ rest => .read (.other "expression") rest
      | none => chain n deep comparisonLevel ts
    else if tightest ≤ level then factor n deep ts
    else (chain n deep (level + 1) ts).andThen (chainTail n deep level)

def chainTail : Nat → Bool → Nat → Expression → List Placed → Reading Expression
  | 0, _, _, _, ts => .stop ts
  | n + 1, deep, level, l, ts =>
    match afterOperator? level ts with
    | none => if level = comparisonLevel then .unlessCut (pastWords ["not"] ts) (.read l ts) else .read l ts
    | some rest =>
      match chain n deep (level + 1) rest with
      | .read r rest => chainTail n deep level (combine level l r) rest
      | .stop far => .unlessCut far (.read l ts)
      | .fault f => .fault f

/-- An operand with its sign, or a power. -/
def factor : Nat → Bool → List Placed → Reading Expression
  | 0, _, ts => .stop ts
  | n + 1, deep, ts =>
    if isSign ["+", "-"] ts then (factor n deep ts.tail).andThen fun e rest => .read (.signed e) rest
    else if isSign ["~"] ts then
      (factor n deep ts.tail).andThen fun _ rest => .read (.other "expression") rest
    else
      let operand :=
        match afterWord? "await" ts with
        | some rest =>
          ((atom n deep rest).andThen (primaryTail n deep)).andThen fun _ rest =>
            .read (Expression.other "await expression") rest
        | none => (atom n deep ts).andThen (primaryTail n deep)
      operand.andThen fun e rest =>
        match afterSign? "**" rest with
        | none => .read e rest
        | some more =>
          match factor n deep more with
          | .read _ rest => .read (.other "expression") rest
          | .stop far => .unlessCut far (.read e rest)
          | .fault f => .fault f

/-- What stands behind an operand and belongs to it: attributes and calls. The members of a set that
stands there by mistake are looked through for a cause. -/
def primaryTail : Nat → Bool → Expression → List Placed → Reading Expression
  | 0, _, _, ts => .stop ts
  | n + 1, deep, e, ts =>
    match afterSign? "." ts, afterSign? "(" ts with
    | some rest, _ =>
      match takeName? rest with
      | some (_, rest) => primaryTail n deep (.other "attribute") rest
      | none => .unlessCut rest (.read e ts)
    | none, some rest =>
      match arguments n deep ⟨false, false, false⟩ rest with
      | .read passed rest =>
        let called :=
          match e with
          | .name cs =>
            if cs = "set".toList && !passed.any then Expression.emptySet else .other "function call"
          | _ => .other "function call"
        primaryTail n deep called rest
      | .stop far => .unlessCut far (.read e ts)
      | .fault f => .fault f
    | none, none =>
      match if deep then afterSign? "\x7b" ts else none with
      | none => .read e ts
      | some members =>
        match (items n true "\x7d" [] members).fault? with
        | some f => .fault f
        | none => .read e ts

/-- The arguments of a call behind its opening bracket. -/
def arguments : Nat → Bool → Passed → List Placed → Reading Passed
  | 0, _, _, ts => .stop ts
  | n + 1, deep, passed, ts =>
    match afterSign? ")" ts with
    | some rest => .read passed rest
    | none =>
      let next (passed : Passed) (rest : List Placed) : Reading Passed :=
        match afterSign? "," rest, afterSign? ")" rest with
        | some more, _ => arguments n deep passed more
        | none, some rest => .read passed rest
        | none, none => .stop (pastWords ["for"] rest)
      match afterSign? "*" ts, afterSign? "**" ts with
      | some rest, _ =>
        match expression n deep rest with
        | .stop far => if deep then .unlessCut far (.fault .starMissing) else .stop far
        | other => other.andThen fun _ => next { passed with any := true }
      | none, some rest =>
        (expression n deep rest).andThen fun _ => next { passed with any := true, unpacking := true }
      | none, none =>
        match ts with
        | ⟨.word cs, _, _⟩ :: ⟨.sign "=", _, _⟩ :: rest =>
          if isConstantName cs then
            if deep then .fault (.keywordConstant cs) else .stop ts.tail
          else if isKeyword cs then .stop ts
          else (expression n deep rest).andThen fun _ => next { passed with any := true, keyword := true }
        | _ =>
          (named n deep false ts).andThen fun _ rest =>
            if isSign ["="] rest then if deep then .fault .keywordExpression else .stop rest
            else if passed.unpacking || passed.keyword then
              if deep then
                .fault (if passed.unpacking then .positionalAfterUnpacking else .positionalAfterKeyword)
              else .stop rest
            else next { passed with any := true } rest

/-- An expression to which a name may be given. In brackets an equals sign in its place is a cause. -/
def named : Nat → Bool → Bool → List Placed → Reading Expression
  | 0, _, _, ts => .stop ts
  | n + 1, deep, bracketed, ts =>
    match takeName? ts with
    | some (_, ⟨.sign ":=", _, _⟩ :: rest) =>
      (expression n deep rest).andThen fun _ rest => .read (.other "named expression") rest
    | _ => (expression n deep ts).andThen (namedTail n deep bracketed ts)

def namedTail : Nat → Bool → Bool → List Placed → Expression → List Placed → Reading Expression
  | 0, _, _, _, _, ts => .stop ts
  | n + 1, deep, bracketed, ts, e, rest =>
    if isSign [":="] rest then
      if deep && bracketed then
        (expression n true rest.tail).andThen fun _ far => .unlessCut far (.fault (.named e.kind))
      else .stop rest
    else
      match if deep && bracketed then afterSign? "=" rest else none with
      | none => .read e rest
      | some more =>
        match chain n true operandLevel ts, chain n true operandLevel more with
        | .read l between, .read _ far =>
          if between.length ≠ rest.length || isSign ["=", ":="] far then .unlessCut far (.read e rest)
          else
            match l with
            | .name _ => .unlessCut far (.fault .equality)
            | .tuple _ | .constant "True" | .constant "False" | .constant "None" =>
              .unlessCut far (.read e rest)
            | _ => .unlessCut far (.fault (.assigned l.kind))
        | _, other =>
          match other.fault? with
          | some f => .fault f
          | none => .read e rest

/-- One member of a tuple or a set: whether it has a star, and what it is. -/
def item : Nat → Bool → List Placed → Reading (Bool × Expression)
  | 0, _, ts => .stop ts
  | n + 1, deep, ts =>
    match afterSign? "*" ts with
    | some rest => (chain n deep operandLevel rest).andThen fun _ rest => .read (true, .other "starred") rest
    | none => (named n deep true ts).andThen fun e rest => .read (false, e) rest

/-- The first member of a tuple or a set, or one expression in brackets. -/
def firstItem : Nat → Bool → List Placed → Reading (Bool × Expression)
  | 0, _, ts => .stop ts
  | n + 1, deep, ts =>
    match item n deep ts with
    | .stop far => if deep && isSign ["*"] ts then .unlessCut far (.fault .starMissing) else .stop far
    | other => other

/-- The members behind a comma, up to the closing bracket. -/
def items : Nat → Bool → String → List Expression → List Placed → Reading (List Expression)
  | 0, _, _, _, ts => .stop ts
  | n + 1, deep, closing, before, ts =>
    match afterSign? closing ts with
    | some rest => .read before rest
    | none =>
      (item n deep ts).andThen fun e rest =>
        match afterSign? "," rest, afterSign? closing rest with
        | some more, _ => items n deep closing (before ++ [e.2]) more
        | none, some rest => .read (before ++ [e.2]) rest
        | none, none => .stop rest

/-- A tuple or one expression behind a round bracket. -/
def group : Nat → Bool → List Placed → Reading Expression
  | 0, _, ts => .stop ts
  | n + 1, deep, ts =>
    match afterSign? ")" ts, if deep then afterSign? "**" ts else none with
    | some rest, _ => .read (.tuple []) rest
    | none, some rest =>
      (expression n deep rest).andThen fun _ far =>
        if isSign [")"] far then .fault .doubleStarredGroup else .stop ts
    | none, none =>
      (firstItem n deep (pastWords ["yield"] ts)).andThen fun e rest =>
        match afterSign? "," rest, afterSign? ")" rest with
        | some more, _ =>
          (items n deep ")" [e.2] more).andThen fun members rest => .read (.tuple members) rest
        | none, some behind =>
          if !e.1 then .read e.2 behind else if deep then .fault .starredGroup else .stop rest
        | none, none => .stop (pastWords ["for"] rest)

/-- A set or a dictionary behind a curly bracket. -/
def braces : Nat → Bool → List Placed → Reading Expression
  | 0, _, ts => .stop ts
  | n + 1, deep, ts =>
    match afterSign? "\x7d" ts, afterSign? "**" ts, afterSign? "*" ts with
    | some rest, _, _ => .read (.dict []) rest
    | none, some _, _ => entries n deep [] ts
    | none, none, some _ =>
      match firstItem n deep ts with
      | .fault f => .fault f
      | _ => (items n deep "\x7d" [] ts).andThen fun members rest => .read (.set members) rest
    | none, none, none =>
      (expression n deep ts).andThen fun e rest =>
        match afterSign? ":" rest, takeName? ts with
        | some more, _ => entryValue n deep [] e more
        | none, some (_, ⟨.sign ":=", _, _⟩ :: _) =>
          (items n deep "\x7d" [] ts).andThen fun members rest => .read (.set members) rest
        | none, _ =>
          (namedTail n deep true ts e rest).andThen fun e rest =>
            match afterSign? "," rest, afterSign? "\x7d" rest with
            | some more, _ =>
              (items n deep "\x7d" [e] more).andThen fun members rest => .read (.set members) rest
            | none, some rest => .read (.set [e]) rest
            | none, none => .stop (pastWords ["for"] rest)

/-- The entries of a dictionary that are still to come, up to its closing bracket. -/
def entries : Nat → Bool → List (Expression × Expression) → List Placed → Reading Expression
  | 0, _, _, ts => .stop ts
  | n + 1, deep, before, ts =>
    match afterSign? "\x7d" ts, afterSign? "**" ts with
    | some rest, _ => .read (.dict before) rest
    | none, some rest =>
      (chain n deep operandLevel rest).andThen fun e rest =>
        entriesTail n deep (before ++ [(.unpacked, e)]) rest
    | none, none =>
      (expression n deep ts).andThen fun key rest =>
        match afterSign? ":" rest with
        | some more => entryValue n deep before key more
        | none => .unlessCut rest (.fault .colonMissing)

def entryValue : Nat → Bool → List (Expression × Expression) → Expression → List Placed →
    Reading Expression
  | 0, _, _, _, ts => .stop ts
  | n + 1, deep, before, key, ts =>
    match expression n deep ts with
    | .read e rest => entriesTail n deep (before ++ [(key, e)]) rest
    | .fault f => .fault f
    | .stop far =>
      if isSign ["\x7d", ","] ts then .fault .valueMissing
      else
        match afterSign? "*" ts with
        | none => .stop far
        | some rest => (chain n deep operandLevel rest).andThen fun _ far =>
            .unlessCut far (.fault .starredValue)

/-- What stands behind an entry. -/
def entriesTail : Nat → Bool → List (Expression × Expression) → List Placed → Reading Expression
  | 0, _, _, ts => .stop ts
  | n + 1, deep, before, ts =>
    match afterSign? "," ts, afterSign? "\x7d" ts with
    | some more, _ => entries n deep before more
    | none, some rest => .read (.dict before) rest
    | none, none => .stop ts

/-- An operand without what stands behind it. -/
def atom : Nat → Bool → List Placed → Reading Expression
  | 0, _, ts => .stop ts
  | n + 1, deep, ts =>
    match ts with
    | ⟨.word cs, _, _⟩ :: rest =>
      if isConstantName cs then .read (.constant (String.ofList cs)) rest
      else if isKeyword cs then .stop ts
      else .read (.name cs) rest
    | ⟨.number imaginary, _, _⟩ :: rest => .read (.number imaginary) rest
    | ⟨.quotation q, _, _⟩ :: rest =>
      let (more, rest) := takeQuotations rest
      match cutAt? rest, Quotation.join (q :: more) with
      | some f, _ => .fault f
      | none, .ok e => .read e rest
      | none, .error f => .fault f
    | ⟨.sign s, _, _⟩ :: rest =>
      if s = "..." then .read (.constant "ellipsis") rest
      else if s = "(" then group n deep rest
      else if s = "\x7b" then braces n deep rest
      else .stop ts
    | _ => .stop ts

end

/-- Expressions between commas without brackets, up to the end of the text. -/
def whole : Nat → Bool → List Expression → List Placed → Reading Expression
  | 0, _, _, ts => .stop ts
  | n + 1, deep, before, ts =>
    let ended (e : Expression) (rest : List Placed) : Reading Expression :=
      match rest.dropWhile fun t => t.token = .lineEnd with
      | [] => .read e []
      | far => .stop far
    (expression (n * tightest) deep ts).andThen fun e rest =>
      match afterSign? "," rest with
      | some more =>
        match whole n deep (before ++ [e]) more with
        | .stop far =>
          if far.length < more.length then .stop far else ended (.tuple (before ++ [e])) more
        | other => other
      | none => ended (if before.isEmpty then e else .tuple (before ++ [e])) rest

/-- The cause that is named where reading stops before `rest` and no other one is found: an indented
line, a bracket on a line before that is still open, or none in particular. -/
def plainCause (ts rest : List Placed) : Fault :=
  if rest.head?.any fun t => t.token = .indent then .indented
  else
    match ts.getLast? with
    | some ⟨.cut (.neverClosed opening), _, line⟩ =>
      if rest.head?.any fun t => line < t.line then .neverClosed opening else .unexpected
    | _ => .unexpected

def readExpression (cs : List Char) : Except Fault Expression :=
  if cs.contains '\x00' then .error .nullCharacter
  else do
    let ts ← tokens (Text.unifyNewlines cs)
    let fuel := 2 * ts.length + 10
    match whole fuel false [] ts with
    | .read e _ => .ok e
    | .fault f => .error f
    | .stop rest =>
      match cutAt? rest, whole fuel true [] ts with
      | some f, _ => .error f
      | none, other => .error (other.fault?.getD (plainCause ts rest))

/-- Why a text is not a literal, if it is none. -/
def fault? (cs : List Char) : Option Fault :=
  match readExpression cs with
  | .error f => some f
  | .ok e =>
    match e.value with
    | .error f => some f
    | .ok _ => none

end ApiLint.Literal
