import ApiLint.Glob.Segment
import ApiLint.Text.Lines

/-! Patterns for whole paths. A path falls into segments at a separator, a pattern into tokens; the
token `**` spans any number of segments and every other token matches one. The matcher narrows a window
over tokens and segments from both ends, up to the first span and down to the last, and then puts each
group of tokens between two spans at the first place where it fits. It looks at tokens and segments by
their places; a result of `none` says that it looked where there is nothing. -/

namespace ApiLint.Glob

/-- The token that stands for any number of segments. -/
def span : List Char := ['*', '*']

/-- The pieces of a text between separators that are not empty. -/
def segments (sep : Char) (value : List Char) : List (List Char) :=
  (Text.splitAt sep value).filter fun piece => !piece.isEmpty

/-- Whether a text ends with the separator. -/
def closed (sep : Char) (value : List Char) : Bool :=
  value.getLast? = some sep

/-- Whether a text starts with the separator. -/
def opened (sep : Char) (value : List Char) : Bool :=
  value.head? = some sep

/-- Whether a pattern starts with a span and so matches paths with any beginning. -/
def startsWithSpan (pattern : List Char) : Bool :=
  span.isPrefixOf pattern

/-- What is still to be matched: the tokens from one place up to below another, and the segments
likewise. -/
structure Window where
  token : Nat
  tokenEnd : Nat
  seg : Nat
  segEnd : Nat
  deriving DecidableEq, Repr

/-- How a pass over tokens ends: where a token matches nothing, or with what is still to be matched. -/
inductive Passed where
  | mismatch
  | left (w : Window)
  deriving DecidableEq, Repr

/-- The elements from one place up to below another. -/
def between (xs : Array (List Char)) (start stop : Nat) : List (List Char) :=
  (xs.extract start stop).toList

section

variable (tokens segs : Array (List Char))

/-- Matches the tokens at the front, up to a span, each with the segment at the front. -/
def passFront (w : Window) : Option Passed :=
  if w.token < w.tokenEnd ∧ w.seg < w.segEnd then do
    let token ← tokens[w.token]?
    if token = span then some (.left w)
    else do
      let seg ← segs[w.seg]?
      if matchesSegment token seg then passFront { w with token := w.token + 1, seg := w.seg + 1 }
      else some .mismatch
  else some (.left w)
termination_by w.tokenEnd - w.token

/-- Matches the tokens at the back, down to a span, each with the segment at the back. -/
def passBack (w : Window) : Option Passed :=
  if w.token < w.tokenEnd ∧ w.seg < w.segEnd then do
    let token ← tokens[w.tokenEnd - 1]?
    if token = span then some (.left w)
    else do
      let seg ← segs[w.segEnd - 1]?
      if matchesSegment token seg then
        passBack { w with tokenEnd := w.tokenEnd - 1, segEnd := w.segEnd - 1 }
      else some .mismatch
  else some (.left w)
termination_by w.tokenEnd - w.token

/-- Whether all tokens from one place up to below another are spans. -/
def onlySpans (start stop : Nat) : Option Bool :=
  if start < stop then do
    let token ← tokens[start]?
    if token = span then onlySpans (start + 1) stop else some false
  else some true
termination_by stop - start

/-- The first place of a span from one place up to below another; there has to be one. -/
def nextSpan (start stop : Nat) : Option Nat :=
  if start < stop then do
    let token ← tokens[start]?
    if token = span then some start else nextSpan (start + 1) stop
  else none
termination_by stop - start

/-- Whether each token of a group matches its segment from a place on. -/
def groupFits : List (List Char) → Nat → Option Bool
  | [], _ => some true
  | token :: group, place => do
    let seg ← segs[place]?
    if matchesSegment token seg then groupFits group (place + 1) else some false

/-- The first place, from one up to below another, where a group fits, if there is one. -/
def findGroup (group : List (List Char)) (start stop : Nat) : Option (Option Nat) :=
  if start + group.length ≤ stop then do
    let fits ← groupFits segs group start
    if fits then some (some start) else findGroup group (start + 1) stop
  else some none
termination_by stop + 1 - start

theorem nextSpan_bounds {start stop next : Nat} (h : nextSpan tokens start stop = some next) :
    start ≤ next ∧ next < stop := by
  fun_induction nextSpan tokens start stop with
  | case1 start hlt ih =>
    obtain ⟨token, _, h⟩ := Option.bind_eq_some_iff.mp h
    split at h
    · obtain rfl := Option.some.inj h
      exact ⟨Nat.le_refl _, hlt⟩
    · have hh := ih h
      omega
  | case2 => simp at h

/-- Puts the groups between spans, one after the other, where each fits first. -/
def passGroups (w : Window) : Option Passed :=
  if w.token + 1 ≠ w.tokenEnd ∧ w.seg < w.segEnd then
    match h : nextSpan tokens (w.token + 1) w.tokenEnd with
    | none => none
    | some next =>
      have := nextSpan_bounds tokens h
      if next = w.token + 1 then passGroups { w with token := next }
      else do
        let group := between tokens (w.token + 1) next
        match ← findGroup segs group w.seg w.segEnd with
        | none => some .mismatch
        | some found => passGroups { w with token := next, seg := found + group.length }
  else some (.left w)
termination_by w.tokenEnd - w.token

end

/-- The answer when the tokens at the front have taken all segments. A path that ends with the separator
has an empty segment more for a last token `*`. -/
def answerAtEnd (sep : Char) (pattern path : List Char) (tokens : Array (List Char)) (w : Window) :
    Option Bool :=
  if w.tokenEnd ≤ w.token then some (closed sep pattern = closed sep path)
  else do
    let token ← tokens[w.token]?
    if w.token + 1 = w.tokenEnd ∧ token = ['*'] ∧ closed sep path then some true
    else onlySpans tokens w.token w.tokenEnd

/-- The answer for tokens that start with a span and segments of which there is one at least. -/
def matchSpanned (tokens segs : Array (List Char)) (w : Window) : Option Bool := do
  match ← passBack tokens segs w with
  | .mismatch => some false
  | .left w =>
    if w.segEnd ≤ w.seg then onlySpans tokens w.token w.tokenEnd
    else
      match ← passGroups tokens segs w with
      | .mismatch => some false
      | .left w => onlySpans tokens w.token w.tokenEnd

def matchTokens (sep : Char) (pattern path : List Char) : Option Bool := do
  let tokens := (segments sep pattern).toArray
  let segs := (segments sep path).toArray
  match ← passFront tokens segs ⟨0, tokens.size, 0, segs.size⟩ with
  | .mismatch => some false
  | .left w =>
    if w.segEnd ≤ w.seg then answerAtEnd sep pattern path tokens w
    else if w.tokenEnd ≤ w.token then some false
    else matchSpanned tokens segs w

def matchPath (sep : Char) (pattern path : List Char) : Option Bool :=
  if opened sep path ≠ opened sep pattern && !startsWithSpan pattern then some false
  else matchTokens sep pattern path

def matchesPath (sep : Char) (pattern path : List Char) : Bool :=
  matchPath sep pattern path = some true

end ApiLint.Glob
