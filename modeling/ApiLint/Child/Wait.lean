/-! Waiting for a child process. A wait goes in rounds: the signal to cancel is asked, the clock is read,
and the child gets a slice of time to finish in, which is never longer than the time that remains. What
comes first ends the wait. Whatever it was, the child is reaped behind it, and killed before that when
it is still running. -/

namespace ApiLint.Child

/-- How a wait ends. -/
inductive Ending (ε ω : Type) where
  | finished (output : ω)
  | timedOut
  | cancelled
  | failed (fault : ε)
  deriving DecidableEq, Repr

/-- What a wait meets. Every answer may depend on the slices waited so far, the last one first. -/
structure Surroundings (τ ε ω : Type) where
  start : Except ε τ
  clock : List τ → Except ε τ
  cancel : Option (List τ → Except ε Bool)
  /-- What the child wrote, if it finishes in the next slice. -/
  communicate : List τ → τ → Option ω
  /-- Whether the child still runs when the wait has ended without its output. -/
  running : List τ → Bool
  /-- Whether something else holds the output of the child open for good when it is killed. -/
  held : List τ → Bool

/-- A wait that has ended: how, after which slices, and how often the clock and the signal were asked. -/
structure Waited (τ ε ω : Type) where
  ending : Ending ε ω
  slices : List τ
  readings : Nat
  checks : Nat
  deriving DecidableEq, Repr

section

variable {τ ε ω : Type} [Add τ] [Sub τ] [LT τ] [LE τ] [OfNat τ 0] [DecidableLT τ] [DecidableLE τ]

/-- Whether the signal to cancel is set; without a signal it never is. -/
def Surroundings.isCancelled (s : Surroundings τ ε ω) (slices : List τ) : Except ε Bool :=
  match s.cancel with
  | some signal => signal slices
  | none => .ok false

/-- How often the signal was asked in a number of rounds. -/
def Surroundings.asked (s : Surroundings τ ε ω) (rounds : Nat) : Nat :=
  if s.cancel.isSome then rounds else 0

/-- The length of the next slice. -/
def slice (interval remaining : τ) : τ :=
  if remaining < interval then remaining else interval

/-- The rounds of a wait behind the slices waited so far; `none` when more rounds are needed than
there are. -/
def rounds (s : Surroundings τ ε ω) (interval deadline : τ) : Nat → List τ → Option (Waited τ ε ω)
  | 0, _ => none
  | more + 1, slices =>
    let past := slices.length
    match s.isCancelled slices with
    | .error fault => some ⟨.failed fault, slices, past + 1, s.asked (past + 1)⟩
    | .ok true => some ⟨.cancelled, slices, past + 1, s.asked (past + 1)⟩
    | .ok false =>
      match s.clock slices with
      | .error fault => some ⟨.failed fault, slices, past + 2, s.asked (past + 1)⟩
      | .ok now =>
        let remaining := deadline - now
        if remaining ≤ 0 then some ⟨.timedOut, slices, past + 2, s.asked (past + 1)⟩
        else
          let next := slice interval remaining
          match s.communicate slices next with
          | some output => some ⟨.finished output, next :: slices, past + 2, s.asked (past + 1)⟩
          | none => rounds s interval deadline more (next :: slices)

/-- Waits for the child up to a timeout, in at most so many rounds. -/
def wait (s : Surroundings τ ε ω) (interval timeout : τ) (most : Nat) : Option (Waited τ ε ω) :=
  match s.start with
  | .error fault => some ⟨.failed fault, [], 1, 0⟩
  | .ok start => rounds s interval (start + timeout) most []

end

/-- A started child: whether it was killed, and whether its end was taken notice of. -/
structure Handle where
  killed : Bool
  reaped : Bool
  deriving DecidableEq, Repr

namespace Handle

def started : Handle := ⟨false, false⟩

/-- Looks whether the child still runs; one that has ended is reaped. -/
def poll (h : Handle) (running : Bool) : Handle :=
  { h with reaped := h.reaped || !running }

def kill (h : Handle) : Handle := { h with killed := true }

def reap (h : Handle) : Handle := { h with reaped := true }

/-- Leaves no child behind, where the output of a killed child comes to its end. -/
def terminate (h : Handle) (running : Bool) : Handle :=
  let polled := h.poll running
  if polled.reaped then polled else polled.kill.reap

end Handle

/-- A child that was waited for, and what became of it. -/
structure Execution (τ ε ω : Type) where
  waited : Waited τ ε ω
  child : Handle
  deriving DecidableEq, Repr

section

variable {τ ε ω : Type} [Add τ] [Sub τ] [LT τ] [LE τ] [OfNat τ 0] [DecidableLT τ] [DecidableLE τ]

/-- Whether the last look at the child finds it running; output comes only from a child that ended. -/
def Waited.leavesRunning (w : Waited τ ε ω) (s : Surroundings τ ε ω) : Bool :=
  match w.ending with
  | .finished _ => false
  | _ => s.running w.slices

/-- Waits for a started child and leaves none behind. -/
def execute (s : Surroundings τ ε ω) (interval timeout : τ) (most : Nat) : Option (Execution τ ε ω) :=
  (wait s interval timeout most).map fun w => ⟨w, Handle.started.terminate (w.leavesRunning s)⟩

/-- The output of a killed child is read to its end, which is not found while something holds it open. -/
def Execution.hangs (s : Surroundings τ ε ω) (e : Execution τ ε ω) : Bool :=
  e.child.killed && s.held e.waited.slices

/-- Waits for a started child, and comes back if the end of its output is found. -/
def settle (s : Surroundings τ ε ω) (interval timeout : τ) (most : Nat) : Option (Execution τ ε ω) :=
  (execute s interval timeout most).filter fun e => !e.hangs s

end

end ApiLint.Child
