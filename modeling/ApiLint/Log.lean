/-! Records of what happened, by the part of the program that they come from. -/

namespace ApiLint

inductive Level where
  | debug
  | warning
  | error
  deriving DecidableEq, Repr

namespace Level

def rank : Level → Nat
  | debug => 10
  | warning => 30
  | error => 40

def name : Level → String
  | debug => "DEBUG"
  | warning => "WARNING"
  | error => "ERROR"

end Level

/-- The part of the program that a record comes from. -/
inductive Channel where
  | scope
  | projection
  | run
  | process
  | tempFile
  deriving DecidableEq, Repr

structure LogRecord where
  level : Level
  channel : Channel
  message : String
  deriving DecidableEq, Repr

/-- The number of a child process, which the system is free to choose. -/
def childNumber : String := "4242"

def recordsFrom (level : Level) (records : List LogRecord) : List LogRecord :=
  records.filter fun r => level.rank ≤ r.level.rank

end ApiLint
