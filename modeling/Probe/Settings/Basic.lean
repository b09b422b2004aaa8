namespace Probe

structure LogSettings where
  /-- A plain level or a whole list of filter directives. -/
  level : String := "info"
  /-- Whether log records are written as JSON. -/
  json : Bool := false
  deriving Repr, DecidableEq

structure Settings where
  /-- The time one evaluation may take, in milliseconds. -/
  timeoutMs : Option Nat := none
  /-- How many operands the stack of one evaluation may hold. -/
  maxOperandStack : Nat := 1024
  logging : LogSettings := {}
  deriving Repr, DecidableEq

/-- Whether an evaluation is late once it has taken some milliseconds. -/
def Settings.expiredAfter (s : Settings) (elapsedMs : Nat) : Bool :=
  s.timeoutMs.any (· ≤ elapsedMs)

end Probe
