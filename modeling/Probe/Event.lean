import Probe.Value.Basic

namespace Probe

inductive StopCause where
  | step
  | breakpoint
  | watchpoint
  /-- A method is about to return a value. -/
  | methodExit (value : Value)
  /-- An exception is in flight, and may have a handler. -/
  | exception (exception : Handle) (caught : Bool)
  deriving DecidableEq

/-- A stop of a thread with `depth` active frames, the top one executing `method`. -/
structure StopEvent where
  thread : ThreadId
  depth : Nat
  method : MethodId
  cause : StopCause
  deriving DecidableEq

end Probe
