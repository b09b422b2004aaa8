import Probe.Error.Code
import Probe.Error.Expression
import Probe.Error.Remote

namespace Probe

inductive Failure where
  /-- The code is broken. -/
  | malformed (error : CodeError)
  /-- The expression itself has no value. -/
  | expression (error : ExpressionError)
  /-- The debuggee is out of reach; the expression may be tried again later. -/
  | communication (error : RemoteError)
  | cancelled
  | timedOut
  | threadBusy (thread : ThreadId)
  /-- Code of the client crashed during the evaluation. -/
  | crashed
  deriving DecidableEq

namespace Failure

def message : Failure → String
  | malformed error => "invalid instruction sequence: " ++ error.message
  | expression error => error.message
  | communication error =>
    "communication with the target VM failed (" ++ error.message ++
      "); re-evaluate once the thread is suspended"
  | cancelled => "evaluation was cancelled"
  | timedOut => "evaluation timed out"
  | threadBusy thread => s!"thread {thread} is already running an evaluation"
  | crashed => "evaluation task panicked"

def isCommunicationFailure : Failure → Bool
  | communication _ => true
  | _ => false

/-- What a failed request means for the evaluation that made it. -/
def ofRemote : RemoteError → Failure
  | .noSuchMethod typeName name signature =>
    .expression (if name = "<init>" then .noSuchConstructor typeName signature
      else .noSuchMethod typeName name signature)
  | .noSuchField typeName name => .expression (.noSuchField typeName name)
  | .classNotLoaded name => .expression (.unknownType name)
  | .invalidType message => .expression (.invalidType (.reported message))
  | .invalidIndex index length => .expression (.indexOutOfBounds index length)
  | .threw exception => .expression (.exception exception.typeName)
  | .notAtEvent thread => .expression (.notAtEvent thread)
  | error => .communication error

end Failure

/-- How a computation that runs code of the client can stop early. -/
inductive Abrupt (ε : Type) where
  | error (e : ε)
  /-- The client's code crashed. -/
  | crash
  deriving DecidableEq

def Abrupt.map {ε δ : Type} (f : ε → δ) : Abrupt ε → Abrupt δ
  | error e => error (f e)
  | crash => crash

end Probe
