import Probe.Value.Basic

namespace Probe

inductive RemoteError where
  | disconnected
  | terminated
  | notSuspended (thread : ThreadId)
  /-- The thread is suspended, but not by an event, so it cannot run methods. -/
  | notAtEvent (thread : ThreadId)
  | invalidObject (id : ObjectId)
  | timeout
  | commandFailed (code : Nat)
  | noSuchMethod (typeName name signature : String)
  | noSuchField (typeName name : String)
  | classNotLoaded (name : String)
  | invalidType (message : String)
  | invalidIndex (index : Int) (length : Nat)
  /-- The invoked method ended with an exception. -/
  | threw (exception : Handle)
  | other (message : String)
  deriving Repr, DecidableEq

namespace RemoteError

def message : RemoteError → String
  | disconnected => "VM disconnected"
  | terminated => "VM terminated"
  | notSuspended thread => s!"thread {thread} is not suspended"
  | notAtEvent thread => s!"thread {thread} was not suspended by an event"
  | invalidObject id => s!"invalid object id {id}"
  | timeout => "timed out waiting for the VM to reply"
  | commandFailed code => s!"command failed with error code {code}"
  | noSuchMethod typeName name signature => s!"no method `{name}{signature}` in {typeName}"
  | noSuchField typeName name => s!"no field `{name}` in {typeName}"
  | classNotLoaded name => s!"class {name} is not loaded"
  | invalidType message => s!"invalid type: {message}"
  | invalidIndex index length => s!"index {index} out of bounds for length {length}"
  | threw exception => "invocation threw " ++ exception.typeName
  | other message => message

/-- After such a failure nothing known about the debuggee can be trusted any more. -/
def isCommunicationFailure : RemoteError → Bool
  | disconnected | terminated | notSuspended _ | timeout | commandFailed _ => true
  | _ => false

end RemoteError

end Probe
