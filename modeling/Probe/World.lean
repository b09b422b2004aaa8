import Probe.Debuggee.Remote
import Probe.Error.Failure
import Probe.Tracker

namespace Probe

/-- The right to evaluate on a thread, held for one evaluator. -/
structure Lease where
  evaluator : Nat
  thread : ThreadId
  deriving Repr, DecidableEq

/-- The evaluations that can be told to stop. -/
structure Runs where
  /-- How many evaluations were numbered so far. -/
  started : Nat
  /-- The sessions now running, newest first, with the thread each runs on. -/
  sessions : List (Nat × ThreadId)
  cancelled : List Nat
  deriving Repr, DecidableEq

/-- The debuggee together with what the debugger keeps about it and the client's own state
`κ`. -/
structure World (η κ : Type) where
  debuggee : Debuggee η
  tracker : Tracker
  leases : List Lease
  runs : Runs
  client : κ

/-- A call that may run code of the client. -/
abbrev Call (η κ α : Type) := Action (World η κ) (Abrupt RemoteError) α

/-- What the client does for each hook label, given the arguments of the call. -/
abbrev Hooks (η κ : Type) := η → List Value → Call η κ Value

namespace Runs

def start (r : Runs) : Nat × Runs := (r.started, { r with started := r.started + 1 })

def cancel (r : Runs) (run : Nat) : Runs := { r with cancelled := run :: r.cancelled }

def isCancelled (r : Runs) (run : Nat) : Bool := r.cancelled.contains run

/-- The newest session that runs on a thread. -/
def session? (r : Runs) (thread : ThreadId) : Option Nat :=
  (r.sessions.find? (·.2 == thread)).map (·.1)

end Runs

namespace World

variable {η κ α : Type}

/-- A world around a fresh debuggee. -/
def initial (client : κ) : World η κ := ⟨.initial, .empty, [], ⟨0, [], []⟩, client⟩

def remote (r : Remote η α) : Call η κ α :=
  r.zoom World.debuggee (fun d w => { w with debuggee := d }) .error

/-- Runs a hook. Whatever it answers, a debuggee lost meanwhile is reported first. -/
def runHook (hook : Call η κ Value) : Call η κ Value := do
  match ← Action.attempt hook with
  | .error .crash => Action.fail .crash
  | result =>
    remote Remote.checkAlive
    Action.ofExcept result

def runBehavior (hooks : Hooks η κ) (behavior : Behavior η) (args : List Value) :
    Call η κ Value :=
  match behavior with
  | .returns value => pure value
  | .returnsString text => remote (return .object (← Remote.change (·.newString text)))
  | .throws typeName => remote do
    Action.fail (.threw (← Remote.change (·.newObject typeName)))
  | .hook label => runHook (hooks label args)

def runCallee (hooks : Hooks η κ) (args : List Value) : Remote.Callee η → Call η κ Value
  | .answer value => pure value
  | .declared behavior => runBehavior hooks behavior args

def invokeMethod (hooks : Hooks η κ) (h : Handle) (name signature : String) (args : List Value)
    (thread : ThreadId) : Call η κ Value := do
  runCallee hooks args (← remote (Remote.selectInstance h name signature args thread))

def invokeStatic (hooks : Hooks η κ) (type : TypeRef) (name signature : String)
    (args : List Value) (thread : ThreadId) : Call η κ Value := do
  runCallee hooks args (← remote (Remote.selectStatic type name signature args thread))

/-- The character of a UTF-16 unit; a lone surrogate has none and is shown by the replacement
character. -/
def unitText (unit : UInt16) : String :=
  let n := unit.toNat
  String.singleton (if n.isValidChar then Char.ofNat n else '�')

/-- The text of a value in a string concatenation. Strings are read, and other objects are asked
through their own method, which may run any code. -/
def display (hooks : Hooks η κ) (thread : ThreadId) : Value → Call η κ String
  | .null => pure "null"
  | .void => pure ""
  | .boolean v => pure (if v then "true" else "false")
  | .byte v => pure (toString v.toInt)
  | .char v => pure (unitText v)
  | .short v => pure (toString v.toInt)
  | .int v => pure (toString v.toInt)
  | .long v => pure (toString v.toInt)
  | .float v => pure (Decimal.concatSingle v)
  | .double v => pure (Decimal.concatDouble v)
  | .object h => do
    if h.isString then remote (Remote.stringText h)
    else
      match ← invokeMethod hooks h "toString" "()Ljava/lang/String;" [] thread with
      | .object text => remote (Remote.stringText text)
      | _ => return "null"

end World

end Probe
