import Probe.Machine
import Probe.Settings.Basic

namespace Probe

inductive Purpose where
  | condition
  | watch
  | hover
  | console
  deriving Repr, DecidableEq

instance : Inhabited Purpose := ⟨.console⟩

/-- Only what the user submits in the console may change the debuggee. -/
def Purpose.mayChange : Purpose → Bool
  | console => true
  | condition | watch | hover => false

/-- Copies of an evaluator share its number and with it the leases. -/
structure Evaluator where
  id : Nat
  settings : Settings := {}
  /-- Whether calls are announced to the tracker. -/
  tracking : Bool := false
  deriving Repr, DecidableEq

namespace Evaluator

open Probe.Action (read modify require attempt ofExcept)

variable {η κ α : Type}

def isBusy (e : Evaluator) (thread : ThreadId) (w : World η κ) : Bool :=
  w.leases.contains ⟨e.id, thread⟩

def acquire (e : Evaluator) (thread : ThreadId) : Evaluation η κ Unit := do
  let busy ← read (e.isBusy thread)
  require (!busy) (.error (.threadBusy thread))
  modify fun w => { w with leases := ⟨e.id, thread⟩ :: w.leases }

def release (e : Evaluator) (thread : ThreadId) : Evaluation η κ Unit :=
  modify fun w => { w with leases := w.leases.erase ⟨e.id, thread⟩ }

/-- Does something while holding the lease on a thread, which is given back however it ends. -/
def holding (e : Evaluator) (thread : ThreadId) (x : Evaluation η κ α) : Evaluation η κ α := do
  e.acquire thread
  let result ← attempt x
  e.release thread
  ofExcept result

def startRun : Evaluation η κ Nat := fun w =>
  (.ok w.runs.start.1, { w with runs := w.runs.start.2 })

/-- How many milliseconds an evaluation has taken when its run comes to an index. No run comes
to an index twice. -/
abbrev Clock := Nat → Nat

def Clock.still : Clock := fun _ => 0

def setup (e : Evaluator) (clock : Clock) (hooks : Hooks η κ) (scope : Scope) (purpose : Purpose)
    (run : Nat) : Machine.Setup η κ :=
  { hooks, scope, run
    mayChange := purpose.mayChange
    tracking := e.tracking
    expired := fun pc => e.settings.expiredAfter (clock pc)
    maxStack := e.settings.maxOperandStack }

/-- Evaluates at once; nobody else can cancel the evaluation. -/
def evaluateNow (e : Evaluator) (clock : Clock) (hooks : Hooks η κ) (code : Code) (scope : Scope)
    (purpose : Purpose) : Evaluation η κ Value :=
  e.holding scope.thread do
    let run ← startRun
    Machine.run (e.setup clock hooks scope purpose run) code

/-- Lists a run as a session while something is done. -/
def asSession (run : Nat) (thread : ThreadId) (x : Evaluation η κ α) : Evaluation η κ α := do
  modify fun w => { w with runs.sessions := (run, thread) :: w.runs.sessions }
  let result ← attempt x
  modify fun w => { w with runs.sessions := w.runs.sessions.erase (run, thread) }
  ofExcept result

def catchCrash (x : Evaluation η κ α) : Evaluation η κ α :=
  x.mapError fun
    | .crash => .error .crashed
    | stop => stop

/-- Evaluates in a session, which can be cancelled and survives a crash of the client's code. -/
def evaluateSession (e : Evaluator) (clock : Clock) (hooks : Hooks η κ) (code : Code)
    (scope : Scope) (purpose : Purpose) : Evaluation η κ Value :=
  e.holding scope.thread <| catchCrash do
    let run ← startRun
    asSession run scope.thread (Machine.run (e.setup clock hooks scope purpose run) code)

/-- Cancels the session that runs on a thread and tells whether there was one. -/
def cancelSession (thread : ThreadId) (w : World η κ) : Bool × World η κ :=
  match w.runs.session? thread with
  | some run => (true, { w with runs := w.runs.cancel run })
  | none => (false, w)

end Evaluator

end Probe
