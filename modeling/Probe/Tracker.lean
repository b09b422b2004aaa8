import Probe.Event
import Probe.Table

namespace Probe

abbrev Token := Nat

inductive ExpectationSort where
  /-- A step that the user asked for. -/
  | step
  /-- A method exit that an evaluation or a breakpoint watches for. -/
  | methodExit
  deriving Repr, DecidableEq

/-- A method awaited at a stack depth of a thread. -/
structure Expectation where
  thread : ThreadId
  method : MethodId
  depth : Nat
  sort : ExpectationSort
  deriving Repr, DecidableEq

inductive ResultSort where
  | returned
  | threw
  | returning
  | throwing
  deriving Repr, DecidableEq

/-- What a method gave: a returned value or a thrown object. -/
structure MethodResult where
  method : MethodId
  depth : Nat
  value : Value
  sort : ResultSort
  deriving DecidableEq

/-- The value an event carries, and whether it was returned rather than thrown. -/
def StopEvent.outcome? (event : StopEvent) : Option (Value × Bool) :=
  match event.cause with
  | .methodExit value => some (value, true)
  | .exception exception _ => some (.object exception, false)
  | .step | .breakpoint | .watchpoint => none

def Expectation.fits (e : Expectation) (event : StopEvent) : Bool :=
  e.thread == event.thread && e.depth == event.depth && e.method == event.method

def ExpectationSort.result : ExpectationSort → Bool → ResultSort
  | step, true => .returned
  | step, false => .threw
  | methodExit, true => .returning
  | methodExit, false => .throwing

def Expectation.result (e : Expectation) (value : Value) (returned : Bool) : MethodResult :=
  ⟨e.method, e.depth, value, e.sort.result returned⟩

/-- The expectations and the results not yet taken, by token. -/
structure Tracker where
  issued : Nat
  pending : Table Token Expectation
  captured : Table Token (ThreadId × MethodResult)
  deriving DecidableEq

namespace Tracker

def empty : Tracker := ⟨0, .empty, .empty⟩

/-- Removes the pending steps of a thread, with whatever they have captured. -/
def dropSteps (t : Tracker) (thread : ThreadId) : Tracker :=
  let stale := (t.pending.filter fun _ e => e.thread == thread && e.sort == .step).keys
  { t with
    pending := t.pending.filter fun token _ => !stale.contains token
    captured := t.captured.filter fun token _ => !stale.contains token }

/-- Registers an expectation under a new token; a new step replaces the pending one of its
thread. -/
def expect (t : Tracker) (e : Expectation) : Token × Tracker :=
  let token := t.issued + 1
  let t := if e.sort = .step then t.dropSteps e.thread else t
  (token, { t with issued := token, pending := t.pending.insert token e })

/-- The newest pending token whose expectation fits an event. -/
def match? (t : Tracker) (event : StopEvent) : Option Token :=
  (t.pending.filter fun _ e => e.fits event).keys.max?

/-- Attributes a stop event to the newest expectation that fits it. -/
def observe (t : Tracker) (event : StopEvent) : Option (Token × MethodResult) × Tracker :=
  match event.outcome? with
  | none => (none, t)
  | some (value, returned) =>
    match t.match? event with
    | none => (none, t)
    | some token =>
      match t.pending.get? token with
      | none => (none, t)
      | some e =>
        let result := e.result value returned
        (some (token, result),
          { t with
            pending := t.pending.erase token
            captured := t.captured.insert token (e.thread, result) })

/-- Hands out the result captured for a token and forgets it. -/
def take (t : Tracker) (token : Token) : Option MethodResult × Tracker :=
  ((t.captured.get? token).map (·.2), { t with captured := t.captured.erase token })

def isPending (t : Tracker) (token : Token) : Bool := t.pending.contains token

/-- Forgets a token and tells whether it was known. -/
def abandon (t : Tracker) (token : Token) : Bool × Tracker :=
  (t.pending.contains token || t.captured.contains token,
    { t with pending := t.pending.erase token, captured := t.captured.erase token })

/-- Forgets everything about a thread and tells how many records that were. -/
def abandonThread (t : Tracker) (thread : ThreadId) : Nat × Tracker :=
  let pending := t.pending.filter fun _ e => e.thread != thread
  let captured := t.captured.filter fun _ c => c.1 != thread
  (t.pending.size + t.captured.size - (pending.size + captured.size),
    { t with pending, captured })

end Tracker

end Probe
