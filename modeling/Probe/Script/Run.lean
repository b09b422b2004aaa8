import Probe.Script.Syntax

namespace Probe.Script

open Probe.Action (read modify attempt ofExcept)

inductive Fault where
  | remote (error : RemoteError)
  | failure (failure : Failure)
  /-- The code could not be put together. -/
  | code (error : CodeError)
  | crash

inductive Answer where
  | done
  | value (value : Value)
  /-- The value of an evaluation, with its content if it is a string. -/
  | result (value : Value) (text : Option String)
  | valueOrNone (value : Option Value)
  | type (type : TypeRef)
  | flag (flag : Bool)
  | number (number : Nat)
  | text (text : String)
  | settings (settings : Settings)
  | locals (locals : List LocalVariable)
  | variableOrNone (found : Option LocalVariable)
  | captured (captured : Option (Token × MethodResult))
  | methodResult (result : Option MethodResult)

abbrev Outcome := Except Fault Answer

/-- What a script keeps for itself. -/
structure Client where
  bindings : Table String Value := .empty
  scopes : Table String Scope := .empty
  evaluator : Evaluator := { id := 0 }
  /-- The answers to the commands that methods ran, in the order in which they ended. -/
  inner : List Outcome := []

abbrev ScriptWorld := World Hook Client

/-- A command in progress. -/
abbrev Run (α : Type) := Action ScriptWorld Fault α

namespace Client

/-- The value of a term; a name that was never given stands for null. -/
def value (c : Client) : Term → Value
  | .literal v => v
  | .bound name => (c.bindings.get? name).getD .null

def handle (c : Client) (t : Term) : Handle := (c.value t).handle?.getD ⟨0, ""⟩

def instruction (c : Client) : CodeTerm → Instruction
  | .plain i => i
  | .pushBound name => .push (c.value (.bound name))

def pairs (c : Client) (l : List (String × Term)) : List (String × Value) :=
  l.map fun p => (p.1, c.value p.2)

def frame (c : Client) (f : FrameSpec) : CallFrame := ⟨f.method, .ofList (c.pairs f.locals)⟩

/-- A reply that no longer depends on names. -/
def reply (c : Client) : Reply → Reply
  | .value t => .value (.literal (c.value t))
  | r => r

/-- The hook of a method: what it replies is settled when its class is added, what its commands
refer to when they run. -/
def hook (c : Client) : Hook → Hook
  | .mk steps r => .mk steps (c.reply r)

def behavior (c : Client) : BehaviorSpec Hook → Behavior Hook
  | .returns t => .returns (c.value t)
  | .returnsString text => .returnsString text
  | .throws typeName => .throws typeName
  | .runs h => .hook (c.hook h)

def method (c : Client) (m : MethodSpec Hook) : Method Hook :=
  ⟨m.name, m.signature, c.behavior m.behavior⟩

def classDef (c : Client) (s : ClassSpec Hook) : ClassDef Hook :=
  let usual : ClassDef Hook := if s.isInterface then .interface s.name else { name := s.name }
  { usual with
    superclass := s.superclass.getD usual.superclass
    interfaces := s.interfaces
    constructors := s.constructors
    fields := c.pairs s.fields
    statics := c.pairs s.statics
    methods := s.methods.map c.method }

def cause (c : Client) : CauseTerm → StopCause
  | .step => .step
  | .breakpoint => .breakpoint
  | .watchpoint => .watchpoint
  | .methodExit t => .methodExit (c.value t)
  | .exception t caught => .exception (c.handle t) caught

end Client

variable {α : Type}

def client : Run Client := read World.client

def value (t : Term) : Run Value := read fun w => w.client.value t

def handle (t : Term) : Run Handle := read fun w => w.client.handle t

def values (ts : List Term) : Run (List Value) := read fun w => ts.map w.client.value

def call (c : Call Hook Client α) : Run α :=
  c.mapError fun
    | .error e => .remote e
    | .crash => .crash

def remote (r : Remote Hook α) : Run α := call (World.remote r)

def evaluation (e : Evaluation Hook Client α) : Run α :=
  e.mapError fun
    | .error f => .failure f
    | .crash => .crash

def change (f : Debuggee Hook → α × Debuggee Hook) : Run α := fun w =>
  let (a, debuggee) := f w.debuggee
  (.ok a, { w with debuggee })

def tracking (f : Tracker → α × Tracker) : Run α := fun w =>
  let (a, tracker) := f w.tracker
  (.ok a, { w with tracker })

def modifyClient (f : Client → Client) : Run Unit :=
  modify fun w => { w with client := f w.client }

def type : TypeTerm → Run TypeRef
  | .loaded t => pure t
  | .named name => remote (Remote.classByName name)

def Control.run : Control → Run Answer
  | .addThread thread frames => do
    let frames := frames.map (← client).frame
    change fun d => (.done, d.addThread thread frames)
  | .resume thread => change fun d => (.done, d.resume thread)
  | .suspend thread byEvent => change fun d => (.done, d.suspend thread byEvent)
  | .disconnect => change fun d => (.done, d.disconnect)
  | .terminate => change fun d => (.done, d.terminate)
  | .newObject typeName => return .value (.object (← change (·.newObject typeName)))
  | .newString text => return .value (.object (← change (·.newString text)))
  | .newArrayOf typeName elements => do
    let elements ← values elements
    return .value (.object (← change (·.newArrayOf typeName elements)))
  | .peekField object name => do
    let h ← handle object
    return .valueOrNone (← read fun w => w.debuggee.peekField? h name)
  | .peekLocal thread name =>
    return .valueOrNone (← read fun w => w.debuggee.peekLocal? thread name)

def Request.run (hooks : Hooks Hook Client) : Request → Run Answer
  | .makeString text => return .value (.object (← remote (Remote.makeString text)))
  | .classByName name => return .type (← remote (Remote.classByName name))
  | .typeOf object => return .type (← remote (Remote.typeOf (← handle object)))
  | .isAssignable object t => do
    let t ← type t
    return .flag (← remote (Remote.isAssignable (← handle object) t))
  | .construct t signature args thread => do
    let t ← type t
    return .value (← remote (Remote.construct t signature (← values args) thread))
  | .invokeMethod object name signature args thread => do
    let h ← handle object
    return .value (← call (World.invokeMethod hooks h name signature (← values args) thread))
  | .invokeStatic t name signature args thread => do
    let t ← type t
    return .value (← call (World.invokeStatic hooks t name signature (← values args) thread))
  | .declaringType t name signature => do
    let t ← type t
    return .type (← remote (Remote.declaringType t name signature))
  | .getField object name => return .value (← remote (Remote.getField (← handle object) name))
  | .setField object name v => do
    remote (Remote.setField (← handle object) name (← value v))
    return .done
  | .getStatic t name => do
    let t ← type t
    return .value (← remote (Remote.getStatic t name))
  | .setStatic t name v => do
    let t ← type t
    remote (Remote.setStatic t name (← value v))
    return .done
  | .arrayLength object => return .number (← remote (Remote.arrayLength (← handle object)))
  | .getElement object index =>
    return .value (← remote (Remote.getElement (← handle object) index))
  | .setElement object index v => do
    remote (Remote.setElement (← handle object) index (← value v))
    return .done
  | .newArray t length => do
    let t ← type t
    return .value (.object (← remote (Remote.newArray t length)))
  | .stringText object => return .text (← remote (Remote.stringText (← handle object)))
  | .getLocal thread frame name => return .value (← remote (Remote.getLocal thread frame name))
  | .setLocal thread frame name v => do
    remote (Remote.setLocal thread frame name (← value v))
    return .done
  | .frameCount thread => return .number (← remote (Remote.frameCount thread))
  | .isSuspended thread => return .flag (← remote (Remote.isSuspended thread))

/-- The scope of a name; scripts make a scope before they use it. -/
def scope (name : String) : Run Scope := read fun w =>
  (w.client.scopes.get? name).getD ⟨0, ⟨0, "", .classType⟩, none, 0, [], "", false⟩

def buildScope (s : ScopeSpec) : Run Answer := do
  let receivingType ← type s.type
  let this ← read fun w => s.this.map w.client.handle
  let made : Scope :=
    { thread := s.thread, receivingType, this, frame := s.frame, locals := s.locals
      project := s.project, isConstructor := s.isConstructor }
  modifyClient fun c => { c with scopes := c.scopes.insert s.name made }
  return .done

def scopeProperty (s : Scope) : Property → Run Answer
  | .this => return .valueOrNone ((← remote (s.look (·.this))).map .object)
  | .receivingType => return .type (← remote (s.look (·.receivingType)))
  | .locals => return .locals (← remote (s.look (·.locals)))
  | .declared name => return .variableOrNone (← remote (s.look (·.local? name)))
  | .isConstructor => return .flag (← remote (s.look (·.isConstructor)))
  | .project => return .text s.project
  | .thread => return .number s.thread
  | .frame => return .number s.frame

/-- Runs the machine alone, with no evaluator around it. -/
def runBare (hooks : Hooks Hook Client) (code : Code) (s : Scope) (purpose : Purpose)
    (cancelled : Bool) (maxStack : Nat) (tracking : Bool) : Evaluation Hook Client Value := do
  let run ← Evaluator.startRun
  if cancelled then modify fun w => { w with runs := w.runs.cancel run }
  Machine.run { hooks, scope := s, mayChange := purpose.mayChange, tracking, run, maxStack } code

def start (hooks : Hooks Hook Client) (code : Code) (s : Scope) (purpose : Purpose) :
    Mode → Run Value
  | .now => do
    let e := (← client).evaluator
    evaluation (e.evaluateNow .still hooks code s purpose)
  | .session => do
    let e := (← client).evaluator
    evaluation (e.evaluateSession .still hooks code s purpose)
  | .bare cancelled maxStack tracking =>
    evaluation (runBare hooks code s purpose cancelled maxStack tracking)

def contentOf (v : Value) : Run (Option String) := do
  match v.handle?.filter Handle.isString with
  | none => return none
  | some h => return (← attempt (remote (Remote.stringText h))).toOption

def Debug.run (hooks : Hooks Hook Client) : Debug → Run Answer
  | .newEvaluator settings tracking => do
    modifyClient fun c => { c with evaluator := ⟨c.evaluator.id + 1, settings, tracking⟩ }
    return .settings settings
  | .makeScope spec => buildScope spec
  | .lookScope name property => do scopeProperty (← scope name) property
  | .evaluate name code purpose mode => do
    let s ← scope name
    let instructions := code.map (← client).instruction
    let code ← ofExcept ((Code.ofList "" instructions).mapError .code)
    let v ← start hooks code s purpose mode
    return .result v (← contentOf v)
  | .isBusy thread => return .flag (← read fun w => w.client.evaluator.isBusy thread w)
  | .cancel thread => fun w =>
    let (found, w) := Evaluator.cancelSession thread w
    (.ok (.flag found), w)
  | .display thread v => do
    let v ← value v
    return .text (← evaluation ((World.display hooks thread v).mapError (·.map .ofRemote)))

def Track.run : Track → Run Answer
  | .expect e => return .number (← tracking (·.expect e))
  | .observe thread depth method cause => do
    let cause := (← client).cause cause
    return .captured (← tracking (·.observe ⟨thread, depth, method, cause⟩))
  | .take token => return .methodResult (← tracking (·.take token))
  | .isPending token => return .flag (← read fun w => w.tracker.isPending token)
  | .abandon token => return .flag (← tracking (·.abandon token))
  | .abandonThread thread => return .number (← tracking (·.abandonThread thread))

def Command.run (hooks : Hooks Hook Client) : Command → Run Answer
  | .addClass spec => do
    let c := (← client).classDef spec
    return .type (← change (·.addClass c))
  | .control c => c.run
  | .request r => r.run hooks
  | .debug d => d.run hooks
  | .track t => t.run

/-- The value that an answer lets a script name. -/
def Answer.value? : Answer → Option Value
  | .value v => some v
  | .result v _ => some v
  | _ => none

/-- Runs a command and gives its value the name asked for. -/
def runStep (hooks : Hooks Hook Client) (step : Step) (w : ScriptWorld) :
    Outcome × ScriptWorld :=
  let (outcome, w) := step.1.run hooks w
  match step.2, outcome with
  | some name, .ok answer =>
    match answer.value? with
    | some v => (outcome, { w with client.bindings := w.client.bindings.insert name v })
    | none => (outcome, w)
  | _, _ => (outcome, w)

/-- Runs the commands of a method and notes their answers. -/
def runInner (hooks : Hooks Hook Client) (steps : List Step) (w : ScriptWorld) : ScriptWorld :=
  steps.foldl
    (fun w step =>
      let (outcome, w) := runStep hooks step w
      { w with client.inner := w.client.inner ++ [outcome] })
    w

def Reply.answer (args : List Value) : Reply → Call Hook Client Value
  | .value t => read fun w => w.client.value t
  | .argument index => pure (args[index]?.getD .void)
  | .argumentCount => pure (.int (Int32.ofNat args.length))
  | .error e => Action.fail (.error e)
  | .crash => Action.fail .crash

def Hook.run (hooks : Hooks Hook Client) (hook : Hook) (args : List Value) :
    Call Hook Client Value := fun w =>
  match hook with
  | .mk steps reply => reply.answer args (runInner hooks steps w)

/-- The meaning of hooks that run inside each other at most `n` deep; a deeper one crashes. -/
def hooksWithin : Nat → Hooks Hook Client
  | 0 => fun _ _ => Action.fail .crash
  | n + 1 => fun hook args => hook.run (hooksWithin n) args

/-- How deep hooks may run inside each other. -/
def hookDepth : Nat := 100000

structure Report where
  outcome : Outcome
  /-- The calls to the debuggee that it made. -/
  calls : List String
  /-- The answers to the commands that methods ran meanwhile. -/
  inner : List Outcome

/-- Runs a command and reports on it. The answers to commands that methods ran before, during
the preparation, stand in the report as well. -/
def report (step : Step) (w : ScriptWorld) : Report × ScriptWorld :=
  let before := w.debuggee.calls.length
  let (outcome, w) := runStep (hooksWithin hookDepth) step w
  (⟨outcome, w.debuggee.calls.drop before, w.client.inner⟩, { w with client.inner := [] })

def reports : List Step → ScriptWorld → List Report
  | [], _ => []
  | step :: rest, w =>
    let (r, w) := report step w
    r :: reports rest w

/-- A command of the preparation, by its index, that did not succeed. -/
structure Unprepared where
  index : Nat
  fault : Fault

/-- Runs the commands of a preparation from an index on, up to the first that fails. -/
def prepare : Nat → List Step → ScriptWorld → Except Unprepared ScriptWorld
  | _, [], w => .ok w
  | index, step :: rest, w =>
    match runStep (hooksWithin hookDepth) step w with
    | (.ok _, w) => prepare (index + 1) rest w
    | (.error fault, _) => .error ⟨index, fault⟩

/-- Runs a script against a fresh debuggee and reports on the commands after the preparation. -/
def runScript (preparation steps : List Step) : Except Unprepared (List Report) :=
  (prepare 0 preparation (World.initial {})).map (reports steps)

end Probe.Script
