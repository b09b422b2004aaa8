import Probe.Code.Sequence
import Probe.Operator.Apply
import Probe.Operator.Convert
import Probe.Scope
import Probe.World

namespace Probe

inductive Operand where
  | value (v : Value)
  | type (t : TypeRef)
  deriving DecidableEq

namespace Machine

/-- What stays the same during a run. -/
structure Setup (η κ : Type) where
  hooks : Hooks η κ
  scope : Scope
  /-- Whether the code may change the debuggee. -/
  mayChange : Bool := true
  /-- Whether calls announce their method to the tracker. -/
  tracking : Bool := false
  /-- The number of the run, under which it can be cancelled. -/
  run : Nat
  /-- Whether the deadline has passed when the run comes to an index. -/
  expired : Nat → Bool := fun _ => false
  maxStack : Nat := 1024

structure State (η κ : Type) where
  /-- The top of the stack comes first. -/
  stack : List Operand
  /-- Names bound by type tests; they hide all other variables. -/
  temporaries : Table String Value
  world : World η κ

abbrev Exec (η κ α : Type) := Action (State η κ) (Abrupt Failure) α

open Probe.Action (read modify)

variable {η κ α : Type}

def call (c : Call η κ α) : Exec η κ α :=
  c.zoom State.world (fun w s => { s with world := w }) (·.map .ofRemote)

def remote (r : Remote η α) : Exec η κ α := call (World.remote r)

def fail (f : Failure) : Exec η κ α := Action.fail (.error f)

def reject (e : ExpressionError) : Exec η κ α := fail (.expression e)

def require (c : Prop) [Decidable c] (f : Failure) : Exec η κ Unit := Action.require c (.error f)

def malformed (e : CodeError) : Exec η κ α := fail (.malformed e)

structure Site where
  pc : Nat
  instruction : Instruction

def push (setup : Setup η κ) (site : Site) (operand : Operand) : Exec η κ Unit := do
  let stack ← read State.stack
  require (stack.length < setup.maxStack) (.malformed (.overflow site.pc setup.maxStack))
  modify fun s => { s with stack := operand :: s.stack }

def pushValue (setup : Setup η κ) (site : Site) (v : Value) : Exec η κ Unit :=
  push setup site (.value v)

def pop (site : Site) : Exec η κ Operand := do
  match ← read State.stack with
  | [] => malformed (.underflow site.pc site.instruction)
  | operand :: rest =>
    modify fun s => { s with stack := rest }
    return operand

def popValue (site : Site) : Exec η κ Value := do
  match ← pop site with
  | .value v => return v
  | .type _ => malformed (.unexpected site.pc site.instruction .value)

def popType (site : Site) : Exec η κ TypeRef := do
  match ← pop site with
  | .type t => return t
  | .value _ => malformed (.unexpected site.pc site.instruction .type)

/-- Takes arguments off the stack, the last one first, and gives them back in source order. No
room is reserved for them beforehand, so a number that is too large for that ends in an
underflow too. -/
def popArgs (site : Site) : Nat → Exec η κ (List Value)
  | 0 => return []
  | n + 1 => do
    let last ← popValue site
    return (← popArgs site n) ++ [last]

/-- Tries a request whose failure for want of a field is no failure of the whole. -/
def orNoField (r : Remote η α) : Exec η κ (Option α) := do
  match ← remote r.attempt with
  | .ok a => return some a
  | .error (.noSuchField ..) => return none
  | .error e => fail (.ofRemote e)

/-- A field of the receiver, if there is a receiver and it has the field. -/
def onReceiver (scope : Scope) (access : Handle → Remote η α) : Exec η κ (Option α) := do
  match ← remote (scope.look (·.this)) with
  | some this => orNoField (access this)
  | none => return none

/-- A static field of the receiving type, where the search for a name ends. -/
def onReceivingType (scope : Scope) (name : String) (access : TypeRef → Remote η α) :
    Exec η κ α := do
  let type ← remote (scope.look (·.receivingType))
  match ← orNoField (access type) with
  | some a => return a
  | none => reject (.unresolvedName name)

/-- The value of a name: a bound name, else a declared local, else a field of the receiver, else
a static field of the receiving type. -/
def readVariable (scope : Scope) (name : String) : Exec η κ Value := do
  match ← read fun s => s.temporaries.get? name with
  | some v => return v
  | none =>
    match ← remote (scope.look (·.local? name)) with
    | some _ => remote (Remote.getLocal scope.thread scope.frame name)
    | none =>
      match ← onReceiver scope (Remote.getField · name) with
      | some v => return v
      | none => onReceivingType scope name (Remote.getStatic · name)

/-- Writes the variable that `readVariable` would read. -/
def writeVariable (scope : Scope) (name : String) (v : Value) : Exec η κ Unit := do
  if (← read fun s => s.temporaries.contains name) then
    modify fun s => { s with temporaries := s.temporaries.insert name v }
  else
    match ← remote (scope.look (·.local? name)) with
    | some _ => remote (Remote.setLocal scope.thread scope.frame name v)
    | none =>
      match ← onReceiver scope (Remote.setField · name v) with
      | some () => return
      | none => onReceivingType scope name (Remote.setStatic · name v)

/-- The object whose field is meant. -/
def fieldOwner (v : Value) (name : String) (use : NullUse) : Exec η κ Handle :=
  match v with
  | .object h => pure h
  | .null => reject (.nullPointer use)
  | v => reject (.noSuchField v.typeName name)

def arrayHandle (v : Value) (use : NullUse) : Exec η κ Handle :=
  match v with
  | .null => reject (.nullPointer use)
  | .object h => if h.isArray then pure h else reject (.invalidType (.notAnArray h.typeName))
  | v => reject (.invalidType (.notAnArray v.typeName))

/-- The number that an array index or size stands for. -/
def index? : Value → Option Int
  | .byte v => some v.toInt
  | .short v => some v.toInt
  | .char v => some v.toNat
  | .int v => some v.toInt
  | _ => none

/-- An array and a position inside it. -/
def slot (array index : Value) (use : NullUse) : Exec η κ (Handle × Nat) := do
  let h ← arrayHandle array use
  match index? index with
  | none => reject (.invalidType (.index index.typeName))
  | some i =>
    let length ← remote (Remote.arrayLength h)
    require (0 ≤ i ∧ i < length) (.expression (.indexOutOfBounds i length))
    return (h, i.toNat)

def concat (setup : Setup η κ) (l r : Value) : Exec η κ Value := do
  let left ← call (World.display setup.hooks setup.scope.thread l)
  let right ← call (World.display setup.hooks setup.scope.thread r)
  return .object (← remote (Remote.makeString (left ++ right)))

def instanceOf (h : Handle) (typeName : String) : Exec η κ Bool := do
  let type ← remote (Remote.classByName typeName)
  remote (Remote.isAssignable h type)

def cast (v : Value) : CastTarget → Exec η κ Value
  | .primitive kind =>
    match v.convert kind with
    | .ok v => pure v
    | .error e => reject e
  | .reference typeName =>
    match v with
    | .null => pure v
    | .object h => do
      let holds ← instanceOf h typeName
      require holds (.expression (.classCast h.typeName typeName))
      return v
    | v => reject (.classCast v.typeName typeName)

def testType (v : Value) (typeName : String) : Exec η κ Bool :=
  match v with
  | .null => pure false
  | .object h => instanceOf h typeName
  | v => reject (.invalidOperand "instanceof" [v.typeName])

inductive Target where
  | ofType (t : TypeRef)
  | ofObject (h : Handle)

def target (receiver : Operand) (name signature : String) : Exec η κ Target :=
  match receiver with
  | .type t => pure (.ofType t)
  | .value (.object h) => pure (.ofObject h)
  | .value .null => reject (.nullPointer (.invoke name))
  | .value v => reject (.invalidType (.primitiveReceiver name signature v.typeName))

def Target.type : Target → Remote η TypeRef
  | .ofType t => pure t
  | .ofObject h => Remote.typeOf h

def expect (e : Expectation) : Exec η κ Token := fun s =>
  let (token, tracker) := s.world.tracker.expect e
  (.ok token, { s with world := { s.world with tracker } })

/-- Announces the method a call is about to run: events inside it come from one frame above the
present top and name the type that declares the method. -/
def announce (thread : ThreadId) (target : Target) (name signature : String) :
    Exec η κ Token := do
  let depth := (← remote (Remote.frameCount thread)) + 1
  let type ← remote target.type
  let declaring ← remote (Remote.declaringType type name signature)
  expect ⟨thread, ⟨declaring.name, name, signature⟩, depth, .methodExit⟩

def withdraw (token : Token) : Exec η κ Unit :=
  modify fun s => { s with world := { s.world with tracker := (s.world.tracker.abandon token).2 } }

def perform (setup : Setup η κ) (target : Target) (name signature : String)
    (args : List Value) : Call η κ Value :=
  match target with
  | .ofType t => World.invokeStatic setup.hooks t name signature args setup.scope.thread
  | .ofObject h => World.invokeMethod setup.hooks h name signature args setup.scope.thread

/-- Calls a method. An announcement is withdrawn when the call ends, unless it crashes. -/
def invoke (setup : Setup η κ) (receiver : Operand) (name signature : String)
    (args : List Value) : Exec η κ Value := do
  let target ← target receiver name signature
  if setup.tracking then
    let token ← announce setup.scope.thread target name signature
    match ← Action.attempt (call (perform setup target name signature args)) with
    | .ok v =>
      withdraw token
      return v
    | .error .crash => Action.fail .crash
    | .error stop =>
      withdraw token
      Action.fail stop
  else call (perform setup target name signature args)

def arraySize (v : Value) : Exec η κ Nat :=
  match index? v with
  | some n => if n < 0 then reject (.negativeArraySize n) else pure n.toNat
  | none => reject (.invalidType (.arraySize v.typeName))

def ofResult (r : Except ExpressionError Value) : Exec η κ Value :=
  match r with
  | .ok v => pure v
  | .error e => reject e

/-- Lengths above the range of `int` are shown as its greatest value. -/
def lengthValue (length : Nat) : Value := .int (Int32.ofNat (min length 0x7fffffff))

/-- Binds a name to a value if a type test holds. -/
def bindIf (holds : Bool) (name : String) (v : Value) : Exec η κ Unit :=
  modify fun s => if holds then { s with temporaries := s.temporaries.insert name v } else s

/-- The value of a binary operation; a sum with a string in it is a concatenation. -/
def combine (setup : Setup η κ) (op : BinaryOp) (l r : Value) : Exec η κ Value :=
  if op = .arith .add ∧ (l.isString ∨ r.isString) then concat setup l r
  else ofResult (op.apply l r)

def receiver (scope : Scope) : Exec η κ Value := do
  match ← remote (scope.look (·.this)) with
  | some this => return .object this
  | none => reject .noReceiver

/-- What an instruction does to the stack and the world; jumps do nothing here. -/
def effect (setup : Setup η κ) (site : Site) : Exec η κ Unit :=
  match site.instruction with
  | .push v => pushValue setup site v
  | .pushString text => do
    let h ← remote (Remote.makeString text)
    pushValue setup site (.object h)
  | .pushNull => pushValue setup site .null
  | .pushThis => do
    let this ← receiver setup.scope
    pushValue setup site this
  | .pushType name => do
    let type ← remote (Remote.classByName name)
    push setup site (.type type)
  | .pushVariable name => do
    let v ← readVariable setup.scope name
    pushValue setup site v
  | .pushField name => do
    let target ← popValue site
    let owner ← fieldOwner target name (.readField name)
    let v ← remote (Remote.getField owner name)
    pushValue setup site v
  | .pushStatic typeName name => do
    let type ← remote (Remote.classByName typeName)
    let v ← remote (Remote.getStatic type name)
    pushValue setup site v
  | .loadElement => do
    let index ← popValue site
    let array ← popValue site
    let place ← slot array index .loadElement
    let v ← remote (Remote.getElement place.1 place.2)
    pushValue setup site v
  | .arrayLength => do
    let array ← popValue site
    let h ← arrayHandle array .readLength
    let length ← remote (Remote.arrayLength h)
    pushValue setup site (lengthValue length)
  | .storeVariable name => do
    let v ← popValue site
    writeVariable setup.scope name v
    pushValue setup site v
  | .storeField name => do
    let v ← popValue site
    let target ← popValue site
    let owner ← fieldOwner target name (.assignField name)
    remote (Remote.setField owner name v)
    pushValue setup site v
  | .storeStatic typeName name => do
    let v ← popValue site
    let type ← remote (Remote.classByName typeName)
    remote (Remote.setStatic type name v)
    pushValue setup site v
  | .storeElement => do
    let v ← popValue site
    let index ← popValue site
    let array ← popValue site
    let place ← slot array index .storeElement
    remote (Remote.setElement place.1 place.2 v)
    pushValue setup site v
  | .unary op => do
    let v ← popValue site
    let result ← ofResult (op.apply v)
    pushValue setup site result
  | .binary op => do
    let r ← popValue site
    let l ← popValue site
    let result ← combine setup op l r
    pushValue setup site result
  | .cast target => do
    let v ← popValue site
    let result ← cast v target
    pushValue setup site result
  | .instanceOf typeName => do
    let v ← popValue site
    let holds ← testType v typeName
    pushValue setup site (.boolean holds)
  | .matchType typeName binding => do
    let v ← popValue site
    let holds ← testType v typeName
    bindIf holds binding v
    pushValue setup site (.boolean holds)
  | .construct signature argCount => do
    let args ← popArgs site argCount
    let type ← popType site
    let v ← remote (Remote.construct type signature args setup.scope.thread)
    pushValue setup site v
  | .invoke name signature argCount => do
    let args ← popArgs site argCount
    let target ← pop site
    let v ← invoke setup target name signature args
    pushValue setup site v
  | .newArray arrayType => do
    let size ← popValue site
    let length ← arraySize size
    let type ← remote (Remote.classByName arrayType)
    let h ← remote (Remote.newArray type length)
    pushValue setup site (.object h)
  | .dup => do
    let top ← pop site
    push setup site top
    push setup site top
  | .pop => discard <| pop site
  | .jump _ | .jumpIf .. => pure ()

/-- Executes one instruction; a result names the index to go on with. -/
def execute (setup : Setup η κ) (site : Site) : Exec η κ (Option Nat) :=
  match site.instruction with
  | .jump target => pure (some target)
  | .jumpIf expected target => do
    match ← popValue site with
    | .boolean b => return if b = expected then some target else none
    | _ => malformed (.unexpected site.pc site.instruction .boolean)
  | _ => do
    effect setup site
    return none

/-- Looks whether the run has to stop before an index: a cancellation comes before a
deadline. -/
def checkpoint (setup : Setup η κ) (pc : Nat) : Exec η κ Unit := do
  let cancelled ← read fun s => s.world.runs.isCancelled setup.run
  require (!cancelled) .cancelled
  require (!setup.expired pc) .timedOut

/-- Runs the instructions from index `pc` on, after passing over the next `skip` of them. -/
def runFrom (setup : Setup η κ) : Nat → Nat → List Instruction → Exec η κ Unit
  | _, _, [] => return
  | pc, skip + 1, _ :: rest => runFrom setup (pc + 1) skip rest
  | pc, 0, i :: rest => do
    checkpoint setup pc
    match ← execute setup ⟨pc, i⟩ with
    | none => runFrom setup (pc + 1) 0 rest
    | some target => runFrom setup (pc + 1) (target - (pc + 1)) rest

/-- The one value that code has to leave on the stack. -/
def finish (length : Nat) : Exec η κ Value := do
  match ← read State.stack with
  | [.value v] => return v
  | [.type _] => malformed (.typeLeft length)
  | stack => malformed (.resultCount stack.length)

/-- Runs code to its end. Code that may change the debuggee is refused before anything else if
that is not allowed. -/
def runCode (setup : Setup η κ) (code : Code) : Exec η κ Value := do
  require (setup.mayChange || !code.hasSideEffects) (.expression .sideEffectsNotAllowed)
  runFrom setup 0 0 code.instructions
  finish code.length

end Machine

/-- A computation that may end in a failed evaluation. -/
abbrev Evaluation (η κ α : Type) := Action (World η κ) (Abrupt Failure) α

def Machine.run {η κ : Type} (setup : Setup η κ) (code : Code) : Evaluation η κ Value := fun w =>
  let (result, s) := runCode setup code ⟨[], .empty, w⟩
  (result, s.world)

end Probe
