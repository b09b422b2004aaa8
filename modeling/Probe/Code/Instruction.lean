import Probe.Operator.Symbol
import Probe.Value.Describe

namespace Probe

inductive CastTarget where
  | primitive (kind : Kind)
  | reference (typeName : String)
  deriving Repr, DecidableEq

namespace CastTarget

def ofName (name : String) : CastTarget :=
  match Kind.ofName? name with
  | some kind => primitive kind
  | none => reference name

def text : CastTarget → String
  | primitive kind => kind.name
  | reference typeName => typeName

end CastTarget

inductive Instruction where
  | push (value : Value)
  /-- Pushes a string made in the debuggee. -/
  | pushString (text : String)
  | pushNull
  | pushThis
  | pushType (name : String)
  | pushVariable (name : String)
  | pushField (name : String)
  | pushStatic (typeName name : String)
  | loadElement
  | arrayLength
  | storeVariable (name : String)
  | storeField (name : String)
  | storeStatic (typeName name : String)
  | storeElement
  | unary (op : UnaryOp)
  | binary (op : BinaryOp)
  | cast (target : CastTarget)
  | instanceOf (typeName : String)
  /-- Tests a type and binds the tested value to a name if the test holds. -/
  | matchType (typeName binding : String)
  | construct (signature : String) (argCount : Nat)
  /-- Calls a method; a type as receiver makes the call static. -/
  | invoke (name signature : String) (argCount : Nat)
  | newArray (arrayType : String)
  | dup
  | pop
  | jump (target : Nat)
  /-- Jumps when the condition on top equals `expected`. -/
  | jumpIf (expected : Bool) (target : Nat)
  deriving DecidableEq

namespace Instruction

def target? : Instruction → Option Nat
  | jump target | jumpIf _ target => some target
  | _ => none

def hasSideEffects : Instruction → Bool
  | construct .. | invoke .. | newArray _ | storeVariable _ | storeField _ | storeStatic ..
  | storeElement => true
  | _ => false

def text : Instruction → String
  | push value => "push " ++ value.describe
  | pushString text => "push " ++ Text.quoted text
  | pushNull => "push null"
  | pushThis => "push this"
  | pushType name => "push type " ++ name
  | pushVariable name => "push variable " ++ name
  | pushField name => "push field " ++ name
  | pushStatic typeName name => s!"push static field {typeName}.{name}"
  | loadElement => "array access"
  | arrayLength => "array length"
  | storeVariable name => "store variable " ++ name
  | storeField name => "store field " ++ name
  | storeStatic typeName name => s!"store static field {typeName}.{name}"
  | storeElement => "store array element"
  | unary op => "'" ++ op.symbol ++ "' operator"
  | binary op => "'" ++ op.symbol ++ "' operator"
  | cast target => "cast to " ++ target.text
  | instanceOf typeName => "instanceof " ++ typeName
  | matchType typeName binding => s!"instanceof {typeName} {binding}"
  | construct signature _ => "constructor " ++ signature
  | invoke name signature _ => s!"send message {name}{signature}"
  | newArray arrayType => "new array " ++ arrayType
  | dup => "dup"
  | pop => "pop"
  | jump target => s!"jump {target}"
  | jumpIf true target => s!"jump if true {target}"
  | jumpIf false target => s!"jump if false {target}"

end Instruction

end Probe
