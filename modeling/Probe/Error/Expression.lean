import Probe.Value.Basic

namespace Probe

inductive NullUse where
  | readField (name : String)
  | assignField (name : String)
  | invoke (name : String)
  | loadElement
  | readLength
  | storeElement
  deriving Repr, DecidableEq

def NullUse.text : NullUse → String
  | readField name => s!"read field `{name}`"
  | assignField name => s!"assign field `{name}`"
  | invoke name => s!"invoke `{name}`"
  | loadElement => "load from a null array"
  | readLength => "read the length of a null array"
  | storeElement => "store into a null array"

inductive TypeMisuse where
  | notAnArray (typeName : String)
  | index (typeName : String)
  | arraySize (typeName : String)
  | primitiveReceiver (name signature typeName : String)
  /-- A misuse that the debuggee put into words. -/
  | reported (message : String)
  deriving Repr, DecidableEq

def TypeMisuse.text : TypeMisuse → String
  | notAnArray typeName =>
    s!"the type of the expression must be an array type but it resolved to {typeName}"
  | index typeName => s!"array index must be an int, found {typeName}"
  | arraySize typeName => s!"array size must be an int, found {typeName}"
  | primitiveReceiver name signature typeName =>
    s!"cannot invoke {name}{signature} on the primitive type {typeName}"
  | reported message => message

inductive ExpressionError where
  | divisionByZero
  | classCast (source target : String)
  | noSuchConstructor (typeName signature : String)
  | noSuchMethod (typeName name signature : String)
  | noSuchField (typeName name : String)
  | unresolvedName (name : String)
  | unknownType (name : String)
  | noReceiver
  | nullPointer (use : NullUse)
  | indexOutOfBounds (index : Int) (length : Nat)
  | negativeArraySize (size : Int)
  | invalidOperand (operator : String) (operands : List String)
  | invalidType (misuse : TypeMisuse)
  | exception (typeName : String)
  | notAtEvent (thread : ThreadId)
  | sideEffectsNotAllowed
  deriving Repr, DecidableEq

def ExpressionError.message : ExpressionError → String
  | divisionByZero => "/ by zero"
  | classCast source target => s!"{source} cannot be cast to {target}"
  | noSuchConstructor typeName signature => s!"no applicable constructor {signature} in {typeName}"
  | noSuchMethod typeName name signature => s!"no applicable method {name}{signature} in {typeName}"
  | noSuchField typeName name => s!"{typeName} has no field `{name}`"
  | unresolvedName name => s!"`{name}` cannot be resolved to a variable"
  | unknownType name => s!"type {name} is not loaded in the target VM"
  | noReceiver => "`this` is not available in a static context"
  | nullPointer use => "null pointer: cannot " ++ use.text
  | indexOutOfBounds index length => s!"index {index} out of bounds for length {length}"
  | negativeArraySize size => s!"negative array size {size}"
  | invalidOperand operator operands =>
    "operator " ++ operator ++ " is undefined for " ++ ", ".intercalate operands
  | invalidType misuse => misuse.text
  | exception typeName => s!"method invocation threw {typeName}"
  | notAtEvent thread => s!"thread {thread} must be suspended by an event to invoke methods"
  | sideEffectsNotAllowed => "expression has side effects, which are not allowed in this context"

end Probe
