import Probe.Floating.Conversion
import Probe.TypeName

namespace Probe

abbrev ThreadId := Nat

abbrev ObjectId := Nat

abbrev TypeId := Nat

inductive Kind where
  | boolean
  | byte
  | char
  | short
  | int
  | long
  | float
  | double
  deriving Repr, DecidableEq

namespace Kind

def name : Kind → String
  | boolean => "boolean"
  | byte => "byte"
  | char => "char"
  | short => "short"
  | int => "int"
  | long => "long"
  | float => "float"
  | double => "double"

def ofName? (name : String) : Option Kind :=
  match name with
  | "boolean" => some boolean
  | "byte" => some byte
  | "char" => some char
  | "short" => some short
  | "int" => some int
  | "long" => some long
  | "float" => some float
  | "double" => some double
  | _ => none

/-- The letter that stands for the type in a method signature. -/
def signature : Kind → Char
  | boolean => 'Z'
  | byte => 'B'
  | char => 'C'
  | short => 'S'
  | int => 'I'
  | long => 'J'
  | float => 'F'
  | double => 'D'

def isNumeric : Kind → Bool
  | boolean => false
  | _ => true

def isIntegral : Kind → Bool
  | byte | char | short | int | long => true
  | boolean | float | double => false

theorem ofName?_name (k : Kind) : ofName? k.name = some k := by
  cases k <;> rfl

end Kind

def isPrimitiveName (name : String) : Bool := (Kind.ofName? name).isSome

/-- A handle to an object; the type name is what was known when the handle was made. -/
structure Handle where
  id : ObjectId
  typeName : String
  deriving Repr, DecidableEq

namespace Handle

def isString (h : Handle) : Bool := h.typeName == stringType

def isArray (h : Handle) : Bool := TypeName.isArray h.typeName

end Handle

inductive Value where
  | null
  | void
  | boolean (v : Bool)
  | byte (v : Int8)
  /-- One UTF-16 code unit. -/
  | char (v : UInt16)
  | short (v : Int16)
  | int (v : Int32)
  | long (v : Int64)
  | float (v : Float32)
  | double (v : Float)
  | object (h : Handle)
  deriving Inhabited, DecidableEq

namespace Value

def kind? : Value → Option Kind
  | null | void | object _ => none
  | boolean _ => some .boolean
  | byte _ => some .byte
  | char _ => some .char
  | short _ => some .short
  | int _ => some .int
  | long _ => some .long
  | float _ => some .float
  | double _ => some .double

/-- The name of the value's type; an object answers with the type its handle carries. -/
def typeName : Value → String
  | null => "null"
  | void => "void"
  | object h => h.typeName
  | boolean _ => "boolean"
  | byte _ => "byte"
  | char _ => "char"
  | short _ => "short"
  | int _ => "int"
  | long _ => "long"
  | float _ => "float"
  | double _ => "double"

def isNull : Value → Bool
  | null => true
  | _ => false

def handle? : Value → Option Handle
  | object h => some h
  | _ => none

def bool? : Value → Option Bool
  | boolean b => some b
  | _ => none

def isString (v : Value) : Bool := v.handle?.any Handle.isString

/-- Values are equal when their kinds and contents are; objects are compared by id alone, and a
floating value that is not a number differs from itself. -/
protected def beq : Value → Value → Bool
  | null, null => true
  | void, void => true
  | boolean a, boolean b => a == b
  | byte a, byte b => a == b
  | char a, char b => a == b
  | short a, short b => a == b
  | int a, int b => a == b
  | long a, long b => a == b
  | float a, float b => a == b
  | double a, double b => a == b
  | object a, object b => a.id == b.id
  | _, _ => false

instance : BEq Value := ⟨Value.beq⟩

/-- What a value contributes to a hash besides its kind. -/
inductive Content where
  | nothing
  | flag (b : Bool)
  | number (n : Int)
  | bits (n : Nat)
  | identity (id : ObjectId)
  deriving Repr, DecidableEq

/-- The bits of a floating value, with both zeros alike. -/
def floatingContent (x : Float) : Content := .bits (if x == 0.0 then 0 else x.toBits.toNat)

/-- A value's place among the kinds, and its content. -/
def hashed : Value → Nat × Content
  | null => (0, .nothing)
  | void => (1, .nothing)
  | boolean v => (2, .flag v)
  | byte v => (3, .number v.toInt)
  | char v => (4, .number v.toNat)
  | short v => (5, .number v.toInt)
  | int v => (6, .number v.toInt)
  | long v => (7, .number v.toInt)
  | float v => (8, floatingContent (Floating.widen v))
  | double v => (9, floatingContent v)
  | object h => (10, .identity h.id)

/-- What fresh array elements of a type hold. -/
def default (typeName : String) : Value :=
  match Kind.ofName? typeName with
  | some .boolean => .boolean false
  | some .byte => .byte 0
  | some .char => .char 0
  | some .short => .short 0
  | some .int => .int 0
  | some .long => .long 0
  | some .float => .float 0
  | some .double => .double 0
  | none => .null

end Value

inductive TypeSort where
  | classType
  | interfaceType
  | arrayType
  deriving Repr, DecidableEq

structure TypeRef where
  id : TypeId
  name : String
  sort : TypeSort
  deriving Repr, DecidableEq

/-- A method by its declaring type, name and signature. -/
structure MethodId where
  declaringType : String
  name : String
  signature : String
  deriving Repr, DecidableEq

def MethodId.text (m : MethodId) : String := m.declaringType ++ "." ++ m.name ++ m.signature

end Probe
