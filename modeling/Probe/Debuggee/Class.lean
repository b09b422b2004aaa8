import Probe.Value.Describe

namespace Probe

open Text (quoted)

/-- What a method does when it is invoked; `η` labels the hooks of the client. -/
inductive Behavior (η : Type) where
  | returns (value : Value)
  /-- Returns a new string object. -/
  | returnsString (text : String)
  /-- Throws a new object of the named type. -/
  | throws (typeName : String)
  | hook (label : η)

structure Method (η : Type) where
  name : String
  signature : String
  behavior : Behavior η

structure ClassDef (η : Type) where
  name : String
  superclass : Option String := some objectType
  interfaces : List String := []
  isInterface : Bool := false
  constructors : List String := []
  /-- Instance fields with the values they start with. -/
  fields : List (String × Value) := []
  statics : List (String × Value) := []
  methods : List (Method η) := []

variable {η : Type}

def Behavior.describe : Behavior η → String
  | returns value => "Return(" ++ value.describe ++ ")"
  | returnsString text => "ReturnString(" ++ quoted text ++ ")"
  | throws typeName => "Throw(" ++ quoted typeName ++ ")"
  | hook _ => "Hook(..)"

def Method.describe (m : Method η) : String :=
  "(" ++ quoted m.name ++ ", " ++ quoted m.signature ++ ", " ++ m.behavior.describe ++ ")"

def describeField (f : String × Value) : String :=
  "(" ++ quoted f.1 ++ ", " ++ f.2.describe ++ ")"

def describeOption : Option String → String
  | none => "None"
  | some text => "Some(" ++ quoted text ++ ")"

/-- An interface of the given name, which has no superclass. -/
def ClassDef.interface (name : String) : ClassDef η :=
  { name, superclass := none, isInterface := true }

def ClassDef.describe (c : ClassDef η) : String :=
  "MockClass \x7b name: " ++ quoted c.name ++
    ", superclass: " ++ describeOption c.superclass ++
    ", interfaces: " ++ describeList (c.interfaces.map quoted) ++
    ", is_interface: " ++ (if c.isInterface then "true" else "false") ++
    ", constructors: " ++ describeList (c.constructors.map quoted) ++
    ", fields: " ++ describeList (c.fields.map describeField) ++
    ", static_fields: " ++ describeList (c.statics.map describeField) ++
    ", methods: " ++ describeList (c.methods.map Method.describe) ++ " \x7d"

end Probe
