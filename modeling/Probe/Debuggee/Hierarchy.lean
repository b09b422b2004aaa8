import Probe.Debuggee.Class
import Probe.Table

namespace Probe

/-- A loaded class with the current values of its static fields. -/
structure LoadedClass (η : Type) where
  id : TypeId
  definition : ClassDef η
  statics : Table String Value

abbrev ClassTable (η : Type) := Table String (LoadedClass η)

namespace ClassTable

variable {η : Type}

/-- The direct supertypes of a class: its superclass, then its interfaces in order. -/
def supertypes (c : ClassTable η) (name : String) : List String :=
  match c.get? name with
  | none => []
  | some entry => entry.definition.superclass.toList ++ entry.definition.interfaces

/-- Visits at most `n` more classes, depth first; names that are not loaded or already visited
are passed over. Classes are told apart by name, which comes to the same as by id: no two share
one. -/
def visit (c : ClassTable η) : Nat → List String → List String → List String
  | 0, _, seen => seen
  | n + 1, pending, seen =>
    match pending.dropWhile fun name => !c.contains name || seen.contains name with
    | [] => seen
    | name :: rest => visit c n (c.supertypes name ++ rest) (seen ++ [name])

/-- A class and all its loaded supertypes in look-up order, most specific first. -/
def ancestry (c : ClassTable η) (name : String) : List String := c.visit c.size [name] []

/-- Subtyping of `a` with `n` array dimensions below `b` with `m`. Arrays are covariant in their
component unless that is primitive. -/
def subtype (c : ClassTable η) (a b : String) : Nat → Nat → Bool
  | n + 1, m + 1 =>
    if (n == 0 && isPrimitiveName a) || (m == 0 && isPrimitiveName b) then a == b && n == m
    else subtype c a b n m
  | n, m =>
    let sub := TypeName.text ⟨a, n⟩
    let sup := TypeName.text ⟨b, m⟩
    sub == sup ||
      if sup == objectType then !isPrimitiveName sub else (c.ancestry sub).contains sup

def isSubtype (c : ClassTable η) (sub sup : String) : Bool :=
  let a := TypeName.parse sub
  let b := TypeName.parse sup
  c.subtype a.element b.element a.depth b.depth

/-- The fields a new object starts with; the most specific class that declares a field
decides. -/
def initialFields (c : ClassTable η) (typeName : String) : Table String Value :=
  (c.ancestry typeName).reverse.foldl
    (fun fields name => match c.get? name with
      | some entry => fields.insertAll entry.definition.fields
      | none => fields)
    .empty

def ownMethod? (c : ClassTable η) (className name signature : String) : Option (Method η) :=
  (c.get? className).bind fun entry =>
    entry.definition.methods.find? fun m => m.name == name && m.signature == signature

/-- The first class in look-up order that declares a method, and what the method does. -/
def resolveMethod (c : ClassTable η) (typeName name signature : String) :
    Option (String × Behavior η) :=
  (c.ancestry typeName).findSome? fun className =>
    (c.ownMethod? className name signature).map fun m => (className, m.behavior)

/-- The first class in look-up order that holds a static field, and the field's value. -/
def resolveStatic (c : ClassTable η) (typeName name : String) : Option (String × Value) :=
  (c.ancestry typeName).findSome? fun className =>
    ((c.get? className).bind (·.statics.get? name)).map fun value => (className, value)

def putStatic (c : ClassTable η) (owner name : String) (value : Value) : ClassTable η :=
  match c.get? owner with
  | some entry => c.insert owner { entry with statics := entry.statics.insert name value }
  | none => c

end ClassTable

end Probe
