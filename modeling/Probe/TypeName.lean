namespace Probe

/-- A type name split into the part before its trailing `[]` pairs and their number. -/
structure TypeName where
  element : String
  depth : Nat
  deriving Repr, DecidableEq

namespace TypeName

/-- Takes `[]` pairs off the end of a reversed name. -/
def unbracket : List Char → Nat × List Char
  | ']' :: '[' :: rest => ((unbracket rest).1 + 1, (unbracket rest).2)
  | cs => (0, cs)

def parse (name : String) : TypeName :=
  let split := unbracket name.toList.reverse
  ⟨String.ofList split.2.reverse, split.1⟩

def brackets : Nat → List Char
  | 0 => []
  | n + 1 => '[' :: ']' :: brackets n

def text (t : TypeName) : String := String.ofList (t.element.toList ++ brackets t.depth)

/-- The name of the component type of an array type. -/
def component? (name : String) : Option String :=
  match parse name with
  | ⟨_, 0⟩ => none
  | ⟨element, n + 1⟩ => some (text ⟨element, n⟩)

def isArray (name : String) : Bool := (parse name).depth != 0

end TypeName

def objectType : String := "java.lang.Object"

def stringType : String := "java.lang.String"

end Probe
