import Probe.Debuggee.Remote

namespace Probe

/-- A declared variable; its value is always asked from the debuggee. -/
structure LocalVariable where
  name : String
  declaredType : String
  deriving Repr, DecidableEq

/-- A frame of a thread as an expression sees it. Scopes that clients make up in other ways, and
that may answer differently each time, are left out. -/
structure Scope where
  thread : ThreadId
  receivingType : TypeRef
  this : Option Handle := none
  /-- The distance from the top frame. -/
  frame : Nat := 0
  locals : List LocalVariable := []
  project : String := ""
  isConstructor : Bool := false
  deriving Repr, DecidableEq

namespace Scope

variable {η α : Type}

def local? (s : Scope) (name : String) : Option LocalVariable :=
  s.locals.find? (·.name == name)

/-- Reads a property of the scope, which counts only while the thread is suspended. -/
def look (s : Scope) (property : Scope → α) : Remote η α := do
  let suspended ← Remote.isSuspended s.thread
  Action.require suspended (.notSuspended s.thread)
  return property s

end Scope

end Probe
