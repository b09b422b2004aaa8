import Probe.Action
import Probe.Debuggee.Hierarchy
import Probe.Error.Remote

namespace Probe

inductive HeapContent where
  | fields (fields : Table String Value)
  | text (text : String)
  | elements (elements : List Value)
  deriving DecidableEq

/-- The fields of an object; strings and arrays have none. -/
def HeapContent.fields? : HeapContent → Option (Table String Value)
  | .fields t => some t
  | _ => none

structure HeapObject where
  typeName : String
  content : HeapContent
  deriving DecidableEq

structure CallFrame where
  method : MethodId
  locals : Table String Value
  deriving DecidableEq

structure Thread where
  suspended : Bool
  /-- Only a thread that an event has suspended can run methods. -/
  byEvent : Bool
  /-- The bottom frame comes first. -/
  frames : List CallFrame
  deriving DecidableEq

structure Debuggee (η : Type) where
  connected : Bool
  alive : Bool
  nextId : Nat
  classes : ClassTable η
  arrayTypes : Table String TypeId
  objects : Table ObjectId HeapObject
  threads : Table ThreadId Thread
  /-- Everything that was run or written, oldest first. -/
  calls : List String

namespace Debuggee

variable {η : Type}

/-- A debuggee before any class is loaded. -/
def blank : Debuggee η := ⟨true, true, 1, .empty, .empty, .empty, .empty, []⟩

def classRef (id : TypeId) (c : ClassDef η) (name : String) : TypeRef :=
  ⟨id, name, if c.isInterface then .interfaceType else .classType⟩

/-- Loads a class, in place of one of the same name. -/
def addClass (d : Debuggee η) (c : ClassDef η) : TypeRef × Debuggee η :=
  (classRef d.nextId c c.name,
    { d with
      nextId := d.nextId + 1
      classes := d.classes.insert c.name ⟨d.nextId, c, .ofList c.statics⟩ })

/-- A debuggee with the two classes that are always there. -/
def initial : Debuggee η :=
  let d := (blank.addClass { name := objectType, superclass := none }).2
  (d.addClass { name := stringType }).2

/-- Adds a thread that an event has suspended. -/
def addThread (d : Debuggee η) (thread : ThreadId) (frames : List CallFrame) : Debuggee η :=
  { d with threads := d.threads.insert thread ⟨true, true, frames⟩ }

def resume (d : Debuggee η) (thread : ThreadId) : Debuggee η :=
  match d.threads.get? thread with
  | some t => { d with threads := d.threads.insert thread { t with suspended := false } }
  | none => d

def suspend (d : Debuggee η) (thread : ThreadId) (byEvent : Bool) : Debuggee η :=
  match d.threads.get? thread with
  | some t => { d with threads := d.threads.insert thread { t with suspended := true, byEvent } }
  | none => d

def disconnect (d : Debuggee η) : Debuggee η := { d with connected := false }

def terminate (d : Debuggee η) : Debuggee η := { d with alive := false }

def allocate (d : Debuggee η) (typeName : String) (content : HeapContent) :
    Handle × Debuggee η :=
  (⟨d.nextId, typeName⟩,
    { d with
      nextId := d.nextId + 1
      objects := d.objects.insert d.nextId ⟨typeName, content⟩ })

def newObject (d : Debuggee η) (typeName : String) : Handle × Debuggee η :=
  d.allocate typeName (.fields (d.classes.initialFields typeName))

def newString (d : Debuggee η) (text : String) : Handle × Debuggee η :=
  d.allocate stringType (.text text)

def newArrayOf (d : Debuggee η) (typeName : String) (elements : List Value) :
    Handle × Debuggee η :=
  d.allocate typeName (.elements elements)

/-- A field as it is, whatever the state of the connection. -/
def peekField? (d : Debuggee η) (h : Handle) (name : String) : Option Value :=
  (d.objects.get? h.id).bind fun object => object.content.fields?.bind (·.get? name)

/-- A local variable of the top frame as it is. -/
def peekLocal? (d : Debuggee η) (thread : ThreadId) (name : String) : Option Value :=
  (d.threads.get? thread).bind fun t => t.frames.getLast?.bind fun f => f.locals.get? name

def log (d : Debuggee η) (entry : String) : Debuggee η := { d with calls := d.calls ++ [entry] }

end Debuggee

end Probe
