import Probe.Debuggee.State

namespace Probe

abbrev Remote (η α : Type) := Action (Debuggee η) RemoteError α

namespace Remote

open Probe.Action (fail read modify demand require)

variable {η α : Type}

/-- Runs a change of the debuggee that cannot fail. -/
def change (f : Debuggee η → α × Debuggee η) : Remote η α := fun d => (.ok (f d).1, (f d).2)

def log (entry : String) : Remote η Unit := modify (·.log entry)

/-- A debuggee that has ended is reported as such even if the connection is lost as well. -/
def checkAlive : Remote η Unit := fun d =>
  (if !d.alive then .error .terminated
    else if !d.connected then .error .disconnected
    else .ok (), d)

def suspendedThread (thread : ThreadId) : Remote η Thread := do
  checkAlive
  demand (fun d => (d.threads.get? thread).filter (·.suspended)) (.notSuspended thread)

/-- Only a thread that an event has suspended can run methods. -/
def checkInvocable (thread : ThreadId) : Remote η Unit := do
  let t ← suspendedThread thread
  require t.byEvent (.notAtEvent thread)

def heapObject (h : Handle) : Remote η HeapObject := do
  checkAlive
  demand (fun d => d.objects.get? h.id) (.invalidObject h.id)

/-- The handle of an array type, which gets an id when it is first asked for. -/
def arrayType (name : String) : Remote η TypeRef := fun d =>
  match d.arrayTypes.get? name with
  | some id => (.ok ⟨id, name, .arrayType⟩, d)
  | none =>
    (.ok ⟨d.nextId, name, .arrayType⟩,
      { d with nextId := d.nextId + 1, arrayTypes := d.arrayTypes.insert name d.nextId })

/-- The handle of an element type with a number of array dimensions; all component types have to
be loadable. -/
def resolveType (element : String) : Nat → Remote η TypeRef
  | 0 => do
    let entry ← demand (fun d => d.classes.get? element) (.classNotLoaded element)
    return Debuggee.classRef entry.id entry.definition element
  | n + 1 => do
    let name := TypeName.text ⟨element, n + 1⟩
    match ← read fun d => d.classes.get? name with
    | some entry => return Debuggee.classRef entry.id entry.definition name
    | none =>
      if n == 0 && isPrimitiveName element then arrayType name
      else do
        discard <| resolveType element n
        arrayType name

def typeNamed (name : String) : Remote η TypeRef :=
  let t := TypeName.parse name
  resolveType t.element t.depth

def classByName (name : String) : Remote η TypeRef := do
  checkAlive
  typeNamed name

def typeOf (h : Handle) : Remote η TypeRef := do
  typeNamed (← heapObject h).typeName

def isAssignable (h : Handle) (type : TypeRef) : Remote η Bool := do
  let object ← heapObject h
  read fun d => d.classes.isSubtype object.typeName type.name

def makeString (text : String) : Remote η Handle := do
  checkAlive
  change (·.newString text)

/-- Makes an object with a declared constructor. -/
def construct (type : TypeRef) (signature : String) (args : List Value) (thread : ThreadId) :
    Remote η Value := do
  checkInvocable thread
  let entry ← demand (fun d => d.classes.get? type.name) (.classNotLoaded type.name)
  require (!entry.definition.isInterface) (.invalidType (type.name ++ " is an interface"))
  require (entry.definition.constructors.contains signature)
    (.noSuchMethod type.name "<init>" signature)
  log ("new " ++ type.name ++ signature ++ " " ++ describeValues args)
  return .object (← change (·.newObject type.name))

/-- Every object answers to this method even if no class declares it. -/
def isToString (name signature : String) : Bool :=
  name == "toString" && signature == "()Ljava/lang/String;"

/-- What a call leads to once its method is found. -/
inductive Callee (η : Type) where
  | declared (behavior : Behavior η)
  | answer (value : Value)

/-- A string answers with itself, any other object with its type and id. -/
def builtInToString (h : Handle) (object : HeapObject) : Callee η :=
  match object.content with
  | .text _ => .answer (.object h)
  | _ => .declared (.returnsString
    (object.typeName ++ "@" ++ String.ofList (Nat.toDigits 16 h.id)))

/-- Logs a call to an object and finds the method that answers it. -/
def selectInstance (h : Handle) (name signature : String) (args : List Value)
    (thread : ThreadId) : Remote η (Callee η) := do
  checkInvocable thread
  let object ← heapObject h
  log ("invoke " ++ object.typeName ++ "." ++ name ++ signature ++ " " ++ describeValues args)
  match ← read fun d => d.classes.resolveMethod object.typeName name signature with
  | some (_, behavior) => return .declared behavior
  | none =>
    require (isToString name signature) (.noSuchMethod object.typeName name signature)
    return builtInToString h object

/-- Logs a static call and finds the method that answers it. -/
def selectStatic (type : TypeRef) (name signature : String) (args : List Value)
    (thread : ThreadId) : Remote η (Callee η) := do
  checkInvocable thread
  log ("invokestatic " ++ type.name ++ "." ++ name ++ signature ++ " " ++ describeValues args)
  let found ← demand (fun d => d.classes.resolveMethod type.name name signature)
    (.noSuchMethod type.name name signature)
  return .declared found.2

/-- The type that declares the method a call on `type` would run. -/
def declaringType (type : TypeRef) (name signature : String) : Remote η TypeRef := do
  checkAlive
  match ← read fun d => d.classes.resolveMethod type.name name signature with
  | some (declaring, _) => typeNamed declaring
  | none =>
    require (isToString name signature) (.noSuchMethod type.name name signature)
    typeNamed (if type.name == stringType then stringType else objectType)

def getField (h : Handle) (name : String) : Remote η Value := do
  let object ← heapObject h
  match object.content.fields?.bind (·.get? name) with
  | some value => return value
  | none => fail (.noSuchField h.typeName name)

def setContent (h : Handle) (object : HeapObject) (content : HeapContent) : Remote η Unit :=
  modify fun d => { d with objects := d.objects.insert h.id { object with content } }

def setField (h : Handle) (name : String) (value : Value) : Remote η Unit := do
  let object ← heapObject h
  match object.content.fields?.filter (·.contains name) with
  | some fields =>
    setContent h object (.fields (fields.insert name value))
    log ("set " ++ h.typeName ++ "." ++ name ++ " = " ++ value.describe)
  | none => fail (.noSuchField h.typeName name)

def getStatic (type : TypeRef) (name : String) : Remote η Value := do
  checkAlive
  return (← demand (fun d => d.classes.resolveStatic type.name name)
    (.noSuchField type.name name)).2

def setStatic (type : TypeRef) (name : String) (value : Value) : Remote η Unit := do
  checkAlive
  let owner := (← demand (fun d => d.classes.resolveStatic type.name name)
    (.noSuchField type.name name)).1
  modify fun d => { d with classes := d.classes.putStatic owner name value }
  log ("set " ++ owner ++ "." ++ name ++ " = " ++ value.describe)

def elements (h : Handle) : Remote η (List Value) := do
  match (← heapObject h).content with
  | .elements elements => return elements
  | _ => fail (.invalidType (h.typeName ++ " is not an array"))

def arrayLength (h : Handle) : Remote η Nat := return (← elements h).length

/-- An index is reported as a signed number of 64 bits. -/
def badIndex (index length : Nat) : RemoteError :=
  .invalidIndex ((index : Int).bmod 0x10000000000000000) length

def getElement (h : Handle) (index : Nat) : Remote η Value := do
  let elements ← elements h
  match elements[index]? with
  | some value => return value
  | none => fail (badIndex index elements.length)

def setElement (h : Handle) (index : Nat) (value : Value) : Remote η Unit := do
  let object ← heapObject h
  match object.content with
  | .elements elements =>
    require (index < elements.length) (badIndex index elements.length)
    setContent h object (.elements (elements.set index value))
    log ("set " ++ h.typeName ++ "[" ++ toString index ++ "] = " ++ value.describe)
  | _ => fail (.invalidType (h.typeName ++ " is not an array"))

def newArray (type : TypeRef) (length : Nat) : Remote η Handle := do
  checkAlive
  match TypeName.component? type.name with
  | none => fail (.invalidType (type.name ++ " is not an array type"))
  | some component =>
    log ("new " ++ component ++ "[" ++ toString length ++ "]")
    change (·.newArrayOf type.name (List.replicate length (.default component)))

def stringText (h : Handle) : Remote η String := do
  match (← heapObject h).content with
  | .text text => return text
  | _ => fail (.invalidType (h.typeName ++ " is not a string"))

/-- The frame at a distance from the top, with the position it has in the thread. -/
def frameAt (thread : ThreadId) (frame : Nat) : Remote η (Thread × Nat × CallFrame) := do
  let t ← suspendedThread thread
  let position := t.frames.length - 1 - frame
  match if frame < t.frames.length then t.frames[position]? else none with
  | some f => return (t, position, f)
  | none => fail (.other s!"frame {frame} out of range for thread {thread}")

def getLocal (thread : ThreadId) (frame : Nat) (name : String) : Remote η Value := do
  let (_, _, f) ← frameAt thread frame
  match f.locals.get? name with
  | some value => return value
  | none => fail (.other s!"no local variable `{name}`")

def setLocal (thread : ThreadId) (frame : Nat) (name : String) (value : Value) :
    Remote η Unit := do
  let (t, position, f) ← frameAt thread frame
  require (f.locals.contains name) (.other s!"no local variable `{name}`")
  let changed := { f with locals := f.locals.insert name value }
  let t := { t with frames := t.frames.set position changed }
  modify fun d => { d with threads := d.threads.insert thread t }
  log ("set local " ++ name ++ " = " ++ value.describe)

def frameCount (thread : ThreadId) : Remote η Nat :=
  return (← suspendedThread thread).frames.length

/-- Whether a thread is suspended; an unknown thread is not. -/
def isSuspended (thread : ThreadId) : Remote η Bool := do
  checkAlive
  read fun d => (d.threads.get? thread).any (·.suspended)

end Remote

end Probe
