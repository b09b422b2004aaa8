import Probe.Code.Instruction
import Probe.Debuggee.Class
import Probe.Error.Remote
import Probe.Event
import Probe.Evaluator

namespace Probe.Script

/-- A value, or the name that an earlier command gave to one. -/
inductive Term where
  | literal (value : Value)
  | bound (name : String)

/-- A loaded type, or the name to look it up by. -/
inductive TypeTerm where
  | loaded (type : TypeRef)
  | named (name : String)

inductive CodeTerm where
  | plain (instruction : Instruction)
  | pushBound (name : String)

/-- What a scripted method does; `η` stands for the commands it may run. -/
inductive BehaviorSpec (η : Type) where
  | returns (value : Term)
  | returnsString (text : String)
  | throws (typeName : String)
  | runs (hook : η)

structure MethodSpec (η : Type) where
  name : String
  signature : String
  behavior : BehaviorSpec η

structure ClassSpec (η : Type) where
  name : String
  isInterface : Bool := false
  /-- The superclass to set or clear; the usual one is kept if nothing is said. -/
  superclass : Option (Option String) := none
  interfaces : List String := []
  constructors : List String := []
  fields : List (String × Term) := []
  statics : List (String × Term) := []
  methods : List (MethodSpec η) := []

structure FrameSpec where
  method : MethodId
  locals : List (String × Term)

/-- How the commands of a method end. -/
inductive Reply where
  | value (value : Term)
  /-- Returns an argument, or nothing if there are fewer. -/
  | argument (index : Nat)
  | argumentCount
  | error (error : RemoteError)
  | crash

inductive Property where
  | this
  | receivingType
  | locals
  | declared (name : String)
  | isConstructor
  | project
  | thread
  | frame

inductive Mode where
  | now
  | session
  /-- Runs the machine without lease and deadline. -/
  | bare (cancelled : Bool) (maxStack : Nat) (tracking : Bool)

/-- The cause of a stop, with a term for the value it carries. -/
inductive CauseTerm where
  | step
  | breakpoint
  | watchpoint
  | methodExit (value : Term)
  | exception (exception : Term) (caught : Bool)

structure ScopeSpec where
  name : String
  thread : ThreadId
  type : TypeTerm
  this : Option Term := none
  frame : Nat := 0
  locals : List LocalVariable := []
  project : String := ""
  isConstructor : Bool := false

inductive Request where
  | makeString (text : String)
  | classByName (name : String)
  | typeOf (object : Term)
  | isAssignable (object : Term) (type : TypeTerm)
  | construct (type : TypeTerm) (signature : String) (args : List Term) (thread : ThreadId)
  | invokeMethod (object : Term) (name signature : String) (args : List Term) (thread : ThreadId)
  | invokeStatic (type : TypeTerm) (name signature : String) (args : List Term) (thread : ThreadId)
  | declaringType (type : TypeTerm) (name signature : String)
  | getField (object : Term) (name : String)
  | setField (object : Term) (name : String) (value : Term)
  | getStatic (type : TypeTerm) (name : String)
  | setStatic (type : TypeTerm) (name : String) (value : Term)
  | arrayLength (object : Term)
  | getElement (object : Term) (index : Nat)
  | setElement (object : Term) (index : Nat) (value : Term)
  | newArray (type : TypeTerm) (length : Nat)
  | stringText (object : Term)
  | getLocal (thread : ThreadId) (frame : Nat) (name : String)
  | setLocal (thread : ThreadId) (frame : Nat) (name : String) (value : Term)
  | frameCount (thread : ThreadId)
  | isSuspended (thread : ThreadId)

/-- Changes of the debuggee from outside, and looks at it. -/
inductive Control where
  | addThread (thread : ThreadId) (frames : List FrameSpec)
  | resume (thread : ThreadId)
  | suspend (thread : ThreadId) (byEvent : Bool)
  | disconnect
  | terminate
  | newObject (typeName : String)
  | newString (text : String)
  | newArrayOf (typeName : String) (elements : List Term)
  | peekField (object : Term) (name : String)
  | peekLocal (thread : ThreadId) (name : String)

inductive Debug where
  | newEvaluator (settings : Settings) (tracking : Bool)
  | makeScope (spec : ScopeSpec)
  | lookScope (scope : String) (property : Property)
  | evaluate (scope : String) (code : List CodeTerm) (purpose : Purpose) (mode : Mode)
  | isBusy (thread : ThreadId)
  | cancel (thread : ThreadId)
  | display (thread : ThreadId) (value : Term)

inductive Track where
  | expect (expectation : Expectation)
  | observe (thread : ThreadId) (depth : Nat) (method : MethodId) (cause : CauseTerm)
  | take (token : Token)
  | isPending (token : Token)
  | abandon (token : Token)
  | abandonThread (thread : ThreadId)

mutual

inductive Command where
  | addClass (spec : ClassSpec Hook)
  | control (command : Control)
  | request (command : Request)
  | debug (command : Debug)
  | track (command : Track)

/-- The commands a method runs and how it ends; a value answered by a command may get a name. -/
inductive Hook where
  | mk (steps : List (Command × Option String)) (reply : Reply)

end

abbrev Step := Command × Option String

end Probe.Script
