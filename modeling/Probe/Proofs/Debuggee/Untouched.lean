import Mathlib.Logic.Relation
import Probe.Proofs.Debuggee.Requests

namespace Probe
set_option autoImplicit true

open Probe.Action (Keeps)

/-- Everything a debugger can ask of the debuggee, by the type of the answer. -/
inductive Request (η : Type) : Type → Type where
  | makeString (text : String) : Request η Handle
  | classByName (name : String) : Request η TypeRef
  | typeOf (h : Handle) : Request η TypeRef
  | isAssignable (h : Handle) (type : TypeRef) : Request η Bool
  | construct (type : TypeRef) (signature : String) (args : List Value) (thread : ThreadId) :
    Request η Value
  | selectInstance (h : Handle) (name signature : String) (args : List Value)
    (thread : ThreadId) : Request η (Remote.Callee η)
  | selectStatic (type : TypeRef) (name signature : String) (args : List Value)
    (thread : ThreadId) : Request η (Remote.Callee η)
  | declaringType (type : TypeRef) (name signature : String) : Request η TypeRef
  | getField (h : Handle) (name : String) : Request η Value
  | setField (h : Handle) (name : String) (value : Value) : Request η Unit
  | getStatic (type : TypeRef) (name : String) : Request η Value
  | setStatic (type : TypeRef) (name : String) (value : Value) : Request η Unit
  | arrayLength (h : Handle) : Request η Nat
  | getElement (h : Handle) (index : Nat) : Request η Value
  | setElement (h : Handle) (index : Nat) (value : Value) : Request η Unit
  | newArray (type : TypeRef) (length : Nat) : Request η Handle
  | stringText (h : Handle) : Request η String
  | getLocal (thread : ThreadId) (frame : Nat) (name : String) : Request η Value
  | setLocal (thread : ThreadId) (frame : Nat) (name : String) (value : Value) : Request η Unit
  | frameCount (thread : ThreadId) : Request η Nat
  | isSuspended (thread : ThreadId) : Request η Bool

def Request.send : Request η α → Remote η α
  | makeString text => Remote.makeString text
  | classByName name => Remote.classByName name
  | typeOf h => Remote.typeOf h
  | isAssignable h type => Remote.isAssignable h type
  | construct type signature args thread => Remote.construct type signature args thread
  | selectInstance h name signature args thread =>
    Remote.selectInstance h name signature args thread
  | selectStatic type name signature args thread =>
    Remote.selectStatic type name signature args thread
  | declaringType type name signature => Remote.declaringType type name signature
  | getField h name => Remote.getField h name
  | setField h name value => Remote.setField h name value
  | getStatic type name => Remote.getStatic type name
  | setStatic type name value => Remote.setStatic type name value
  | arrayLength h => Remote.arrayLength h
  | getElement h index => Remote.getElement h index
  | setElement h index value => Remote.setElement h index value
  | newArray type length => Remote.newArray type length
  | stringText h => Remote.stringText h
  | getLocal thread frame name => Remote.getLocal thread frame name
  | setLocal thread frame name value => Remote.setLocal thread frame name value
  | frameCount thread => Remote.frameCount thread
  | isSuspended thread => Remote.isSuspended thread

/-- The request makes additions at most. -/
def Request.looks : Request η α → Bool
  | construct .. | selectInstance .. | selectStatic .. | setField .. | setStatic .. => false
  | setElement .. | newArray .. | setLocal .. => false
  | _ => true

def Request.writesContent : Request η α → Bool
  | setField .. => true
  | setElement .. => true
  | _ => false

open Remote in
theorem Request.keeps_send_of_looks {R : Debuggee η → Debuggee η → Prop}
    [IsPreorder (Debuggee η) R] (hR : AllowsAdditions R) (r : Request η α)
    (hr : r.looks = true) :
    Keeps R r.send := by
  cases r with
  | makeString text => exact keeps_makeString hR text
  | classByName name => exact keeps_classByName hR name
  | typeOf h => exact keeps_typeOf hR h
  | declaringType type name signature => exact keeps_declaringType hR type name signature
  | isAssignable h type => exact .of_silent (silent_isAssignable h type)
  | getField h name => exact .of_silent (silent_getField h name)
  | getStatic type name => exact .of_silent (silent_getStatic type name)
  | arrayLength h => exact .of_silent (silent_arrayLength h)
  | getElement h index => exact .of_silent (silent_getElement h index)
  | stringText h => exact .of_silent (silent_stringText h)
  | getLocal thread frame name => exact .of_silent (silent_getLocal thread frame name)
  | frameCount thread => exact .of_silent (silent_frameCount thread)
  | isSuspended thread => exact .of_silent (silent_isSuspended thread)
  | construct | selectInstance | selectStatic | setField | setStatic | setElement | newArray
  | setLocal => cases hr

open Remote in
theorem Request.keeps_send_outer {R : Debuggee η → Debuggee η → Prop} [IsPreorder (Debuggee η) R]
    (hR : AllowsOuterChanges R) (r : Request η α) (hr : r.writesContent = false) :
    Keeps R r.send := by
  cases r with
  | construct type signature args thread => exact keeps_construct hR type signature args thread
  | selectInstance h name signature args thread =>
    exact keeps_selectInstance hR h name signature args thread
  | selectStatic type name signature args thread =>
    exact keeps_selectStatic hR type name signature args thread
  | setStatic type name value => exact keeps_setStatic hR type name value
  | newArray type length => exact keeps_newArray hR type length
  | setLocal thread frame name value => exact keeps_setLocal hR thread frame name value
  | setField | setElement => cases hr
  | _ => exact keeps_send_of_looks hR.toAllowsAdditions _ rfl

theorem Request.keeps_send {R : Debuggee η → Debuggee η → Prop} [IsPreorder (Debuggee η) R]
    (hR : Remote.AllowsChanges R) (r : Request η α) : Keeps R r.send := by
  cases r with
  | setField h name value => exact Remote.keeps_setField hR h name value
  | setElement h index value => exact Remote.keeps_setElement hR h index value
  | _ => exact keeps_send_outer hR.toAllowsOuterChanges _ rfl

namespace Debuggee

/-- One thing that can happen to a debuggee, from outside or by what a method does. -/
inductive Moves : Debuggee η → Debuggee η → Prop
  | addClass (c : ClassDef η) : Moves d (d.addClass c).2
  | addThread (thread : ThreadId) (frames : List CallFrame) : Moves d (d.addThread thread frames)
  | resume (thread : ThreadId) : Moves d (d.resume thread)
  | suspend (thread : ThreadId) (byEvent : Bool) : Moves d (d.suspend thread byEvent)
  | disconnect : Moves d d.disconnect
  | terminate : Moves d d.terminate
  | newObject (typeName : String) : Moves d (d.newObject typeName).2
  | newString (text : String) : Moves d (d.newString text).2
  | newArrayOf (typeName : String) (elements : List Value) :
    Moves d (d.newArrayOf typeName elements).2
  | send (r : Request η α) : Moves d (r.send d).2

/-- What can happen to a debuggee in the course of time. -/
abbrev Evolves : Debuggee η → Debuggee η → Prop := Relation.ReflTransGen Moves

/-- The states that follow from the first one by setting up, by requests and by what methods
do. -/
def Reachable (d : Debuggee η) : Prop := Evolves initial d

theorem Reachable.initial : Reachable (initial : Debuggee η) := .refl

/-- The ids of objects come from the counter. -/
structure Sound (d : Debuggee η) : Prop where
  objects_lt : ∀ {id object}, d.objects.get? id = some object → id < d.nextId

theorem Sound.allocate {d : Debuggee η} (hd : d.Sound) (typeName : String)
    (content : HeapContent) : (d.allocate typeName content).2.Sound := by
  refine ⟨fun {id object} h => ?_⟩
  rcases Table.get?_insert_eq_some h with ⟨rfl, -⟩ | h
  · exact Nat.lt_succ_self _
  · exact Nat.lt_succ_of_lt (hd.objects_lt h)

theorem Sound.insert {d : Debuggee η} {id : ObjectId} (hd : d.Sound)
    (ho : d.objects.get? id = some object) (object' : HeapObject) :
    Sound { d with objects := d.objects.insert id object' } := by
  refine ⟨fun {other found} h => ?_⟩
  rcases Table.get?_insert_eq_some h with ⟨rfl, -⟩ | h
  · exact hd.objects_lt ho
  · exact hd.objects_lt h

instance : IsPreorder (Debuggee η) (fun d d' => d.Sound → d'.Sound) where
  refl _ := id
  trans _ _ _ h h' := h' ∘ h

theorem Sound.allowsChanges :
    Remote.AllowsChanges (fun d d' : Debuggee η => d.Sound → d'.Sound) where
  newString _ _ hd := hd.allocate _ _
  arrayType _ _ _ hd := ⟨fun h => Nat.lt_succ_of_lt (hd.objects_lt h)⟩
  log _ _ hd := ⟨hd.objects_lt⟩
  newObject _ _ hd := hd.allocate _ _
  newArrayOf _ _ _ hd := hd.allocate _ _
  putStatic _ _ _ _ hd := ⟨hd.objects_lt⟩
  thread _ _ _ hd := ⟨hd.objects_lt⟩
  content _ _ _ _ ho _ hd := hd.insert ho _

theorem Moves.sound {d d' : Debuggee η} (h : Moves d d') (hd : d.Sound) : d'.Sound := by
  cases h with
  | addClass c => exact ⟨fun h => Nat.lt_succ_of_lt (hd.objects_lt h)⟩
  | addThread thread frames => exact ⟨hd.objects_lt⟩
  | resume thread =>
    unfold Debuggee.resume
    split
    · exact ⟨hd.objects_lt⟩
    · exact hd
  | suspend thread byEvent =>
    unfold Debuggee.suspend
    split
    · exact ⟨hd.objects_lt⟩
    · exact hd
  | disconnect => exact ⟨hd.objects_lt⟩
  | terminate => exact ⟨hd.objects_lt⟩
  | newObject typeName => exact hd.allocate _ _
  | newString text => exact hd.allocate _ _
  | newArrayOf typeName elements => exact hd.allocate _ _
  | send r => exact r.keeps_send Sound.allowsChanges _ hd

theorem Reachable.sound {d : Debuggee η} (hd : Reachable d) : d.Sound := by
  induction hd with
  | refl => exact ⟨fun h => by cases h⟩
  | tail _ hmove ih => exact hmove.sound ih

/-- Everything that was there is still there and as it was. -/
structure Kept (d d' : Debuggee η) : Prop where
  connected : d'.connected = d.connected
  alive : d'.alive = d.alive
  classes : d'.classes = d.classes
  threads : d'.threads = d.threads
  objects : ∀ {id object}, d.objects.get? id = some object → d'.objects.get? id = some object
  arrayTypes : ∀ {name id}, d.arrayTypes.get? name = some id → d'.arrayTypes.get? name = some id
  nextId_le : d.nextId ≤ d'.nextId

/-- Nothing was run or written, and what was added are strings and ids of array types. -/
structure Untouched (d d' : Debuggee η) : Prop extends Kept d d' where
  calls : d'.calls = d.calls
  added : ∀ {id object}, d'.objects.get? id = some object → d.objects.get? id = some object ∨
    d.nextId ≤ id ∧ ∃ text, object = ⟨stringType, .text text⟩
  addedTypes : ∀ {name id}, d'.arrayTypes.get? name = some id →
    d.arrayTypes.get? name = some id ∨ d.nextId ≤ id

theorem Kept.refl (d : Debuggee η) : Kept d d := ⟨rfl, rfl, rfl, rfl, id, id, Nat.le_refl _⟩

theorem Kept.trans {d₁ d₂ d₃ : Debuggee η} (h : Kept d₁ d₂) (h' : Kept d₂ d₃) : Kept d₁ d₃ where
  connected := h'.connected.trans h.connected
  alive := h'.alive.trans h.alive
  classes := h'.classes.trans h.classes
  threads := h'.threads.trans h.threads
  objects ho := h'.objects (h.objects ho)
  arrayTypes ha := h'.arrayTypes (h.arrayTypes ha)
  nextId_le := Nat.le_trans h.nextId_le h'.nextId_le

theorem Untouched.refl (d : Debuggee η) : Untouched d d :=
  ⟨.refl d, rfl, .inl, .inl⟩

theorem Untouched.trans {d₁ d₂ d₃ : Debuggee η} (h : Untouched d₁ d₂) (h' : Untouched d₂ d₃) :
    Untouched d₁ d₃ where
  toKept := h.toKept.trans h'.toKept
  calls := h'.calls.trans h.calls
  added ho := by
    rcases h'.added ho with ho | ⟨hid, htext⟩
    · exact h.added ho
    · exact .inr ⟨Nat.le_trans h.nextId_le hid, htext⟩
  addedTypes ha := by
    rcases h'.addedTypes ha with ha | hid
    · exact h.addedTypes ha
    · exact .inr (Nat.le_trans h.nextId_le hid)

/-- A debuggee in a proper state is left untouched, and in a proper state. -/
def Spared (d d' : Debuggee η) : Prop := d.Sound → d'.Sound ∧ d.Untouched d'

instance : IsPreorder (Debuggee η) Spared where
  refl d hd := ⟨hd, .refl d⟩
  trans _ _ _ h h' hd :=
    have ⟨hd', hu⟩ := h hd
    have ⟨hd'', hu'⟩ := h' hd'
    ⟨hd'', hu.trans hu'⟩

theorem Kept.allocate {d : Debuggee η} (hd : d.Sound) (typeName : String)
    (content : HeapContent) : Kept d (d.allocate typeName content).2 where
  connected := rfl
  alive := rfl
  classes := rfl
  threads := rfl
  objects h := by
    have hne := Nat.ne_of_gt (hd.objects_lt h)
    exact (Table.get?_insert_of_ne _ hne _).trans h
  arrayTypes := id
  nextId_le := Nat.le_succ _

theorem Spared.allowsAdditions : Remote.AllowsAdditions (@Spared η) where
  newString d text hd := by
    refine ⟨hd.allocate _ _, .allocate hd _ _, rfl, fun h => ?_, .inl⟩
    rcases Table.get?_insert_eq_some h with ⟨rfl, rfl⟩ | h
    · exact .inr ⟨Nat.le_refl _, text, rfl⟩
    · exact .inl h
  arrayType d name hnone hd := by
    refine ⟨Sound.allowsChanges.arrayType d name hnone hd,
      ⟨rfl, rfl, rfl, rfl, id, fun {other id} h => ?_, Nat.le_succ _⟩, rfl, .inl, fun h => ?_⟩
    · have hne : name ≠ other := by
        rintro rfl
        rw [hnone] at h
        cases h
      exact (Table.get?_insert_of_ne _ hne _).trans h
    · rcases Table.get?_insert_eq_some h with ⟨-, rfl⟩ | h
      · exact .inr (Nat.le_refl _)
      · exact .inl h

def LogExtends (d d' : Debuggee η) : Prop := List.IsPrefix d.calls d'.calls

instance : IsPreorder (Debuggee η) LogExtends where
  refl _ := List.prefix_refl _
  trans _ _ _ := List.IsPrefix.trans

theorem LogExtends.allowsChanges : Remote.AllowsChanges (@LogExtends η) where
  newString _ _ := List.prefix_refl _
  arrayType _ _ _ := List.prefix_refl _
  log _ _ := List.prefix_append _ _
  newObject _ _ := List.prefix_refl _
  newArrayOf _ _ _ := List.prefix_refl _
  content _ _ _ _ _ _ := List.prefix_refl _
  putStatic _ _ _ _ := List.prefix_refl _
  thread _ _ _ := List.prefix_refl _

def Logged (d d' : Debuggee η) : Prop := d.calls.length < d'.calls.length

theorem Logged.extend {d d' d'' : Debuggee η} (h : Logged d d') (h' : LogExtends d' d'') :
    Logged d d'' :=
  Nat.lt_of_lt_of_le h h'.length_le

theorem logged_log (d : Debuggee η) (entry : String) : Logged d (d.log entry) := by
  simp [Logged, Debuggee.log]

end Debuggee

end Probe
