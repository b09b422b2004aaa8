import Probe.Debuggee.Remote
import Probe.Proofs.Action

namespace Probe

open Probe.Action (Keeps Silent)

/-- The part of an object's content that no request changes. -/
inductive Outline where
  | fields (names : List String)
  | text (text : String)
  | elements (length : Nat)
  deriving DecidableEq

def HeapContent.outline : HeapContent → Outline
  | .fields t => .fields t.keys
  | .text t => .text t
  | .elements l => .elements l.length

theorem HeapContent.fields?_eq_some {c : HeapContent} {t : Table String Value}
    (h : c.fields? = some t) : c = .fields t := by
  cases c with
  | fields => exact congrArg _ (Option.some.inj h)
  | _ => cases h

namespace Remote
set_option autoImplicit true

theorem silent_checkAlive : Silent (checkAlive : Remote η Unit) := fun _ => rfl

theorem silent_suspendedThread (thread : ThreadId) :
    Silent (suspendedThread thread : Remote η Thread) :=
  silent_checkAlive.bind fun _ => .demand _ _

theorem silent_checkInvocable (thread : ThreadId) :
    Silent (checkInvocable thread : Remote η Unit) :=
  (silent_suspendedThread thread).bind fun _ => .require _ _

theorem silent_heapObject (h : Handle) : Silent (heapObject h : Remote η HeapObject) :=
  silent_checkAlive.bind fun _ => .demand _ _

theorem checkAlive_eq_ok {d d' : Debuggee η} {u : Unit} :
    checkAlive d = (.ok u, d') ↔ d' = d ∧ d.alive = true ∧ d.connected = true := by
  unfold checkAlive
  cases d.alive <;> cases d.connected <;> simp [eq_comm]

theorem suspendedThread_eq_ok {d d' : Debuggee η} :
    suspendedThread thread d = (.ok t, d') ↔ d' = d ∧ d.alive = true ∧ d.connected = true ∧
      d.threads.get? thread = some t ∧ t.suspended = true := by
  simp only [suspendedThread, Action.bind_eq_ok, checkAlive_eq_ok, Action.demand_eq_ok,
    Option.filter_eq_some_iff]
  constructor
  · rintro ⟨_, _, ⟨hd, ha, hc⟩, hd', ht⟩
    subst hd hd'
    exact ⟨rfl, ha, hc, ht⟩
  · rintro ⟨hd, ha, hc, ht⟩
    exact ⟨(), d, ⟨rfl, ha, hc⟩, hd, ht⟩

theorem checkInvocable_eq_ok {d d' : Debuggee η} {u : Unit} :
    checkInvocable thread d = (.ok u, d') ↔ d' = d ∧ d.alive = true ∧ d.connected = true ∧
      ∃ t, d.threads.get? thread = some t ∧ t.suspended = true ∧ t.byEvent = true := by
  simp only [checkInvocable, Action.bind_eq_ok, suspendedThread_eq_ok, Action.require_eq_ok]
  constructor
  · rintro ⟨t, _, ⟨hd, ha, hc, ht, hs⟩, hd', he⟩
    subst hd hd'
    exact ⟨rfl, ha, hc, t, ht, hs, he⟩
  · rintro ⟨hd, ha, hc, t, ht, hs, he⟩
    exact ⟨t, d, ⟨rfl, ha, hc, ht, hs⟩, hd, he⟩

theorem heapObject_eq_ok {d d' : Debuggee η} :
    heapObject h d = (.ok object, d') ↔ d' = d ∧ d.alive = true ∧ d.connected = true ∧
      d.objects.get? h.id = some object := by
  simp only [heapObject, Action.bind_eq_ok, checkAlive_eq_ok, Action.demand_eq_ok]
  constructor
  · rintro ⟨-, _, ⟨rfl, ha, hc⟩, rfl, ho⟩
    exact ⟨rfl, ha, hc, ho⟩
  · rintro ⟨rfl, ha, hc, ho⟩
    exact ⟨(), d', ⟨rfl, ha, hc⟩, rfl, ho⟩

theorem silent_isAssignable (h : Handle) (type : TypeRef) :
    Silent (isAssignable h type : Remote η Bool) :=
  (silent_heapObject h).bind fun _ => .read _

theorem silent_getField (h : Handle) (name : String) :
    Silent (getField h name : Remote η Value) := by
  refine (silent_heapObject h).bind fun object => ?_
  split
  · exact .pure _
  · exact .fail _

theorem silent_getStatic (type : TypeRef) (name : String) :
    Silent (getStatic type name : Remote η Value) :=
  silent_checkAlive.bind fun _ => (Keeps.demand _ _).bind fun _ => .pure _

theorem silent_elements (h : Handle) : Silent (elements h : Remote η (List Value)) := by
  refine (silent_heapObject h).bind fun object => ?_
  split
  · exact .pure _
  · exact .fail _

theorem silent_arrayLength (h : Handle) : Silent (arrayLength h : Remote η Nat) :=
  (silent_elements h).bind fun _ => .pure _

theorem silent_getElement (h : Handle) (index : Nat) :
    Silent (getElement h index : Remote η Value) := by
  refine (silent_elements h).bind fun elements => ?_
  split
  · exact .pure _
  · exact .fail _

theorem silent_stringText (h : Handle) : Silent (stringText h : Remote η String) := by
  refine (silent_heapObject h).bind fun object => ?_
  split
  · exact .pure _
  · exact .fail _

theorem silent_frameAt (thread : ThreadId) (frame : Nat) :
    Silent (frameAt thread frame : Remote η (Thread × Nat × CallFrame)) := by
  refine (silent_suspendedThread thread).bind fun t => ?_
  dsimp only
  generalize (if frame < _ then _ else none : Option CallFrame) = found
  cases found with
  | some f => exact .pure _
  | none => exact .fail _

theorem silent_getLocal (thread : ThreadId) (frame : Nat) (name : String) :
    Silent (getLocal thread frame name : Remote η Value) := by
  refine (silent_frameAt thread frame).bind fun (_, _, f) => ?_
  dsimp only
  split
  · exact .pure _
  · exact .fail _

theorem silent_frameCount (thread : ThreadId) : Silent (frameCount thread : Remote η Nat) :=
  (silent_suspendedThread thread).bind fun _ => .pure _

theorem silent_isSuspended (thread : ThreadId) : Silent (isSuspended thread : Remote η Bool) :=
  silent_checkAlive.bind fun _ => .read _

/-- The relation holds across the additions that a look at the debuggee can make. -/
structure AllowsAdditions (R : Debuggee η → Debuggee η → Prop) : Prop where
  newString : ∀ d text, R d (d.newString text).2
  arrayType : ∀ d name, d.arrayTypes.get? name = none →
    R d { d with nextId := d.nextId + 1, arrayTypes := d.arrayTypes.insert name d.nextId }

/-- The relation holds across every change that a request can make, except to what an object
holds. -/
structure AllowsOuterChanges (R : Debuggee η → Debuggee η → Prop) : Prop
    extends AllowsAdditions R where
  log : ∀ d entry, R d (d.log entry)
  newObject : ∀ d typeName, R d (d.newObject typeName).2
  newArrayOf : ∀ d typeName elements, R d (d.newArrayOf typeName elements).2
  putStatic : ∀ d owner name value,
    R d { d with classes := d.classes.putStatic owner name value }
  thread : ∀ d id t, R d { d with threads := d.threads.insert id t }

/-- The relation holds across every change that a request can make. -/
structure AllowsChanges (R : Debuggee η → Debuggee η → Prop) : Prop
    extends AllowsOuterChanges R where
  content : ∀ d id object content, d.objects.get? id = some object →
    content.outline = object.content.outline →
    R d { d with objects := d.objects.insert id { object with content } }

section Additions
variable {R : Debuggee η → Debuggee η → Prop} [IsPreorder (Debuggee η) R] (hR : AllowsAdditions R)
include hR

theorem keeps_arrayType (name : String) : Keeps R (arrayType name) := by
  intro d
  unfold arrayType
  split
  · exact refl d
  · exact hR.arrayType d name ‹_›

theorem keeps_resolveType (element : String) (n : Nat) : Keeps R (resolveType element n) := by
  induction n with
  | zero => exact (Keeps.demand _ _).bind fun _ => .pure _
  | succ n ih =>
    refine (Keeps.read _).bind fun entry => ?_
    split
    · exact .pure _
    · split
      · exact keeps_arrayType hR _
      · exact (ih.bind fun _ => .pure _).bind fun _ => keeps_arrayType hR _

theorem keeps_typeNamed (name : String) : Keeps R (typeNamed name) := keeps_resolveType hR _ _

theorem keeps_classByName (name : String) : Keeps R (classByName name) :=
  (Keeps.of_silent silent_checkAlive).bind fun _ => keeps_typeNamed hR name

theorem keeps_typeOf (h : Handle) : Keeps R (typeOf h) :=
  (Keeps.of_silent (silent_heapObject h)).bind fun _ => keeps_typeNamed hR _

theorem keeps_declaringType (type : TypeRef) (name signature : String) :
    Keeps R (declaringType type name signature) := by
  refine (Keeps.of_silent silent_checkAlive).bind fun _ => (Keeps.read _).bind fun found => ?_
  split
  · exact keeps_typeNamed hR _
  · exact (Keeps.require _ _).bind fun _ => keeps_typeNamed hR _

theorem keeps_makeString (text : String) : Keeps R (makeString text) :=
  (Keeps.of_silent silent_checkAlive).bind fun _ d => hR.newString d text

end Additions

theorem keeps_log {R : Debuggee η → Debuggee η → Prop} (hR : AllowsOuterChanges R)
    (entry : String) : Keeps R (log entry) := fun d => hR.log d entry

/-- An object is written only after it was found on the heap. -/
theorem keeps_heapObject_bind {R : Debuggee η → Debuggee η → Prop} [IsPreorder (Debuggee η) R]
    {h : Handle} {f : HeapObject → Remote η α}
    (hf : ∀ object d, d.objects.get? h.id = some object → R d (f object d).2) :
    Keeps R (heapObject h >>= f) :=
  (Keeps.of_silent (silent_heapObject h)).bind_of fun _ object d' hd => by
    obtain ⟨rfl, -, -, ho⟩ := heapObject_eq_ok.1 hd
    exact hf object d' ho

section OuterChanges
variable {R : Debuggee η → Debuggee η → Prop} [IsPreorder (Debuggee η) R]
  (hR : AllowsOuterChanges R)
include hR

theorem keeps_construct (type : TypeRef) (signature : String) (args : List Value)
    (thread : ThreadId) : Keeps R (construct type signature args thread) :=
  (Keeps.of_silent (silent_checkInvocable thread)).bind fun _ =>
    (Keeps.demand _ _).bind fun _ => (Keeps.require _ _).bind fun _ =>
      (Keeps.require _ _).bind fun _ => (keeps_log hR _).bind fun _ =>
        Keeps.bind (fun d => hR.newObject d type.name) fun _ => .pure _

theorem keeps_newArray (type : TypeRef) (length : Nat) : Keeps R (newArray type length) := by
  refine (Keeps.of_silent silent_checkAlive).bind fun _ => ?_
  split
  · exact .fail _
  · exact (keeps_log hR _).bind fun _ d => hR.newArrayOf d _ _

theorem keeps_selectInstance (h : Handle) (name signature : String) (args : List Value)
    (thread : ThreadId) : Keeps R (selectInstance h name signature args thread) := by
  refine (Keeps.of_silent (silent_checkInvocable thread)).bind fun _ =>
    (Keeps.of_silent (silent_heapObject h)).bind fun object =>
      (keeps_log hR _).bind fun _ => (Keeps.read _).bind fun found => ?_
  split
  · exact .pure _
  · exact (Keeps.require _ _).bind fun _ => .pure _

theorem keeps_selectStatic (type : TypeRef) (name signature : String) (args : List Value)
    (thread : ThreadId) : Keeps R (selectStatic type name signature args thread) :=
  (Keeps.of_silent (silent_checkInvocable thread)).bind fun _ => (keeps_log hR _).bind fun _ =>
    (Keeps.demand _ _).bind fun _ => .pure _

theorem keeps_setStatic (type : TypeRef) (name : String) (value : Value) :
    Keeps R (setStatic type name value) :=
  (Keeps.of_silent silent_checkAlive).bind fun _ => (Keeps.demand _ _).bind fun _ =>
    (Keeps.modify fun d => hR.putStatic d _ _ _).bind fun _ => keeps_log hR _

theorem keeps_setLocal (thread : ThreadId) (frame : Nat) (name : String) (value : Value) :
    Keeps R (setLocal thread frame name value) :=
  (Keeps.of_silent (silent_frameAt thread frame)).bind fun _ => (Keeps.require _ _).bind fun _ =>
    (Keeps.modify fun d => hR.thread d _ _).bind fun _ => keeps_log hR _

theorem keeps_setField_of (h : Handle) (name : String) (value : Value)
    (hwrite : ∀ d object fields, d.objects.get? h.id = some object →
      object.content = .fields fields → fields.contains name = true →
      R d { d with
        objects := d.objects.insert h.id
          { object with content := .fields (fields.insert name value) } }) :
    Keeps R (setField h name value) := by
  refine keeps_heapObject_bind fun object d hd => ?_
  cases hfound : object.content.fields?.filter (·.contains name) with
  | some fields =>
    obtain ⟨hfields, hname⟩ := Option.filter_eq_some_iff.1 hfound
    have hset := hwrite d object fields hd (HeapContent.fields?_eq_some hfields) hname
    exact IsTrans.trans _ _ _ hset (hR.log _ _)
  | none => exact refl d

theorem keeps_setElement_of (h : Handle) (index : Nat) (value : Value)
    (hwrite : ∀ d object elements, d.objects.get? h.id = some object →
      object.content = .elements elements → R d { d with
        objects := d.objects.insert h.id
          { object with content := .elements (elements.set index value) } }) :
    Keeps R (setElement h index value) := by
  refine keeps_heapObject_bind fun object d hd => ?_
  cases hcontent : object.content with
  | elements elements =>
    by_cases hi : index < elements.length
    · simp only [Action.bind_apply, Action.require, hi, if_true]
      exact IsTrans.trans _ _ _ (hwrite d object elements hd hcontent) (hR.log _ _)
    · simp only [Action.bind_apply, Action.require, hi, if_false]
      exact refl d
  | fields fields => exact refl d
  | text text => exact refl d

end OuterChanges

section Changes
variable {R : Debuggee η → Debuggee η → Prop} [IsPreorder (Debuggee η) R] (hR : AllowsChanges R)
include hR

theorem keeps_setField (h : Handle) (name : String) (value : Value) :
    Keeps R (setField h name value) := by
  apply keeps_setField_of hR.toAllowsOuterChanges
  intro d object fields hd hfields hname
  obtain ⟨old, hold⟩ := Table.contains_iff.1 hname
  apply hR.content d _ object _ hd
  rw [hfields]
  exact congrArg Outline.fields (Table.keys_insert hold value)

theorem keeps_setElement (h : Handle) (index : Nat) (value : Value) :
    Keeps R (setElement h index value) := by
  apply keeps_setElement_of hR.toAllowsOuterChanges
  intro d object elements hd hcontent
  apply hR.content d _ object _ hd
  rw [hcontent]
  exact congrArg Outline.elements List.length_set

end Changes

end Remote

end Probe
