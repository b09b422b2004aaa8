import Probe.Proofs.Debuggee.Dispatch
import Probe.Proofs.Debuggee.Recorded

namespace Probe
set_option autoImplicit true

namespace Action

/-- A failure leaves the state as it was. -/
def Atomic (x : Action σ ε α) : Prop := ∀ s e s', x s = (.error e, s') → s' = s

def Total (x : Action σ ε α) : Prop := ∀ s, ∃ a s', x s = (.ok a, s')

theorem Total.bind {x : Action σ ε α} {f : α → Action σ ε β} (hx : Total x)
    (hf : ∀ a, Total (f a)) : Total (x >>= f) := by
  intro s
  obtain ⟨a, s', hxs⟩ := hx s
  obtain ⟨b, s'', hfs⟩ := hf a s'
  exact ⟨b, s'', (bind_of_ok hxs f).trans hfs⟩

namespace Atomic

theorem of_silent {x : Action σ ε α} (hx : Silent x) : Atomic x := by
  intro s e s' h
  have hs := hx s
  rw [h] at hs
  exact hs.symm

theorem of_total {x : Action σ ε α} (hx : Total x) : Atomic x := by
  intro s e s' h
  obtain ⟨a, s'', hok⟩ := hx s
  rw [h] at hok
  cases hok

theorem silent_bind {x : Action σ ε α} {f : α → Action σ ε β} (hx : Silent x)
    (hf : ∀ a, Atomic (f a)) : Atomic (x >>= f) := by
  intro s e s' h
  cases hxs : (x s).1 with
  | error e' =>
    rw [hx.bind_error hxs] at h
    cases h
    rfl
  | ok a =>
    rw [hx.bind_ok hxs] at h
    exact hf a s e s' h

end Atomic

end Action

open Probe.Action (Atomic Silent Total)

namespace Remote

theorem total_log (entry : String) : Total (log entry : Remote η Unit) := fun _ => ⟨_, _, rfl⟩

theorem total_change (f : Debuggee η → α × Debuggee η) : Total (change f) := fun _ => ⟨_, _, rfl⟩

/-- A name that stands for no type is refused before any array type gets an id. -/
theorem atomic_typeNamed (name : String) : Atomic (typeNamed name : Remote η TypeRef) := by
  intro d e d' h
  by_cases hname : d.classes.Loadable name
  · obtain ⟨type, d'', hok, -⟩ := typeNamed_of_loadable hname
    rw [h] at hok
    cases hok
  · rw [typeNamed_of_not_loadable hname] at h
    cases h
    rfl

theorem atomic_declaringType (type : TypeRef) (name signature : String) :
    Atomic (declaringType type name signature : Remote η TypeRef) := by
  apply Atomic.silent_bind silent_checkAlive
  intro _
  apply Atomic.silent_bind (.read _)
  intro found
  split
  · exact atomic_typeNamed _
  · exact .silent_bind (.require _ _) fun _ => atomic_typeNamed _

theorem atomic_construct (type : TypeRef) (signature : String) (args : List Value)
    (thread : ThreadId) : Atomic (construct type signature args thread : Remote η Value) := by
  apply Atomic.silent_bind (silent_checkInvocable thread)
  intro _
  apply Atomic.silent_bind (.demand _ _)
  intro entry
  apply Atomic.silent_bind (.require _ _)
  intro _
  apply Atomic.silent_bind (.require _ _)
  intro _
  apply Atomic.of_total
  apply (total_log _).bind
  intro _
  exact (total_change _).bind fun _ d => ⟨_, d, rfl⟩

theorem atomic_newArray (type : TypeRef) (length : Nat) :
    Atomic (newArray type length : Remote η Handle) := by
  apply Atomic.silent_bind silent_checkAlive
  intro _
  split
  · exact .of_silent (.fail _)
  · exact .of_total ((total_log _).bind fun _ => total_change _)

end Remote

theorem Write.atomic (write : Write) : Atomic (write.send : Remote η Unit) := by
  intro d e d' h
  rcases write.send_cases d with ⟨e', he⟩ | ⟨entry, d'', hok, -⟩
  · rw [h] at he
    cases he
    rfl
  · rw [h] at hok
    cases hok

/-- The request is the first part of a call. -/
def Request.beginsCall : Request η α → Bool
  | selectInstance .. => true
  | selectStatic .. => true
  | _ => false

open Remote in
theorem Request.atomic_send (r : Request η α) (hr : r.beginsCall = false) : Atomic r.send := by
  cases r with
  | makeString text => exact .silent_bind silent_checkAlive fun _ => .of_total (total_change _)
  | classByName name => exact .silent_bind silent_checkAlive fun _ => atomic_typeNamed name
  | typeOf h => exact .silent_bind (silent_heapObject h) fun _ => atomic_typeNamed _
  | isAssignable h type => exact .of_silent (silent_isAssignable h type)
  | construct type signature args thread => exact atomic_construct type signature args thread
  | selectInstance h name signature args thread => cases hr
  | selectStatic type name signature args thread => cases hr
  | declaringType type name signature => exact atomic_declaringType type name signature
  | getField h name => exact .of_silent (silent_getField h name)
  | setField h name value => exact Write.atomic (.cell (.inObject h name) value)
  | getStatic type name => exact .of_silent (silent_getStatic type name)
  | setStatic type name value => exact Write.atomic (.cell (.inType type name) value)
  | arrayLength h => exact .of_silent (silent_arrayLength h)
  | getElement h index => exact .of_silent (silent_getElement h index)
  | setElement h index value => exact Write.atomic (.element h index value)
  | newArray type length => exact atomic_newArray type length
  | stringText h => exact .of_silent (silent_stringText h)
  | getLocal thread frame name => exact .of_silent (silent_getLocal thread frame name)
  | setLocal thread frame name value =>
    exact Write.atomic (.cell (.inFrame thread frame name) value)
  | frameCount thread => exact .of_silent (silent_frameCount thread)
  | isSuspended thread => exact .of_silent (silent_isSuspended thread)

def Debuggee.runsMethods (d : Debuggee η) (thread : ThreadId) : Bool :=
  d.alive && d.connected && (d.threads.get? thread).any fun t => t.suspended && t.byEvent

namespace Remote

theorem runsMethods_iff {d : Debuggee η} :
    d.runsMethods thread = true ↔ checkInvocable thread d = (.ok (), d) := by
  simp [Debuggee.runsMethods, checkInvocable_eq_ok, Option.any_eq_true, and_assoc]

theorem selectStatic_refused {d : Debuggee η} (h : d.runsMethods thread = false) (type : TypeRef)
    (name signature : String) (args : List Value) :
    ∃ e, selectStatic type name signature args thread d = (.error e, d) := by
  have hno : checkInvocable thread d ≠ (.ok (), d) := by
    intro hi
    rw [runsMethods_iff.2 hi] at h
    cases h
  obtain ⟨e, he⟩ := (silent_checkInvocable thread).eq_error fun _ => hno
  exact ⟨e, Action.bind_of_error he _⟩

theorem classByName_unloaded (d : Debuggee η) (harray : TypeName.isArray element = false)
    (hprimitive : isPrimitiveName element = false)
    (hn : ∀ k ≤ n, d.classes.contains (TypeName.text ⟨element, k⟩) = false) :
    ∃ e, classByName (TypeName.text ⟨element, n⟩) d = (.error e, d) ∧
      (d.alive = true → d.connected = true → e = .classNotLoaded element) := by
  have hnot := typeNamed_of_not_loadable (ClassTable.not_loadable_of_unloaded harray hprimitive hn)
  rw [TypeName.element_text harray] at hnot
  by_cases hlive : checkAlive d = (.ok (), d)
  · exact ⟨_, (Action.bind_of_ok hlive _).trans hnot, fun _ _ => rfl⟩
  · obtain ⟨e, he⟩ := silent_checkAlive.eq_error fun _ => hlive
    refine ⟨e, Action.bind_of_error he _, fun ha hc => ?_⟩
    exact absurd (checkAlive_eq_ok.2 ⟨rfl, ha, hc⟩) hlive

end Remote

/-- Requests that fail change nothing, calls aside. So asking for an array over a class that is
not loaded gives no type an id. A call changes nothing if the debuggee, the thread or the
receiver is not ready for it, and otherwise a call of a method that is not found adds its entry
to the log. -/
theorem World.failures_atomic (w : World η κ) (hooks : Hooks η κ) (name signature : String)
    (args : List Value) (thread : ThreadId) :
    let d := w.debuggee
    (∀ (α : Type) (r : Request η α) (e : RemoteError) (d' : Debuggee η), r.beginsCall = false →
      r.send d = (.error e, d') → d' = d) ∧
    (∀ element n, TypeName.isArray element = false → isPrimitiveName element = false →
      (∀ k ≤ n, d.classes.contains (TypeName.text ⟨element, k⟩) = false) →
      ∃ e, Remote.classByName (TypeName.text ⟨element, n⟩) d = (.error e, d) ∧
        (d.alive = true → d.connected = true → e = .classNotLoaded element)) ∧
    (∀ h, d.answers thread h = false →
      ∃ e, invokeMethod hooks h name signature args thread w = (.error (.error e), w)) ∧
    (∀ h object, d.answers thread h = true → d.objects.get? h.id = some object →
      ¬d.classes.Declares object.typeName name signature →
      Remote.isToString name signature = false →
      invokeMethod hooks h name signature args thread w =
        (.error (.error (.noSuchMethod object.typeName name signature)),
          { w with
            debuggee := d.log (Remote.instanceEntry object.typeName name signature args) })) ∧
    (∀ type, d.runsMethods thread = false →
      ∃ e, invokeStatic hooks type name signature args thread w = (.error (.error e), w)) ∧
    (∀ type : TypeRef, d.runsMethods thread = true →
      ¬d.classes.Declares type.name name signature →
      invokeStatic hooks type name signature args thread w =
        (.error (.error (.noSuchMethod type.name name signature)),
          { w with debuggee := d.log (Remote.staticEntry type.name name signature args) })) := by
  intro d
  refine ⟨?_, ?_, ?_, ?_, ?_, ?_⟩
  · intro α r e d' hr h
    exact r.atomic_send hr d e d' h
  · intro element n harray hprimitive hn
    exact Remote.classByName_unloaded d harray hprimitive hn
  · intro h hrefused
    obtain ⟨e, he⟩ := Remote.selectInstance_refused hrefused name signature args
    exact ⟨e, remote_bind_error he _⟩
  · intro h object hready ho hmissing hname
    obtain ⟨hi, object', hheap⟩ := Remote.answers_iff.1 hready
    obtain rfl : object' = object :=
      Option.some.inj ((Remote.heapObject_eq_ok.1 hheap).2.2.2.symm.trans ho)
    have hselect := Remote.selectInstance_of_ready hi hheap name signature args
    rw [Remote.instanceCallee_of_missing (ClassTable.resolveMethod_eq_none_iff.2 hmissing) hname]
      at hselect
    exact remote_bind_error hselect _
  · intro type hrefused
    obtain ⟨e, he⟩ := Remote.selectStatic_refused hrefused type name signature args
    exact ⟨e, remote_bind_error he _⟩
  · intro type hready hmissing
    have hselect := Remote.selectStatic_of_ready (Remote.runsMethods_iff.1 hready) type name
      signature args
    rw [Remote.staticCallee_of_missing (ClassTable.resolveMethod_eq_none_iff.2 hmissing)] at hselect
    exact remote_bind_error hselect _

theorem World.failures_atomic_counter :
    let w := Machine.counterWorld
    let d := w.debuggee
    Remote.setElement Machine.counter 0 .null d =
      (.error (.invalidType "Counter is not an array"), d) ∧
    Remote.classByName "Missing[][]" d = (.error (.classNotLoaded "Missing"), d) ∧
    (∃ e, invokeMethod Machine.counterHooks ⟨9, "Counter"⟩ "show" "()V" [] 1 w =
      (.error (.error e), w)) ∧
    invokeMethod Machine.counterHooks Machine.counter "show" "()V" [] 1 w =
      (.error (.error (.noSuchMethod "Counter" "show" "()V")),
        { w with debuggee := d.log "invoke Counter.show()V []" }) ∧
    invokeStatic Machine.counterHooks ⟨3, "Counter", .classType⟩ "show" "()V" [] 1 w =
      (.error (.error (.noSuchMethod "Counter" "show" "()V")),
        { w with debuggee := d.log "invokestatic Counter.show()V []" }) ∧
    ∃ e, invokeStatic Machine.counterHooks ⟨3, "Counter", .classType⟩ "show" "()V" [] 2 w =
      (.error (.error e), w) := by
  intro w d
  obtain ⟨hrequest, harray, hrefused, hmissing, -, hstatic⟩ :=
    failures_atomic w Machine.counterHooks "show" "()V" [] 1
  obtain ⟨-, -, -, -, hthread, -⟩ := failures_atomic w Machine.counterHooks "show" "()V" [] 2
  have hnone : ¬d.classes.Declares "Counter" "show" "()V" :=
    ClassTable.resolveMethod_eq_none_iff.1 rfl
  have hwrite : (Remote.setElement Machine.counter 0 .null d).1 =
      .error (.invalidType "Counter is not an array") := rfl
  have hsame := hrequest Unit (.setElement Machine.counter 0 .null) _
    (Remote.setElement Machine.counter 0 .null d).2 rfl (Prod.ext hwrite rfl)
  obtain ⟨e, hclass, he⟩ := harray "Missing" 2 (by decide) (by decide) (by decide)
  rw [he rfl rfl] at hclass
  exact ⟨Prod.ext hwrite hsame, hclass, hrefused ⟨9, "Counter"⟩ rfl,
    hmissing Machine.counter _ rfl rfl hnone rfl, hstatic ⟨3, "Counter", .classType⟩ rfl hnone,
    hthread _ rfl⟩

end Probe
