import Probe.Proofs.Debuggee.Ancestry
import Probe.Proofs.Machine.Calls

namespace Probe
set_option autoImplicit true

/-- Some class searched for methods of the type declares the method. -/
def ClassTable.Declares (c : ClassTable η) (typeName name signature : String) : Prop :=
  ∃ D ∈ c.ancestry typeName, (c.ownMethod? D name signature).isSome = true

theorem ClassTable.resolveMethod_eq_none_iff {c : ClassTable η} :
    c.resolveMethod typeName name signature = none ↔ ¬c.Declares typeName name signature := by
  simp [resolveMethod, List.findSome?_eq_none_iff, Declares]

theorem ClassTable.entry_of_resolveMethod {c : ClassTable η}
    (h : c.resolveMethod typeName name signature = some (D, behavior)) :
    ∃ entry m, D ∈ c.ancestry typeName ∧ c.get? D = some entry ∧
      entry.definition.methods.find? (fun m => m.name == name && m.signature == signature) =
        some m ∧ m.behavior = behavior := by
  obtain ⟨hfirst, hbehavior⟩ := find?_of_resolveMethod h
  obtain ⟨m, hm, hbehavior⟩ := Option.map_eq_some_iff.1 hbehavior
  obtain ⟨entry, hentry, hmethod⟩ := Option.bind_eq_some_iff.1 hm
  exact ⟨entry, m, List.mem_of_find?_eq_some hfirst, hentry, hmethod, hbehavior⟩

namespace Remote

def instanceCallee (c : ClassTable η) (h : Handle) (object : HeapObject)
    (name signature : String) : Except RemoteError (Callee η) :=
  match c.resolveMethod object.typeName name signature with
  | some found => .ok (.declared found.2)
  | none =>
    if isToString name signature then .ok (builtInToString h object)
    else .error (.noSuchMethod object.typeName name signature)

def staticCallee (c : ClassTable η) (typeName name signature : String) :
    Except RemoteError (Callee η) :=
  match c.resolveMethod typeName name signature with
  | some found => .ok (.declared found.2)
  | none => .error (.noSuchMethod typeName name signature)

def instanceEntry (typeName name signature : String) (args : List Value) : String :=
  "invoke " ++ typeName ++ "." ++ name ++ signature ++ " " ++ describeValues args

def staticEntry (typeName name signature : String) (args : List Value) : String :=
  "invokestatic " ++ typeName ++ "." ++ name ++ signature ++ " " ++ describeValues args

section
variable {c : ClassTable η} {object : HeapObject}

theorem instanceCallee_of_declared
    (hm : c.resolveMethod object.typeName name signature = some found) :
    instanceCallee c h object name signature = .ok (.declared found.2) := by
  simp only [instanceCallee, hm]

theorem instanceCallee_of_builtIn
    (hm : c.resolveMethod object.typeName name signature = none)
    (hname : isToString name signature = true) :
    instanceCallee c h object name signature = .ok (builtInToString h object) := by
  simp only [instanceCallee, hm, hname, if_true]

theorem instanceCallee_of_missing
    (hm : c.resolveMethod object.typeName name signature = none)
    (hname : isToString name signature = false) :
    instanceCallee c h object name signature =
      .error (.noSuchMethod object.typeName name signature) := by
  simp only [instanceCallee, hm, hname]
  rfl

theorem staticCallee_of_missing (hm : c.resolveMethod typeName name signature = none) :
    staticCallee c typeName name signature = .error (.noSuchMethod typeName name signature) := by
  simp only [staticCallee, hm]

end

/-- A call that gets through is logged, whether or not its method is found. -/
theorem selectInstance_of_ready {d : Debuggee η} (hi : checkInvocable thread d = (.ok (), d))
    (ho : heapObject h d = (.ok object, d)) (name signature : String) (args : List Value) :
    selectInstance h name signature args thread d =
      (instanceCallee d.classes h object name signature,
        d.log (instanceEntry object.typeName name signature args)) := by
  simp only [selectInstance, Action.bind_apply, hi, ho, log, Action.modify, Debuggee.log,
    Action.read, instanceCallee, instanceEntry]
  cases d.classes.resolveMethod object.typeName name signature with
  | some found => rfl
  | none => cases isToString name signature <;> rfl

theorem selectStatic_of_ready {d : Debuggee η} (hi : checkInvocable thread d = (.ok (), d))
    (type : TypeRef) (name signature : String) (args : List Value) :
    selectStatic type name signature args thread d =
      (staticCallee d.classes type.name name signature,
        d.log (staticEntry type.name name signature args)) := by
  refine (Action.bind_of_ok hi _).trans ?_
  cases hm : d.classes.resolveMethod type.name name signature with
  | some found =>
    simp only [staticCallee, hm, Action.bind_apply, log, Action.modify, Action.demand,
      Debuggee.log]
    rfl
  | none =>
    simp only [staticCallee, hm, Action.bind_apply, log, Action.modify, Action.demand,
      Debuggee.log]
    rfl

end Remote

namespace World

theorem remote_bind_ok {w : World η κ} {r : Remote η α} (h : r w.debuggee = (.ok a, d))
    (f : α → Call η κ β) : (remote r >>= f) w = f a { w with debuggee := d } := by
  simp only [remote, Action.bind_apply, Action.zoom, h]
  rfl

theorem remote_bind_error {w : World η κ} {r : Remote η α} (h : r w.debuggee = (.error e, d))
    (f : α → Call η κ β) :
    (remote r >>= f) w = (.error (.error e), { w with debuggee := d }) := by
  simp only [remote, Action.bind_apply, Action.zoom, h]
  rfl

end World

open Debuggee (SameButTypes)

theorem Debuggee.stopped_of_same {d d' : Debuggee η} (hd : SameButTypes d d')
    (h : d.Stopped thread t) : d'.Stopped thread t := by
  rw [SameButTypes] at hd
  rw [hd]
  exact ⟨h.alive, h.connected, h.thread, h.suspended⟩

/-- Calls and the question which type declares their method agree, on every object whose type
can be asked for. If a class searched declares the method, the answer is the class whose own
first method of that name and signature is run. If none does, the answer for the method that all
objects have is the string type for strings and else the top class, and for any other method
both fail alike. -/
theorem World.dispatch_agrees (w : World η κ) (hooks : Hooks η κ) (h : Handle)
    (name signature : String) (args : List Value) (hd : w.debuggee.Reachable)
    (ht : w.debuggee.Stopped thread t) (hevent : t.byEvent = true)
    (ho : w.debuggee.objects.get? h.id = some object)
    (hl : w.debuggee.classes.Loadable object.typeName) :
    let c := w.debuggee.classes
    let T := object.typeName
    let missing := RemoteError.noSuchMethod T name signature
    let logged :=
      { w with debuggee := w.debuggee.log (Remote.instanceEntry T name signature args) }
    let call := invokeMethod hooks h name signature args thread w
    ∃ type d', Remote.typeOf h w.debuggee = (.ok type, d') ∧ type.name = T ∧
      let answer := (Remote.declaringType type name signature d').1
      ((Remote.selectInstance h name signature args thread w.debuggee).1 = .error missing ↔
        answer = .error missing) ∧
      (answer = .error missing ↔
        ¬c.Declares T name signature ∧ Remote.isToString name signature = false) ∧
      (answer = .error missing → call = (.error (.error missing), logged)) ∧
      (c.Declares T name signature → ∃ D ∈ c.ancestry T, ∃ entry m, c.get? D = some entry ∧
        entry.definition.methods.find? (fun m => m.name == name && m.signature == signature) =
          some m ∧
        answer = .ok (Debuggee.classRef entry.id entry.definition D) ∧
        call = runBehavior hooks m.behavior args logged) ∧
      (¬c.Declares T name signature → Remote.isToString name signature = true →
        ∃ declaring, answer = .ok declaring ∧
          declaring.name = (if T = stringType then stringType else objectType) ∧
          call = runCallee hooks args (Remote.builtInToString h object) logged) := by
  intro c T missing logged call
  have hheap : Remote.heapObject h w.debuggee = (.ok object, w.debuggee) :=
    Remote.heapObject_eq_ok.2 ⟨rfl, ht.alive, ht.connected, ho⟩
  obtain ⟨type, d', htype, hname, hsame⟩ := Remote.typeNamed_of_loadable hl
  have hof : Remote.typeOf h w.debuggee = (.ok type, d') :=
    (Action.bind_of_ok hheap _).trans htype
  have hreachable : d'.Reachable := by
    have hsent := hd.tail (.send (.typeOf h))
    rwa [Request.send, hof] at hsent
  have hstopped := Debuggee.stopped_of_same hsame ht
  have hselect := Remote.selectInstance_of_ready (Remote.checkInvocable_of_stopped ht hevent) hheap
    name signature args
  have hclasses : d'.classes = c := hsame.classes
  have hsearch : d'.classes.resolveMethod type.name name signature =
      c.resolveMethod T name signature := by rw [hclasses, hname]
  refine ⟨type, d', hof, hname, ?_⟩
  cases hm : c.resolveMethod T name signature with
  | some found =>
    have hdeclares : c.Declares T name signature := by
      by_contra hnot
      rw [ClassTable.resolveMethod_eq_none_iff.2 hnot] at hm
      cases hm
    obtain ⟨entry, m, hD, hentry, hfirst, hbehavior⟩ := ClassTable.entry_of_resolveMethod hm
    have hanswer := Remote.declaringType_of_entry hstopped (hsearch.trans hm) (hclasses ▸ hentry)
    rw [Remote.instanceCallee_of_declared hm, ← hbehavior] at hselect
    rw [hselect, hanswer]
    refine ⟨by simp, by simp [hdeclares], by simp, fun _ => ?_,
      fun hnot => absurd hdeclares hnot⟩
    exact ⟨found.1, hD, entry, m, hentry, hfirst, rfl, remote_bind_ok hselect _⟩
  | none =>
    have hnot := ClassTable.resolveMethod_eq_none_iff.1 hm
    cases hbuiltIn : Remote.isToString name signature with
    | true =>
      obtain ⟨declaring, hdeclaring, hanswer⟩ :=
        Remote.declaringType_of_builtIn hreachable hstopped (hsearch.trans hm) hbuiltIn
      rw [hname] at hdeclaring
      rw [Remote.instanceCallee_of_builtIn hm hbuiltIn] at hselect
      rw [hselect, hanswer]
      refine ⟨by simp, by simp, by simp, fun hdeclares => absurd hdeclares hnot, fun _ _ => ?_⟩
      exact ⟨declaring, rfl, hdeclaring, remote_bind_ok hselect _⟩
    | false =>
      have hunknown : ¬d'.Understands type.name name signature := by
        simp [Debuggee.Understands, hsearch, hm, hbuiltIn]
      have hanswer := Remote.declaringType_of_missing hstopped hunknown
      rw [hname] at hanswer
      rw [Remote.instanceCallee_of_missing hm hbuiltIn] at hselect
      rw [hselect, hanswer]
      exact ⟨by simp [missing, T], by simp [missing, T, hnot],
        fun _ => remote_bind_error hselect _,
        fun hdeclares => absurd hdeclares hnot, fun _ hyes => by cases hyes⟩

/-- A counter and an array of counters, whose type nobody asked for yet. -/
def arrayWorld : World Unit Unit :=
  { Machine.counterWorld with
    debuggee := (Machine.counterWorld.debuggee.newArrayOf "Counter[]" []).2 }

theorem World.dispatch_agrees_arrays :
    arrayWorld.debuggee.Reachable ∧ arrayWorld.debuggee.Stopped 1 ⟨true, true, []⟩ ∧
    arrayWorld.debuggee.classes.Loadable "Counter[]" ∧
    (∃ type d', Remote.typeOf ⟨5, "Counter[]"⟩ arrayWorld.debuggee = (.ok type, d') ∧
      ∃ declaring, declaring.name = objectType ∧
        (Remote.declaringType type "toString" "()Ljava/lang/String;" d').1 = .ok declaring) ∧
    ∃ type d', Remote.typeOf Machine.counter arrayWorld.debuggee = (.ok type, d') ∧
      (Remote.declaringType type "show" "()V" d').1 =
        .error (.noSuchMethod "Counter" "show" "()V") := by
  have hreachable : arrayWorld.debuggee.Reachable :=
    Machine.counterWorld_reachable.tail (.newArrayOf "Counter[]" [])
  have hstopped : arrayWorld.debuggee.Stopped 1 ⟨true, true, []⟩ := ⟨rfl, rfl, rfl, rfl⟩
  have hheap : arrayWorld.debuggee.objects.get? 5 = some ⟨"Counter[]", .elements []⟩ := rfl
  have hcounter : arrayWorld.debuggee.classes.Loadable "Counter" := .loaded rfl
  have harray : arrayWorld.debuggee.classes.Loadable ("Counter" ++ "[]") := .array hcounter
  have hnone (typeName name signature : String)
      (h : arrayWorld.debuggee.classes.resolveMethod typeName name signature = none) :=
    ClassTable.resolveMethod_eq_none_iff.1 h
  obtain ⟨type, d', htype, -, -, -, -, -, hbuiltIn⟩ := dispatch_agrees arrayWorld
    Machine.counterHooks ⟨5, "Counter[]"⟩ "toString" "()Ljava/lang/String;" [] hreachable hstopped
    rfl hheap harray
  obtain ⟨declaring, hanswer, hname, -⟩ := hbuiltIn (hnone _ _ _ rfl) rfl
  obtain ⟨type', d'', htype', -, -, hmissing, -⟩ := dispatch_agrees arrayWorld
    Machine.counterHooks Machine.counter "show" "()V" [] hreachable hstopped rfl rfl hcounter
  exact ⟨hreachable, hstopped, harray, ⟨type, d', htype, declaring, hname, hanswer⟩,
    type', d'', htype', hmissing.2 ⟨hnone _ _ _ rfl, rfl⟩⟩

end Probe
