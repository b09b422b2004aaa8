import Mathlib.Data.List.Induction
import Probe.Proofs.Debuggee.Identity
import Probe.Proofs.Machine.Announcements

namespace Probe
set_option autoImplicit true

open Probe.Action (Keeps Silent)

theorem ClassTable.loaded_of_resolveMethod {c : ClassTable η}
    (h : c.resolveMethod typeName name signature = some (declaring, behavior)) :
    ∃ entry, c.get? declaring = some entry := by
  obtain ⟨className, -, hfound⟩ := List.exists_of_findSome?_eq_some h
  obtain ⟨method, hmethod, hpair⟩ := Option.map_eq_some_iff.1 hfound
  cases hpair
  obtain ⟨entry, hentry, -⟩ := Option.bind_eq_some_iff.1 hmethod
  exact ⟨entry, hentry⟩

namespace Debuggee

def StayLoaded (d d' : Debuggee η) : Prop :=
  ∀ name, d.classes.contains name = true → d'.classes.contains name = true

instance : IsPreorder (Debuggee η) StayLoaded where
  refl _ _ := id
  trans _ _ _ h h' name hname := h' name (h name hname)

theorem StayLoaded.allowsChanges : Remote.AllowsChanges (StayLoaded (η := η)) where
  newString _ _ _ := id
  arrayType _ _ _ _ := id
  log _ _ _ := id
  newObject _ _ _ := id
  newArrayOf _ _ _ _ := id
  content _ _ _ _ _ _ _ := id
  putStatic d owner name value className h := by
    rw [ClassTable.contains_putStatic]
    exact h
  thread _ _ _ _ := id

theorem stayLoaded_addClass (d : Debuggee η) (c : ClassDef η) :
    StayLoaded d (d.addClass c).2 := by
  intro name hname
  obtain ⟨entry, hentry⟩ := Table.contains_iff.1 hname
  apply Table.contains_iff.2
  by_cases hc : c.name = name
  · subst hc
    exact ⟨_, Table.get?_insert_self _ _ _⟩
  · exact ⟨entry, (Table.get?_insert_of_ne _ hc _).trans hentry⟩

theorem Moves.stayLoaded {d d' : Debuggee η} (h : Moves d d') : StayLoaded d d' := by
  cases h with
  | addClass c => exact stayLoaded_addClass d c
  | resume thread =>
    unfold Debuggee.resume
    split <;> exact fun _ => id
  | suspend thread byEvent =>
    unfold Debuggee.suspend
    split <;> exact fun _ => id
  | send r => exact r.keeps_send StayLoaded.allowsChanges d
  | _ => exact fun _ => id

theorem Evolves.stayLoaded {d d' : Debuggee η} (h : Evolves d d') : StayLoaded d d' := by
  induction h with
  | refl => exact refl d
  | tail _ hmove ih => exact IsTrans.trans _ _ _ ih hmove.stayLoaded

theorem Reachable.loaded {d : Debuggee η} (hd : d.Reachable)
    (hname : name = objectType ∨ name = stringType) :
    ∃ entry, d.classes.get? name = some entry := by
  apply Table.contains_iff.1
  apply hd.stayLoaded
  rcases hname with rfl | rfl <;> rfl

/-- Some method answers to the name on objects of the type, be it the one that all objects
have. -/
def Understands (d : Debuggee η) (typeName name signature : String) : Prop :=
  (d.classes.resolveMethod typeName name signature).isSome = true ∨
    Remote.isToString name signature = true

/-- The thread is suspended in a debuggee that can answer. -/
structure Stopped (d : Debuggee η) (thread : ThreadId) (t : Thread) : Prop where
  alive : d.alive = true
  connected : d.connected = true
  thread : d.threads.get? thread = some t
  suspended : t.suspended = true

end Debuggee

namespace Remote

theorem suspendedThread_of_stopped {d : Debuggee η} (h : d.Stopped thread t) :
    suspendedThread thread d = (.ok t, d) :=
  suspendedThread_eq_ok.2 ⟨rfl, h.alive, h.connected, h.thread, h.suspended⟩

theorem suspendedThread_of_not_stopped {d : Debuggee η} (h : ∀ t, ¬d.Stopped thread t) :
    ∃ e, suspendedThread thread d = (.error e, d) := by
  apply (silent_suspendedThread thread).eq_error
  intro t ht
  obtain ⟨-, ha, hc, hthread, hs⟩ := suspendedThread_eq_ok.1 ht
  exact h t ⟨ha, hc, hthread, hs⟩

theorem frameCount_of_stopped {d : Debuggee η} (h : d.Stopped thread t) :
    frameCount thread d = (.ok t.frames.length, d) :=
  Action.bind_of_ok (suspendedThread_of_stopped h) _

theorem checkAlive_of_stopped {d : Debuggee η} (h : d.Stopped thread t) :
    checkAlive d = (.ok (), d) := checkAlive_eq_ok.2 ⟨rfl, h.alive, h.connected⟩

theorem checkInvocable_of_stopped {d : Debuggee η} (h : d.Stopped thread t)
    (hevent : t.byEvent = true) : checkInvocable thread d = (.ok (), d) :=
  checkInvocable_eq_ok.2 ⟨rfl, h.alive, h.connected, t, h.thread, h.suspended, hevent⟩

theorem declaringType_of_entry {d : Debuggee η} (ht : d.Stopped thread t)
    (hm : d.classes.resolveMethod type.name name signature = some (owner, behavior))
    (hentry : d.classes.get? owner = some entry) : declaringType type name signature d =
      (.ok (Debuggee.classRef entry.id entry.definition owner), d) := by
  simp only [declaringType, Action.bind_of_ok (checkAlive_of_stopped ht), Action.bind_apply,
    Action.read, hm]
  exact typeNamed_of_loaded hentry

theorem declaringType_of_declared {d : Debuggee η} (ht : d.Stopped thread t)
    (hm : d.classes.resolveMethod type.name name signature = some (owner, behavior)) :
    ∃ declaring, declaring.name = owner ∧
      declaringType type name signature d = (.ok declaring, d) := by
  obtain ⟨entry, hentry⟩ := ClassTable.loaded_of_resolveMethod hm
  exact ⟨_, rfl, declaringType_of_entry ht hm hentry⟩

/-- The method that all objects have is declared by the string type for strings and else by the
top class. -/
theorem declaringType_of_builtIn {d : Debuggee η} (hd : d.Reachable) (ht : d.Stopped thread t)
    (hm : d.classes.resolveMethod type.name name signature = none)
    (hname : isToString name signature = true) :
    ∃ declaring, declaring.name = (if type.name = stringType then stringType else objectType) ∧
      declaringType type name signature d = (.ok declaring, d) := by
  simp only [declaringType, Action.bind_of_ok (checkAlive_of_stopped ht), Action.bind_apply,
    Action.read, hm, Action.require, hname, if_true]
  by_cases hstring : type.name = stringType
  · obtain ⟨entry, hentry⟩ := hd.loaded (.inr rfl)
    simp only [hstring, beq_self_eq_true, if_true]
    exact ⟨_, rfl, typeNamed_of_loaded hentry⟩
  · obtain ⟨entry, hentry⟩ := hd.loaded (.inl rfl)
    simp only [beq_eq_false_iff_ne.2 hstring, hstring, if_false]
    exact ⟨_, rfl, typeNamed_of_loaded hentry⟩

theorem declaringType_of_understood {d : Debuggee η} (hd : d.Reachable) (ht : d.Stopped thread t)
    (hm : d.Understands type.name name signature) :
    ∃ declaring, declaringType type name signature d = (.ok declaring, d) := by
  cases hfound : d.classes.resolveMethod type.name name signature with
  | some found =>
    obtain ⟨declaring, -, hdecl⟩ := declaringType_of_declared ht hfound
    exact ⟨declaring, hdecl⟩
  | none =>
    have hname : isToString name signature = true := by
      rcases hm with hsome | hname
      · rw [hfound] at hsome
        cases hsome
      · exact hname
    obtain ⟨declaring, -, hdecl⟩ := declaringType_of_builtIn hd ht hfound hname
    exact ⟨declaring, hdecl⟩

theorem declaringType_of_missing {d : Debuggee η} (ht : d.Stopped thread t)
    (hm : ¬d.Understands type.name name signature) :
    declaringType type name signature d = (.error (.noSuchMethod type.name name signature), d) := by
  obtain ⟨hnone, hname⟩ := not_or.1 hm
  have hfound : d.classes.resolveMethod type.name name signature = none := by simpa using hnone
  simp only [declaringType, Action.bind_of_ok (checkAlive_of_stopped ht), Action.bind_apply,
    Action.read, hfound, Action.require, hname]
  rfl

end Remote

namespace Machine

/-- The operand that a call on the target takes. -/
def Target.operand : Target → Operand
  | .ofType t => .type t
  | .ofObject h => .value (.object h)

/-- The target of a call is of a loaded type. -/
inductive Target.Loaded (d : Debuggee η) : Target → String → Prop
  | type {t : TypeRef} (ht : d.classes.contains t.name = true) : Loaded d (.ofType t) t.name
  | object {h : Handle} {object : HeapObject} (ho : d.objects.get? h.id = some object)
    (ht : d.classes.contains object.typeName = true) : Loaded d (.ofObject h) object.typeName

theorem Target.loaded_object {d : Debuggee η} {h : Handle}
    (ho : (d.objects.get? h.id).map (·.typeName) = some typeName)
    (ht : d.classes.contains typeName = true) : Loaded d (.ofObject h) typeName := by
  obtain ⟨object, hobject, rfl⟩ := Option.map_eq_some_iff.1 ho
  exact .object hobject ht

theorem Target.Loaded.type_eq {d : Debuggee η} {callee : Target} (hl : callee.Loaded d typeName)
    (ht : d.Stopped thread t) :
    ∃ type, type.name = typeName ∧ callee.type d = (.ok type, d) := by
  cases hl with
  | @type type _ => exact ⟨type, rfl, rfl⟩
  | @object h object ho hloaded =>
    obtain ⟨entry, hentry⟩ := Table.contains_iff.1 hloaded
    have hheap : Remote.heapObject h d = (.ok object, d) :=
      Remote.heapObject_eq_ok.2 ⟨rfl, ht.alive, ht.connected, ho⟩
    exact ⟨_, rfl, (Action.bind_of_ok hheap _).trans (Remote.typeNamed_of_loaded hentry)⟩

theorem target_operand (callee : Target) (name signature : String) :
    (target callee.operand name signature : Exec η κ Target) = pure callee := by
  cases callee <;> rfl

theorem remote_of_ok {r : Remote η α} {s : State η κ}
    (h : r s.world.debuggee = (.ok a, s.world.debuggee)) : remote r s = (.ok a, s) := by
  rw [remote_apply, h]
  rfl

theorem remote_of_error {r : Remote η α} {s : State η κ}
    (h : r s.world.debuggee = (.error e, s.world.debuggee)) :
    remote r s = (.error (.error (.ofRemote e)), s) := by
  rw [remote_apply, h]
  rfl

def State.withTracker (s : State η κ) (t : Tracker) : State η κ :=
  { s with world := { s.world with tracker := t } }

section
variable {s : State η κ} {callee : Target}

theorem announce_of_declaring (ht : s.world.debuggee.Stopped thread t)
    (htype : callee.type s.world.debuggee = (.ok type, s.world.debuggee))
    (hdecl : Remote.declaringType type name signature s.world.debuggee =
      (.ok declaring, s.world.debuggee)) :
    let e : Expectation :=
      ⟨thread, ⟨declaring.name, name, signature⟩, t.frames.length + 1, .methodExit⟩
    announce thread callee name signature s =
      (.ok (s.world.tracker.expect e).1, s.withTracker (s.world.tracker.expect e).2) := by
  intro e
  refine (Action.bind_of_ok (remote_of_ok (Remote.frameCount_of_stopped ht)) _).trans ?_
  refine (Action.bind_of_ok (remote_of_ok htype) _).trans ?_
  exact Action.bind_of_ok (remote_of_ok hdecl) _

theorem announce_of_missing (ht : s.world.debuggee.Stopped thread t)
    (hl : callee.Loaded s.world.debuggee typeName)
    (hm : ¬s.world.debuggee.Understands typeName name signature) :
    announce thread callee name signature s =
      (.error (.error (.ofRemote (.noSuchMethod typeName name signature))), s) := by
  obtain ⟨type, rfl, htype⟩ := hl.type_eq ht
  refine (Action.bind_of_ok (remote_of_ok (Remote.frameCount_of_stopped ht)) _).trans ?_
  refine (Action.bind_of_ok (remote_of_ok htype) _).trans ?_
  exact Action.bind_of_error (remote_of_error (Remote.declaringType_of_missing ht hm)) _

theorem announce_of_refused
    (h : Remote.suspendedThread thread s.world.debuggee = (.error e, s.world.debuggee)) :
    announce thread callee name signature s = (.error (.error (.ofRemote e)), s) :=
  Action.bind_of_error (remote_of_error (Action.bind_of_error h _)) _

/-- A call that the thread cannot run fails before anything is looked up. -/
theorem perform_of_refused {setup : Setup η κ}
    (h : Remote.checkInvocable setup.scope.thread s.world.debuggee = (.error e, s.world.debuggee)) :
    call (perform setup callee name signature args) s = (.error (.error (.ofRemote e)), s) := by
  have hcall {r : Remote η (Remote.Callee η)}
      (hr : r s.world.debuggee = (.error e, s.world.debuggee)) :
      call (World.remote r >>= World.runCallee setup.hooks args) s =
        (.error (.error (.ofRemote e)), s) := by
    simp only [call, Action.zoom, Action.bind_apply, World.remote, hr]
    rfl
  cases callee with
  | ofType type => exact hcall (Action.bind_of_error h _)
  | ofObject o => exact hcall (Action.bind_of_error h _)

end

def Target.entry (callee : Target) (typeName name signature : String) (args : List Value) :
    String :=
  (match callee with
    | .ofType _ => "invokestatic "
    | .ofObject _ => "invoke ") ++
  typeName ++ "." ++ name ++ signature ++ " " ++ describeValues args

section
variable {w : World η κ} {setup : Setup η κ} {callee : Target}
  (hl : callee.Loaded w.debuggee typeName) (ht : w.debuggee.Stopped setup.scope.thread t)
  (hevent : t.byEvent = true)
include hl ht hevent

theorem perform_of_missing (hm : ¬w.debuggee.Understands typeName name signature) :
    perform setup callee name signature args w =
      (.error (.error (.noSuchMethod typeName name signature)),
        { w with debuggee := w.debuggee.log (callee.entry typeName name signature args) }) := by
  obtain ⟨hnone, hname⟩ := not_or.1 hm
  have hfound : w.debuggee.classes.resolveMethod typeName name signature = none := by
    simpa using hnone
  have hcheck := Remote.checkInvocable_of_stopped ht hevent
  cases hl with
  | @type type _ =>
    simp only [perform, World.invokeStatic, Remote.selectStatic, Action.bind_apply, World.remote,
      Action.zoom, hcheck, Remote.log, Action.modify, Debuggee.log, Action.demand, hfound]
    rfl
  | @object h object ho _ =>
    have hheap := Remote.heapObject_eq_ok.2 ⟨rfl, ht.alive, ht.connected, ho⟩
    simp only [perform, World.invokeMethod, Remote.selectInstance, Action.bind_apply,
      World.remote, Action.zoom, hcheck, hheap, Remote.log, Action.modify, Debuggee.log,
      Action.read, hfound, Action.require, hname]
    rfl

theorem perform_of_declared
    (hm : w.debuggee.classes.resolveMethod typeName name signature = some (owner, behavior)) :
    perform setup callee name signature args w = World.runBehavior setup.hooks behavior args
      { w with debuggee := w.debuggee.log (callee.entry typeName name signature args) } := by
  have hcheck := Remote.checkInvocable_of_stopped ht hevent
  cases hl with
  | @type type _ =>
    simp only [perform, World.invokeStatic, Remote.selectStatic, Action.bind_apply, World.remote,
      Action.zoom, hcheck, Remote.log, Action.modify, Debuggee.log, Action.demand, hm]
    rfl
  | @object h object ho _ =>
    have hheap := Remote.heapObject_eq_ok.2 ⟨rfl, ht.alive, ht.connected, ho⟩
    simp only [perform, World.invokeMethod, Remote.selectInstance, Action.bind_apply,
      World.remote, Action.zoom, hcheck, hheap, Remote.log, Action.modify, Debuggee.log,
      Action.read, hm]
    rfl

end

/-- Arguments lie on the stack with the last one on top. -/
theorem popArgs_of_values (site : Site) (args : List Value) (s : State η κ) (rest : List Operand)
    (h : s.stack = args.reverse.map .value ++ rest) :
    popArgs site args.length s = (.ok args, { s with stack := rest }) := by
  induction args using List.reverseRecOn generalizing s with
  | nil =>
    cases h
    rfl
  | append_singleton args last ih =>
    rw [List.length_append]
    rw [List.reverse_append, List.reverse_singleton, List.singleton_append, List.map_cons,
      List.cons_append] at h
    have hlast : popValue site s =
        (.ok last, { s with stack := args.reverse.map .value ++ rest }) := by
      simp only [popValue, pop, Action.bind_apply, Action.read, h]
      rfl
    have hargs := ih { s with stack := args.reverse.map .value ++ rest } rfl
    exact (Action.bind_of_ok hlast _).trans (Action.bind_of_ok hargs _)

theorem execute_of_operands (setup : Setup η κ) (pc : Nat) (name signature : String)
    (args : List Value) (callee : Target) (s : State η κ) (rest : List Operand)
    (h : s.stack = args.reverse.map .value ++ callee.operand :: rest) :
    execute setup ⟨pc, .invoke name signature args.length⟩ s =
      (invoke setup callee.operand name signature args >>= fun v =>
        pushValue setup ⟨pc, .invoke name signature args.length⟩ v >>= fun _ => pure none)
        { s with stack := rest } := by
  have hargs := popArgs_of_values ⟨pc, .invoke name signature args.length⟩ args s _ h
  rw [execute_of_target?_none rfl]
  unfold effect
  simp only [bind_assoc]
  rw [Action.bind_of_ok hargs]
  rfl

end Machine

end Probe
