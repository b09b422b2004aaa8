import Probe.Proofs.Accessor
import Probe.Proofs.Debuggee.Requests
import Probe.Proofs.Debuggee.Statics

namespace Probe
set_option autoImplicit true

open Probe.Action (Accessor Keeps SameAnswer Silent)

/-- A local variable of a frame, a field of an object or a static field that a type has. -/
inductive Cell where
  | inFrame (thread : ThreadId) (frame : Nat) (name : String)
  | inObject (h : Handle) (name : String)
  | inType (type : TypeRef) (name : String)

namespace Cell

def get : Cell → Remote η Value
  | inFrame thread frame name => Remote.getLocal thread frame name
  | inObject h name => Remote.getField h name
  | inType type name => Remote.getStatic type name

def set (value : Value) : Cell → Remote η Unit
  | inFrame thread frame name => Remote.setLocal thread frame name value
  | inObject h name => Remote.setField h name value
  | inType type name => Remote.setStatic type name value

def Named (name : String) : Cell → Prop
  | inFrame _ _ x => x = name
  | inObject _ x => x = name
  | inType _ x => x = name

/-- Cells of different kinds or different names. -/
def Apart : Cell → Cell → Prop
  | inFrame _ _ x, inFrame _ _ y => x ≠ y
  | inObject _ x, inObject _ y => x ≠ y
  | inType _ x, inType _ y => x ≠ y
  | _, _ => True

theorem Named.apart (hne : x ≠ y) (hc : Named x c) (hc' : Named y c') : c.Apart c' := by
  cases c <;> cases c' <;> simp_all [Named, Apart]

end Cell

def Thread.frame? (t : Thread) (frame : Nat) : Option CallFrame :=
  if frame < t.frames.length then t.frames[t.frames.length - 1 - frame]? else none

def Thread.setFrame (t : Thread) (frame : Nat) (f : CallFrame) : Thread :=
  { t with frames := t.frames.set (t.frames.length - 1 - frame) f }

namespace Thread

theorem frame?_setFrame_self {t : Thread} (h : t.frame? frame = some f) (f' : CallFrame) :
    (t.setFrame frame f').frame? frame = some f' := by
  unfold frame? at h
  split at h
  · have hlt := (List.getElem?_eq_some_iff.1 h).1
    simp [frame?, setFrame, *]
  · cases h

theorem map_frame?_setFrame {t : Thread} (h : t.frame? frame = some f) (f' : CallFrame)
    (g : CallFrame → α) (hg : g f' = g f) (frame' : Nat) :
    ((t.setFrame frame f').frame? frame').map g = (t.frame? frame').map g := by
  unfold frame? at h
  split at h
  · have hlt := (List.getElem?_eq_some_iff.1 h).1
    simp only [frame?, setFrame, List.length_set, List.getElem?_set]
    split
    · split
      · rename_i hsame
        rw [← hsame, h, Option.map_some, Option.map_some, hg]
      · rfl
    · rfl
  · cases h

end Thread

namespace Remote

theorem frameAt_eq (thread : ThreadId) (frame : Nat) :
    (frameAt thread frame : Remote η _) = suspendedThread thread >>= fun t =>
      match t.frame? frame with
      | some f => pure (t, t.frames.length - 1 - frame, f)
      | none => Action.fail (.other s!"frame {frame} out of range for thread {thread}") := rfl

theorem checkAlive_congr {d d' : Debuggee η} (ha : d'.alive = d.alive)
    (hc : d'.connected = d.connected) : SameAnswer checkAlive d d' := by
  simp only [SameAnswer, checkAlive, ha, hc]

theorem isSuspended_congr {d d' : Debuggee η} (ha : d'.alive = d.alive)
    (hc : d'.connected = d.connected) (ht : (d'.threads.get? thread).map (·.suspended) =
      (d.threads.get? thread).map (·.suspended)) : SameAnswer (isSuspended thread) d d' := by
  apply SameAnswer.bind silent_checkAlive (checkAlive_congr ha hc)
  intro _
  have hany (t : Option Thread) : t.any (·.suspended) = (t.map (·.suspended)).any id := by
    cases t <;> rfl
  simp only [SameAnswer, Action.read, hany, ht]

theorem getField_congr {d d' : Debuggee η} (ha : d'.alive = d.alive)
    (hc : d'.connected = d.connected)
    (ho : (d'.objects.get? h.id).map (·.content.fields?.bind (·.get? name)) =
      (d.objects.get? h.id).map (·.content.fields?.bind (·.get? name))) :
    SameAnswer (getField h name) d d' := by
  unfold getField heapObject
  rw [bind_assoc]
  apply SameAnswer.bind silent_checkAlive (checkAlive_congr ha hc)
  intro _
  apply SameAnswer.demand_bind ho
  intro object object' hfield
  simp only [hfield]
  generalize object.content.fields?.bind _ = found
  cases found <;> rfl

theorem getStatic_congr {d d' : Debuggee η} {type : TypeRef} (ha : d'.alive = d.alive)
    (hc : d'.connected = d.connected)
    (hs : d'.classes.resolveStatic type.name name = d.classes.resolveStatic type.name name) :
    SameAnswer (getStatic type name) d d' := by
  apply SameAnswer.bind silent_checkAlive (checkAlive_congr ha hc)
  intro _
  apply SameAnswer.demand_bind (congrArg (Option.map Prod.snd) hs)
  intro found found' hvalue
  exact congrArg Except.ok hvalue

theorem getLocal_congr {d d' : Debuggee η} (ha : d'.alive = d.alive)
    (hc : d'.connected = d.connected)
    (ht : ((d'.threads.get? thread).filter (·.suspended)).map
        (fun t => (t.frame? frame).map (·.locals.get? name)) =
      ((d.threads.get? thread).filter (·.suspended)).map
        (fun t => (t.frame? frame).map (·.locals.get? name))) :
    SameAnswer (getLocal thread frame name) d d' := by
  unfold getLocal
  rw [frameAt_eq]
  unfold suspendedThread
  rw [bind_assoc, bind_assoc]
  apply SameAnswer.bind silent_checkAlive (checkAlive_congr ha hc)
  intro _
  refine SameAnswer.demand_bind ht ?_
  intro t t' hframe
  cases hf : t.frame? frame with
  | none =>
    rw [hf, Option.map_none, Option.map_eq_none_iff] at hframe
    simp only [hframe]
    rfl
  | some f =>
    rw [hf, Option.map_some] at hframe
    obtain ⟨f', hf', hlocal⟩ := Option.map_eq_some_iff.1 hframe
    simp only [hf', pure_bind, hlocal]
    cases f.locals.get? name <;> rfl

theorem frameAt_eq_ok {d d' : Debuggee η} : frameAt thread frame d = (.ok found, d') ↔
    d' = d ∧ d.alive = true ∧ d.connected = true ∧ ∃ t f, d.threads.get? thread = some t ∧
      t.suspended = true ∧ t.frame? frame = some f ∧
      found = (t, t.frames.length - 1 - frame, f) := by
  rw [frameAt_eq]
  simp only [Action.bind_eq_ok, suspendedThread_eq_ok]
  constructor
  · rintro ⟨t, _, ⟨hd, ha, hc, ht, hs⟩, h⟩
    subst hd
    cases hf : t.frame? frame with
    | none =>
      rw [hf] at h
      cases h
    | some f =>
      rw [hf] at h
      cases h
      exact ⟨rfl, ha, hc, t, f, ht, hs, hf, rfl⟩
  · rintro ⟨hd, ha, hc, t, f, ht, hs, hf, hfound⟩
    refine ⟨t, d, ⟨rfl, ha, hc, ht, hs⟩, ?_⟩
    rw [hf, hd, hfound]
    rfl

theorem getLocal_eq_ok {d d' : Debuggee η} :
    getLocal thread frame name d = (.ok value, d') ↔ d' = d ∧
      d.alive = true ∧ d.connected = true ∧ ∃ t f, d.threads.get? thread = some t ∧
        t.suspended = true ∧ t.frame? frame = some f ∧ f.locals.get? name = some value := by
  simp only [getLocal, Action.bind_eq_ok, frameAt_eq_ok]
  constructor
  · rintro ⟨_, _, ⟨hd, ha, hc, t, f, ht, hs, hf, hfound⟩, h⟩
    subst hd hfound
    cases hlocal : f.locals.get? name with
    | none =>
      simp only [hlocal] at h
      cases h
    | some a =>
      simp only [hlocal] at h
      cases h
      exact ⟨rfl, ha, hc, t, f, ht, hs, hf, hlocal⟩
  · rintro ⟨hd, ha, hc, t, f, ht, hs, hf, hlocal⟩
    refine ⟨_, d, ⟨rfl, ha, hc, t, f, ht, hs, hf, rfl⟩, ?_⟩
    simp only [hlocal, hd]
    rfl

theorem setLocal_eq_ok {d d' : Debuggee η} {u : Unit} :
    setLocal thread frame name value d = (.ok u, d') ↔
      d.alive = true ∧ d.connected = true ∧ ∃ t f, d.threads.get? thread = some t ∧
        t.suspended = true ∧ t.frame? frame = some f ∧ f.locals.contains name = true ∧
        d' = { d with
          threads := d.threads.insert thread
            (t.setFrame frame { f with locals := f.locals.insert name value }) }.log
          ("set local " ++ name ++ " = " ++ value.describe) := by
  simp only [setLocal, Action.bind_eq_ok, frameAt_eq_ok, Action.require_eq_ok]
  constructor
  · rintro ⟨_, _, ⟨hd, ha, hc, t, f, ht, hs, hf, hfound⟩, _, _, ⟨hd', hlocal⟩, _, _, hset, hlog⟩
    subst hd hfound hd'
    cases hset
    cases hlog
    exact ⟨ha, hc, t, f, ht, hs, hf, hlocal, rfl⟩
  · rintro ⟨ha, hc, t, f, ht, hs, hf, hlocal, hd'⟩
    subst hd'
    exact ⟨_, d, ⟨rfl, ha, hc, t, f, ht, hs, hf, rfl⟩, (), d, ⟨rfl, hlocal⟩, (), _, rfl, rfl⟩

theorem getField_eq_ok {d d' : Debuggee η} :
    getField h name d = (.ok value, d') ↔ d' = d ∧
      d.alive = true ∧ d.connected = true ∧ ∃ object fields, d.objects.get? h.id = some object ∧
        object.content = .fields fields ∧ fields.get? name = some value := by
  simp only [getField, Action.bind_eq_ok, heapObject_eq_ok]
  constructor
  · rintro ⟨object, _, ⟨hd, ha, hc, ho⟩, h⟩
    subst hd
    cases hfield : object.content.fields?.bind (·.get? name) with
    | none =>
      rw [hfield] at h
      cases h
    | some a =>
      rw [hfield] at h
      cases h
      obtain ⟨fields, hfields, hname⟩ := Option.bind_eq_some_iff.1 hfield
      exact ⟨rfl, ha, hc, object, fields, ho, HeapContent.fields?_eq_some hfields, hname⟩
  · rintro ⟨hd, ha, hc, object, fields, ho, hfields, hname⟩
    refine ⟨object, d, ⟨rfl, ha, hc, ho⟩, ?_⟩
    have hfield : object.content.fields?.bind (·.get? name) = some value := by
      rw [hfields]
      exact hname
    rw [hfield, hd]
    rfl

theorem setField_eq_ok {d d' : Debuggee η} {u : Unit} :
    setField h name value d = (.ok u, d') ↔
      d.alive = true ∧ d.connected = true ∧ ∃ object fields, d.objects.get? h.id = some object ∧
        object.content = .fields fields ∧ fields.contains name = true ∧
        d' = { d with
          objects := d.objects.insert h.id
            { object with content := .fields (fields.insert name value) } }.log
          ("set " ++ h.typeName ++ "." ++ name ++ " = " ++ value.describe) := by
  simp only [setField, Action.bind_eq_ok, heapObject_eq_ok]
  constructor
  · rintro ⟨object, _, ⟨hd, ha, hc, ho⟩, hset⟩
    subst hd
    cases hf : object.content.fields?.filter (·.contains name) with
    | none =>
      rw [hf] at hset
      cases hset
    | some fields =>
      rw [hf] at hset
      obtain ⟨hfields, hname⟩ := Option.filter_eq_some_iff.1 hf
      obtain ⟨_, _, hset, hlog⟩ := Action.bind_eq_ok.1 hset
      cases hset
      cases hlog
      exact ⟨ha, hc, object, fields, ho, HeapContent.fields?_eq_some hfields, hname, rfl⟩
  · rintro ⟨ha, hc, object, fields, ho, hfields, hname, hd'⟩
    refine ⟨object, d, ⟨rfl, ha, hc, ho⟩, ?_⟩
    have hf : object.content.fields?.filter (·.contains name) = some fields := by
      rw [hfields]
      exact Option.filter_eq_some_iff.2 ⟨rfl, hname⟩
    rw [hf, hd']
    rfl

theorem getStatic_eq_ok {d d' : Debuggee η} {type : TypeRef} :
    getStatic type name d = (.ok value, d') ↔ d' = d ∧ d.alive = true ∧ d.connected = true ∧
      ∃ owner, d.classes.resolveStatic type.name name = some (owner, value) := by
  simp only [getStatic, Action.bind_eq_ok, checkAlive_eq_ok, Action.demand_eq_ok]
  constructor
  · rintro ⟨_, _, ⟨hd, ha, hc⟩, found, _, ⟨hd', hfound⟩, h⟩
    subst hd hd'
    cases h
    exact ⟨rfl, ha, hc, found.1, hfound⟩
  · rintro ⟨hd, ha, hc, owner, hfound⟩
    subst hd
    exact ⟨(), _, ⟨rfl, ha, hc⟩, _, _, ⟨rfl, hfound⟩, rfl⟩

theorem setStatic_eq_ok {d d' : Debuggee η} {type : TypeRef} {u : Unit} :
    setStatic type name value d = (.ok u, d') ↔
      d.alive = true ∧ d.connected = true ∧ ∃ owner old,
        d.classes.resolveStatic type.name name = some (owner, old) ∧
        d' = { d with classes := d.classes.putStatic owner name value }.log
          ("set " ++ owner ++ "." ++ name ++ " = " ++ value.describe) := by
  simp only [setStatic, Action.bind_eq_ok, checkAlive_eq_ok, Action.demand_eq_ok]
  constructor
  · rintro ⟨_, _, ⟨hd, ha, hc⟩, found, _, ⟨hd', hfound⟩, _, _, h, h'⟩
    subst hd hd'
    cases h
    cases h'
    exact ⟨ha, hc, found.1, found.2, hfound, rfl⟩
  · rintro ⟨ha, hc, owner, old, hfound, hd'⟩
    subst hd'
    exact ⟨(), d, ⟨rfl, ha, hc⟩, _, d, ⟨rfl, hfound⟩, (), _, rfl, rfl⟩

theorem accessor_local (thread : ThreadId) (frame : Nat) (name : String) :
    Accessor (getLocal thread frame name : Remote η Value) (setLocal thread frame name) where
  silent := silent_getLocal thread frame name
  fails he v := by
    apply (silent_frameAt thread frame).bind_fails ?_ he
    intro (t, position, f) e he
    cases hlocal : f.locals.get? name with
    | some a =>
      simp only [hlocal] at he
      cases he
    | none =>
      simp only [hlocal] at he
      cases he
      have hmissing := Table.contains_eq_false_iff.2 hlocal
      simp only [Action.bind_apply, Action.require, hmissing]
      rfl
  writes {d a} ha v := by
    obtain ⟨-, hal, hc, t, f, ht, hs, hf, hlocal⟩ :=
      getLocal_eq_ok.1 ((silent_getLocal thread frame name).fst_eq_iff.1 ha)
    have hname := Table.contains_iff.2 ⟨a, hlocal⟩
    refine ⟨_, setLocal_eq_ok.2 ⟨hal, hc, t, f, ht, hs, hf, hname, rfl⟩, ?_⟩
    apply (silent_getLocal thread frame name).fst_eq_iff.2
    apply getLocal_eq_ok.2
    exact ⟨rfl, hal, hc, _, _, Table.get?_insert_self _ _ _, hs,
      Thread.frame?_setFrame_self hf _, Table.get?_insert_self _ _ _⟩

theorem accessor_field (h : Handle) (name : String) :
    Accessor (getField h name : Remote η Value) (setField h name) where
  silent := silent_getField h name
  fails he v := by
    apply (silent_heapObject h).bind_fails ?_ he
    intro object e he
    cases hfields : object.content.fields? with
    | none =>
      simp only [hfields, Option.bind_none] at he
      cases he
      simp only [Option.filter_none]
      rfl
    | some fields =>
      cases hfield : fields.get? name with
      | some a =>
        simp only [hfields, Option.bind_some, hfield] at he
        cases he
      | none =>
        simp only [hfields, Option.bind_some, hfield] at he
        cases he
        have hmissing := Table.contains_eq_false_iff.2 hfield
        simp only [Option.filter_some, hmissing]
        rfl
  writes {d a} ha v := by
    obtain ⟨-, hal, hc, object, fields, ho, hfields, hfield⟩ :=
      getField_eq_ok.1 ((silent_getField h name).fst_eq_iff.1 ha)
    have hname := Table.contains_iff.2 ⟨a, hfield⟩
    refine ⟨_, setField_eq_ok.2 ⟨hal, hc, object, fields, ho, hfields, hname, rfl⟩, ?_⟩
    apply (silent_getField h name).fst_eq_iff.2
    apply getField_eq_ok.2
    exact ⟨rfl, hal, hc, _, _, Table.get?_insert_self _ _ _, rfl, Table.get?_insert_self _ _ _⟩

theorem accessor_static (type : TypeRef) (name : String) :
    Accessor (getStatic type name : Remote η Value) (setStatic type name) where
  silent := silent_getStatic type name
  fails he v := by
    apply silent_checkAlive.bind_fails ?_ he
    intro _ e he
    apply Silent.bind_fails (.demand _ _) ?_ he
    intro found e he
    cases he
  writes {d a} ha v := by
    obtain ⟨-, hal, hc, owner, hfound⟩ :=
      getStatic_eq_ok.1 ((silent_getStatic type name).fst_eq_iff.1 ha)
    refine ⟨_, setStatic_eq_ok.2 ⟨hal, hc, owner, a, hfound, rfl⟩, ?_⟩
    apply (silent_getStatic type name).fst_eq_iff.2
    apply getStatic_eq_ok.2
    exact ⟨rfl, hal, hc, owner, ClassTable.resolveStatic_putStatic_self hfound v⟩

end Remote

namespace Cell

theorem accessor (c : Cell) : Accessor (c.get : Remote η Value) fun v => c.set v := by
  cases c with
  | inFrame thread frame name => exact Remote.accessor_local thread frame name
  | inObject h name => exact Remote.accessor_field h name
  | inType type name => exact Remote.accessor_static type name

end Cell

namespace Debuggee

/-- The same threads are suspended, and the cells that satisfy `P` are alike. -/
structure Agree (P : Cell → Prop) (d d' : Debuggee η) : Prop where
  suspended : ∀ thread, SameAnswer (Remote.isSuspended thread) d d'
  cells : ∀ c, P c → SameAnswer c.get d d'

instance : IsPreorder (Debuggee η) (Agree P) where
  refl _ := ⟨fun _ => rfl, fun _ _ => rfl⟩
  trans _ _ _ h h' := ⟨fun thread => IsTrans.trans _ _ _ (h.suspended thread) (h'.suspended thread),
    fun c hc => IsTrans.trans _ _ _ (h.cells c hc) (h'.cells c hc)⟩

theorem Agree.of_setLocal {d d' : Debuggee η}
    (h : Remote.setLocal thread frame name value d = (.ok (), d'))
    (hP : ∀ c, P c → c.Apart (.inFrame thread frame name)) : Agree P d d' := by
  obtain ⟨-, -, t, f, ht, hs, hf, -, rfl⟩ := Remote.setLocal_eq_ok.1 h
  constructor
  · intro thread'
    refine Remote.isSuspended_congr rfl rfl ?_
    refine Table.get?_insert_congr ht (Option.map (·.suspended)) ?_ thread'
    rfl
  · intro c hc
    cases c with
    | inFrame thread' frame' other =>
      have hne : other ≠ name := hP _ hc
      refine Remote.getLocal_congr rfl rfl ?_
      refine Table.get?_insert_congr ht
        (fun t => (t.filter (·.suspended)).map fun t => (t.frame? frame').map (·.locals.get? other))
        ?_ thread'
      have hlocal := Table.get?_insert_of_ne f.locals (Ne.symm hne) value
      have hframe := Thread.map_frame?_setFrame hf { f with locals := f.locals.insert name value }
        (·.locals.get? other) hlocal frame'
      have hs' (f' : CallFrame) : (t.setFrame frame f').suspended = true := hs
      simp only [Option.filter_some, hs, hs', if_true, Option.map_some, hframe]
    | inObject h other => exact Remote.getField_congr rfl rfl rfl
    | inType type other => exact Remote.getStatic_congr rfl rfl rfl

theorem Agree.of_setField {d d' : Debuggee η}
    (hset : Remote.setField h name value d = (.ok (), d'))
    (hP : ∀ c, P c → c.Apart (.inObject h name)) : Agree P d d' := by
  obtain ⟨-, -, object, fields, ho, hfields, -, rfl⟩ := Remote.setField_eq_ok.1 hset
  constructor
  · intro thread
    exact Remote.isSuspended_congr rfl rfl rfl
  · intro c hc
    cases c with
    | inFrame thread frame other => exact Remote.getLocal_congr rfl rfl rfl
    | inObject h' other =>
      have hne : other ≠ name := hP _ hc
      refine Remote.getField_congr rfl rfl ?_
      refine Table.get?_insert_congr ho
        (Option.map (·.content.fields?.bind (·.get? other))) ?_ h'.id
      have hfield := Table.get?_insert_of_ne fields (Ne.symm hne) value
      simp only [Option.map_some, hfields, HeapContent.fields?, Option.bind_some, hfield]
    | inType type other => exact Remote.getStatic_congr rfl rfl rfl

theorem Agree.of_setStatic {d d' : Debuggee η} {type : TypeRef}
    (hset : Remote.setStatic type name value d = (.ok (), d'))
    (hP : ∀ c, P c → c.Apart (.inType type name)) : Agree P d d' := by
  obtain ⟨-, -, owner, old, hfound, rfl⟩ := Remote.setStatic_eq_ok.1 hset
  constructor
  · intro thread
    exact Remote.isSuspended_congr rfl rfl rfl
  · intro c hc
    cases c with
    | inFrame thread frame other => exact Remote.getLocal_congr rfl rfl rfl
    | inObject h other => exact Remote.getField_congr rfl rfl rfl
    | inType type' other =>
      have hne : other ≠ name := hP _ hc
      refine Remote.getStatic_congr rfl rfl ?_
      exact ClassTable.resolveStatic_putStatic_of_ne hne _ _ _ _

end Debuggee

/-- A write to a cell goes unnoticed in the cells apart from it. -/
theorem Cell.keeps_set (c : Cell) (value : Value) (hP : ∀ c', P c' → c'.Apart c) :
    Keeps (Debuggee.Agree P) (c.set value : Remote η Unit) := by
  intro d
  cases hget : (c.get d).1 with
  | error e =>
    rw [c.accessor.fails hget]
    exact refl d
  | ok old =>
    obtain ⟨d', hset, -⟩ := c.accessor.writes hget value
    rw [hset]
    cases c with
    | inFrame thread frame name => exact .of_setLocal hset hP
    | inObject h name => exact .of_setField hset hP
    | inType type name => exact .of_setStatic hset hP

end Probe
