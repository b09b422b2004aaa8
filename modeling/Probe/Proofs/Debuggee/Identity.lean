import Probe.Proofs.Debuggee.Handles
import Probe.Proofs.Machine.CallLog

namespace Probe
set_option autoImplicit true

open Probe.Action (Keeps)

inductive Holder where
  | object (id : ObjectId)
  | loaded (className : String)
  | arrayType (name : String)
  deriving DecidableEq

namespace Debuggee

def idOf (d : Debuggee η) : Holder → Option Nat
  | .object id => (d.objects.get? id).map fun _ => id
  | .loaded className => (d.classes.get? className).map (·.id)
  | .arrayType name => d.arrayTypes.get? name

/-- All ids come from the counter, and each has one holder. -/
structure Identified (d : Debuggee η) : Prop where
  lt_nextId : ∀ {x id}, d.idOf x = some id → id < d.nextId
  unique : ∀ {x y id}, d.idOf x = some id → d.idOf y = some id → x = y

/-- The counter does not go back, array types keep their ids, and objects keep their types and
the outlines of their contents. -/
structure Lasting (d d' : Debuggee η) : Prop where
  nextId_le : d.nextId ≤ d'.nextId
  arrayTypes : ∀ {name id}, d.arrayTypes.get? name = some id → d'.arrayTypes.get? name = some id
  objects : ∀ {id object}, d.objects.get? id = some object → ∃ content,
    d'.objects.get? id = some { object with content } ∧ content.outline = object.content.outline

theorem Identified.of_same {d d' : Debuggee η} (hd : d.Identified) (hnext : d'.nextId = d.nextId)
    (hids : ∀ x, d'.idOf x = d.idOf x) : d'.Identified := by
  constructor
  · intro x id hx
    rw [hids] at hx
    rw [hnext]
    exact hd.lt_nextId hx
  · intro x y id hx hy
    rw [hids] at hx hy
    exact hd.unique hx hy

/-- The next id goes to one holder, in place of the id it may have had. -/
theorem Identified.give {d d' : Debuggee η} (hd : d.Identified)
    (hnext : d'.nextId = d.nextId + 1)
    (hids : ∀ y, d'.idOf y = if y = x then some d.nextId else d.idOf y) : d'.Identified := by
  have hcases (y : Holder) (id : Nat) (hy : d'.idOf y = some id) :
      y = x ∧ id = d.nextId ∨ d.idOf y = some id ∧ id < d.nextId := by
    rw [hids] at hy
    split at hy
    · exact .inl ⟨‹_›, (Option.some.inj hy).symm⟩
    · exact .inr ⟨hy, hd.lt_nextId hy⟩
  constructor
  · intro y id hy
    rw [hnext]
    rcases hcases y id hy with ⟨-, rfl⟩ | ⟨-, hlt⟩
    · exact Nat.lt_succ_self _
    · exact Nat.lt_succ_of_lt hlt
  · intro y z id hy hz
    rcases hcases y id hy with ⟨rfl, rfl⟩ | ⟨hy, hlt⟩
    · rcases hcases z _ hz with ⟨rfl, -⟩ | ⟨-, hlt⟩
      · rfl
      · exact absurd hlt (Nat.lt_irrefl _)
    · rcases hcases z id hz with ⟨-, rfl⟩ | ⟨hz, -⟩
      · exact absurd hlt (Nat.lt_irrefl _)
      · exact hd.unique hy hz

instance : IsPreorder (Debuggee η) Lasting where
  refl d := ⟨Nat.le_refl _, id, fun h => ⟨_, h, rfl⟩⟩
  trans d₁ d₂ d₃ h h' := by
    refine ⟨Nat.le_trans h.nextId_le h'.nextId_le, fun ha => h'.arrayTypes (h.arrayTypes ha), ?_⟩
    intro id object ho
    obtain ⟨content, hc, hsame⟩ := h.objects ho
    obtain ⟨content', hc', hsame'⟩ := h'.objects hc
    exact ⟨content', hc', hsame'.trans hsame⟩

/-- Where ids were in order they still are, and what was there lasts. -/
def Endures (d d' : Debuggee η) : Prop := d.Identified → d'.Identified ∧ d.Lasting d'

instance : IsPreorder (Debuggee η) Endures where
  refl d hd := ⟨hd, refl d⟩
  trans d₁ d₂ d₃ h h' hd := by
    obtain ⟨hd', hlast⟩ := h hd
    obtain ⟨hd'', hlast'⟩ := h' hd'
    exact ⟨hd'', IsTrans.trans _ _ _ hlast hlast'⟩

theorem endures_of_same {d d' : Debuggee η} (hnext : d'.nextId = d.nextId)
    (hobjects : d'.objects = d.objects) (harrays : d'.arrayTypes = d.arrayTypes)
    (hclasses : ∀ name, (d'.classes.get? name).map (·.id) = (d.classes.get? name).map (·.id)) :
    Endures d d' := by
  intro hd
  constructor
  · apply hd.of_same hnext
    intro x
    cases x with
    | object id => simp only [idOf, hobjects]
    | loaded className => exact hclasses className
    | arrayType name => simp only [idOf, harrays]
  · refine ⟨Nat.le_of_eq hnext.symm, ?_, ?_⟩
    · rw [harrays]
      exact id
    · rw [hobjects]
      exact fun h => ⟨_, h, rfl⟩

theorem endures_allocate (d : Debuggee η) (typeName : String) (content : HeapContent) :
    Endures d (d.allocate typeName content).2 := by
  intro hd
  have hfree {id : ObjectId} {object : HeapObject} (h : d.objects.get? id = some object) :
      d.nextId ≠ id := by
    have hid : d.idOf (.object id) = some id := by simp [idOf, h]
    exact Nat.ne_of_gt (hd.lt_nextId hid)
  constructor
  · apply hd.give (x := .object d.nextId) rfl
    intro y
    cases y with
    | object id =>
      by_cases hid : id = d.nextId
      · subst hid
        simp [idOf, allocate]
      · simp [idOf, allocate, hid, Table.get?_insert_of_ne _ (Ne.symm hid)]
    | loaded className => simp [idOf, allocate]
    | arrayType name => simp [idOf, allocate]
  · refine ⟨Nat.le_succ _, id, fun h => ⟨_, ?_, rfl⟩⟩
    exact (Table.get?_insert_of_ne _ (hfree h) _).trans h

theorem endures_addClass (d : Debuggee η) (c : ClassDef η) : Endures d (d.addClass c).2 := by
  intro hd
  constructor
  · apply hd.give (x := .loaded c.name) rfl
    intro y
    cases y with
    | object id => simp [idOf, addClass]
    | loaded className =>
      by_cases hname : className = c.name
      · subst hname
        simp [idOf, addClass]
      · simp [idOf, addClass, hname, Table.get?_insert_of_ne _ (Ne.symm hname)]
    | arrayType name => simp [idOf, addClass]
  · exact ⟨Nat.le_succ _, id, fun h => ⟨_, h, rfl⟩⟩

theorem endures_arrayType {d : Debuggee η} (hnone : d.arrayTypes.get? name = none) :
    Endures d { d with
      nextId := d.nextId + 1, arrayTypes := d.arrayTypes.insert name d.nextId } := by
  intro hd
  constructor
  · apply hd.give (x := .arrayType name) rfl
    intro y
    cases y with
    | object id => simp [idOf]
    | loaded className => simp [idOf]
    | arrayType other =>
      by_cases hname : other = name
      · subst hname
        simp [idOf]
      · simp [idOf, hname, Table.get?_insert_of_ne _ (Ne.symm hname)]
  · refine ⟨Nat.le_succ _, fun {other id} h => ?_, fun h => ⟨_, h, rfl⟩⟩
    have hne : name ≠ other := by
      rintro rfl
      rw [hnone] at h
      cases h
    exact (Table.get?_insert_of_ne _ hne _).trans h

theorem endures_content {d : Debuggee η} {id : ObjectId} {content : HeapContent}
    (ho : d.objects.get? id = some object) (hsame : content.outline = object.content.outline) :
    Endures d { d with objects := d.objects.insert id { object with content } } := by
  intro hd
  constructor
  · refine hd.of_same rfl fun x => ?_
    cases x with
    | object other =>
      refine Table.get?_insert_congr ho (Option.map fun _ => other) ?_ other
      rfl
    | loaded className => rfl
    | arrayType name => rfl
  · refine ⟨Nat.le_refl _, fun h => h, fun {other object'} h => ?_⟩
    by_cases hid : id = other
    · subst hid
      rw [ho] at h
      cases h
      exact ⟨content, Table.get?_insert_self _ _ _, hsame⟩
    · exact ⟨_, (Table.get?_insert_of_ne _ hid _).trans h, rfl⟩

theorem endures_putStatic (d : Debuggee η) (owner name : String) (value : Value) :
    Endures d { d with classes := d.classes.putStatic owner name value } := by
  refine endures_of_same rfl rfl rfl fun className => ?_
  rw [ClassTable.get?_putStatic]
  cases d.classes.get? className with
  | none => rfl
  | some entry => by_cases hclass : className = owner <;> simp [hclass]

theorem Endures.allowsChanges : Remote.AllowsChanges (@Endures η) where
  newString d _ := d.endures_allocate _ _
  arrayType _ _ hnone := endures_arrayType hnone
  log _ _ := endures_of_same rfl rfl rfl fun _ => rfl
  newObject d _ := d.endures_allocate _ _
  newArrayOf d _ _ := d.endures_allocate _ _
  content _ _ _ _ ho hsame := endures_content ho hsame
  putStatic d owner name value := d.endures_putStatic owner name value
  thread _ _ _ := endures_of_same rfl rfl rfl fun _ => rfl

theorem Moves.endures {d d' : Debuggee η} (h : Moves d d') : Endures d d' := by
  cases h with
  | addClass c => exact d.endures_addClass c
  | addThread thread frames => exact endures_of_same rfl rfl rfl fun _ => rfl
  | resume thread =>
    unfold Debuggee.resume
    split
    · exact endures_of_same rfl rfl rfl fun _ => rfl
    · exact refl d
  | suspend thread byEvent =>
    unfold Debuggee.suspend
    split
    · exact endures_of_same rfl rfl rfl fun _ => rfl
    · exact refl d
  | disconnect => exact endures_of_same rfl rfl rfl fun _ => rfl
  | terminate => exact endures_of_same rfl rfl rfl fun _ => rfl
  | newObject typeName => exact d.endures_allocate _ _
  | newString text => exact d.endures_allocate _ _
  | newArrayOf typeName elements => exact d.endures_allocate _ _
  | send r => exact r.keeps_send Endures.allowsChanges d

theorem Evolves.endures {d d' : Debuggee η} (h : Evolves d d') : Endures d d' := by
  induction h with
  | refl => exact refl d
  | tail _ hmove ih => exact IsTrans.trans _ _ _ ih hmove.endures

theorem evolves_send {d d' : Debuggee η} {r : Request η α} (h : r.send d = (answer, d')) :
    Evolves d d' := by
  have hmove := Moves.send (d := d) r
  rw [h] at hmove
  exact .single hmove

theorem identified_blank : (blank : Debuggee η).Identified := by
  have hnone (x : Holder) : (blank : Debuggee η).idOf x = none := by cases x <;> rfl
  constructor
  · intro x id hx
    rw [hnone] at hx
    cases hx
  · intro x y id hx
    rw [hnone] at hx
    cases hx

theorem Reachable.identified {d : Debuggee η} (hd : Reachable d) : d.Identified := by
  have hobject := (endures_addClass (η := η) blank { name := objectType, superclass := none }
    identified_blank).1
  have hinitial : (Debuggee.initial : Debuggee η).Identified :=
    (endures_addClass _ { name := stringType } hobject).1
  exact (Evolves.endures hd hinitial).1

end Debuggee

open Debuggee (Evolves)

theorem World.composable_evolves {hooks : Hooks η κ}
    (hh : ∀ label args, Keeps (Across κ Evolves) (hooks label args)) :
    Composable hooks hooks fun _ x _ => Keeps (Across κ Evolves) x :=
  composable_keeps (fun c => keeps_remote c.evolves_make) hh

namespace Debuggee

/-- In every state the ids are below the counter and no two holders share one. In the course of
time the counter does not go back, an array type is answered with the id it was given first, and
objects keep their types and the outlines of their contents. Calls are part of that course if
the hooks are made of what can happen to a debuggee. -/
theorem identities_last (d : Debuggee η) (hooks : Hooks η κ) (hd : d.Reachable)
    (hh : ∀ label args, Keeps (World.Across κ Evolves) (hooks label args)) :
    d.Identified ∧
    (∀ d', Evolves d d' → d'.Identified ∧ d.Lasting d') ∧
    (∀ name type d₁ d₂ type' d₃, Remote.classByName name d = (.ok type, d₁) →
      type.sort = .arrayType → Evolves d₁ d₂ → Remote.classByName name d₂ = (.ok type', d₃) →
      type'.sort = .arrayType → type'.id = type.id) ∧
    ∀ w : World η κ, w.debuggee = d → ∀ name signature args thread,
      (∀ h, Evolves d (World.invokeMethod hooks h name signature args thread w).2.debuggee) ∧
      ∀ type,
        Evolves d (World.invokeStatic hooks type name signature args thread w).2.debuggee := by
  have hids := hd.identified
  refine ⟨hids, fun d' h => h.endures hids, ?_, ?_⟩
  · intro name type d₁ d₂ type' d₃ h hsort hlater h' hsort'
    have hgiven := Remote.arrayTypes_of_classByName h hsort
    have hanswered := Remote.arrayTypes_of_classByName h' hsort'
    have hask : Evolves d d₁ := evolves_send (r := .classByName name) h
    have hask' : Evolves d₂ d₃ := evolves_send (r := .classByName name) h'
    have hlast : Evolves d₁ d₃ := hlater.trans hask'
    have hsame := (hlast.endures (hask.endures hids).1).2.arrayTypes hgiven
    rw [hanswered] at hsame
    exact Option.some.inj hsame
  · rintro w rfl name signature args thread
    have hcalls := World.composable_evolves hh
    exact ⟨fun h => hcalls.invokeMethod h name signature args thread w,
      fun type => hcalls.invokeStatic type name signature args thread w⟩

/-- The arrays of counters, asked for before and after the class is loaded again. -/
def counterArrays : TypeRef := ⟨5, "Counter[]", .arrayType⟩

theorem identities_last_counter :
    let asked := Remote.classByName "Counter[]" Machine.counterWorld.debuggee
    let reloaded := (asked.2.addClass Machine.counterClass).2
    let shown := (World.invokeMethod Machine.counterHooks Machine.counter "toString"
      "()Ljava/lang/String;" [] 1 Machine.counterWorld).2.debuggee
    Machine.counterWorld.debuggee.Reachable ∧
    (∀ label args, Keeps (World.Across Unit Evolves) (Machine.counterHooks label args)) ∧
    asked.1 = .ok counterArrays ∧
    (∃ type, (Remote.classByName "Counter[]" reloaded).1 = .ok type ∧
      type.id = counterArrays.id) ∧
    shown.peekField? Machine.counter "calls" = some (.int 1) ∧
    Machine.counterWorld.debuggee.Lasting shown := by
  intro asked reloaded shown
  obtain ⟨-, hlast, harrays, hcalls⟩ := identities_last Machine.counterWorld.debuggee
    Machine.counterHooks Machine.counterWorld_reachable Machine.counterHooks_evolve
  have hasked : Remote.classByName "Counter[]" Machine.counterWorld.debuggee =
      (.ok counterArrays, asked.2) := Prod.ext (by rfl) rfl
  have hagain : (Remote.classByName "Counter[]" reloaded).1 = .ok counterArrays := by rfl
  have hid := harrays "Counter[]" counterArrays asked.2 reloaded counterArrays _ hasked rfl
    (.single (.addClass Machine.counterClass)) (Prod.ext hagain rfl) rfl
  have hshown : Evolves Machine.counterWorld.debuggee shown :=
    (hcalls Machine.counterWorld rfl "toString" "()Ljava/lang/String;" [] 1).1 Machine.counter
  exact ⟨Machine.counterWorld_reachable, Machine.counterHooks_evolve, congrArg Prod.fst hasked,
    ⟨counterArrays, hagain, hid⟩, by decide, (hlast shown hshown).2⟩

end Debuggee

end Probe
