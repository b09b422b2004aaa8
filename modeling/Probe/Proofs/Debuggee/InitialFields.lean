import Probe.Proofs.Debuggee.Arrays
import Probe.Proofs.Debuggee.Recorded
import Probe.Proofs.Debuggee.Search
import Probe.World

namespace Probe
set_option autoImplicit true

open Probe.Action (Keeps)

variable {id : ObjectId}

namespace ClassTable

/-- The fields in the definition of a class, in the order given there. -/
def fieldsOf (c : ClassTable η) (className : String) : List (String × Value) :=
  (c.get? className).elim [] (·.definition.fields)

def DeclaresField (c : ClassTable η) (className field : String) : Prop :=
  field ∈ (c.fieldsOf className).map (·.1)

instance (c : ClassTable η) (className field : String) :
    Decidable (c.DeclaresField className field) :=
  inferInstanceAs (Decidable (field ∈ (c.fieldsOf className).map (·.1)))

/-- The value is the last one that the definition of a class gives for a field. -/
def GivesLast (c : ClassTable η) (className field : String) (value : Value) : Prop :=
  ∃ earlier later, c.fieldsOf className = earlier ++ (field, value) :: later ∧
    ∀ e ∈ later, e.1 ≠ field

def ownField? (c : ClassTable η) (field className : String) : Option Value :=
  Table.lookup field (c.fieldsOf className).reverse

section
variable {c : ClassTable η}

theorem ownField?_eq_some_iff :
    c.ownField? field D = some value ↔ c.GivesLast D field value := by
  rw [ownField?, Table.lookup_eq_find?, Option.map_eq_some_iff]
  constructor
  · rintro ⟨⟨_, _⟩, hfound, rfl⟩
    obtain ⟨hname, later, earlier, hsplit, hlater⟩ := List.find?_eq_some_iff_append.1 hfound
    obtain rfl := of_decide_eq_true hname
    refine ⟨earlier.reverse, later.reverse, ?_, ?_⟩
    · simpa using congrArg List.reverse hsplit
    · simpa using hlater
  · rintro ⟨earlier, later, hsplit, hlater⟩
    refine ⟨(field, value), List.find?_eq_some_iff_append.2 ⟨by simp, ?_⟩, rfl⟩
    exact ⟨later.reverse, earlier.reverse, by simp [hsplit], by simpa using hlater⟩

theorem ownField?_eq_none_iff : c.ownField? field D = none ↔ ¬c.DeclaresField D field := by
  rw [ownField?, Table.lookup_eq_find?, Option.map_eq_none_iff, List.find?_eq_none]
  simp only [List.mem_reverse, decide_eq_true_eq, DeclaresField, List.mem_map,
    not_exists, not_and]

theorem get?_initialFields (c : ClassTable η) (T field : String) :
    (c.initialFields T).get? field = (c.ancestry T).findSome? (c.ownField? field) := by
  rw [initialFields, List.foldl_reverse]
  induction c.ancestry T with
  | nil => rfl
  | cons D classes ih =>
    rw [List.foldr_cons, List.findSome?_cons]
    cases hentry : c.get? D with
    | none => simp [hentry, ownField?, fieldsOf, Table.lookup, ih]
    | some entry =>
      simp only [Table.get?_insertAll, ownField?, fieldsOf, hentry, Option.elim_some, ih]
      cases Table.lookup field entry.definition.fields.reverse <;> rfl

theorem initialFields_eq_some_iff : (c.initialFields T).get? field = some value ↔
    ∃ before D after, c.ancestry T = before ++ D :: after ∧
      (∀ E ∈ before, ¬c.DeclaresField E field) ∧ c.GivesLast D field value := by
  rw [get?_initialFields, List.findSome?_eq_some_iff]
  simp only [ownField?_eq_some_iff, ownField?_eq_none_iff]
  constructor
  · rintro ⟨before, D, after, hsplit, hvalue, hbefore⟩
    exact ⟨before, D, after, hsplit, hbefore, hvalue⟩
  · rintro ⟨before, D, after, hsplit, hbefore, hvalue⟩
    exact ⟨before, D, after, hsplit, hvalue, hbefore⟩

theorem contains_initialFields_iff : (c.initialFields T).contains field = true ↔
    ∃ D ∈ c.ancestry T, c.DeclaresField D field := by
  have hnone : (c.initialFields T).contains field = false ↔
      ∀ D ∈ c.ancestry T, ¬c.DeclaresField D field := by
    rw [Table.contains_eq_false_iff, get?_initialFields, List.findSome?_eq_none_iff]
    simp only [ownField?_eq_none_iff]
  rw [← Bool.not_eq_false, hnone]
  simp

/-- Along the chain of superclasses the nearest class that declares a field decides. -/
theorem initialFields_of_chain (h : c.SuperclassChain [] T (before ++ D :: after))
    (hbefore : ∀ E ∈ before, ¬c.DeclaresField E field) (hvalue : c.GivesLast D field value) :
    (c.initialFields T).get? field = some value := by
  obtain ⟨others, hsplit⟩ := h.begins_ancestry
  refine initialFields_eq_some_iff.2 ⟨before, D, after ++ others, ?_, hbefore, hvalue⟩
  rw [← hsplit, List.append_assoc, List.cons_append]

end

end ClassTable

def Request.writesField (id : ObjectId) (field : String) : Request η α → Bool
  | setField h name _ => h.id == id && name == field
  | _ => false

namespace Debuggee

/-- What can happen to a debuggee without a write to one field of one object: all that leaves no
entry in the log, and all requests but such a write. -/
inductive MovesPast (id : ObjectId) (field : String) : Debuggee η → Debuggee η → Prop
  | unlogged (h : Moves d d') (hlog : d'.calls = d.calls) : MovesPast id field d d'
  | send (r : Request η α) (hr : r.writesField id field = false) :
    MovesPast id field d (r.send d).2

/-- Whatever else happens to a debuggee is a write to the field. -/
theorem Moves.past_or_written {d d' : Debuggee η} (hmove : Moves d d') (id : ObjectId)
    (field : String) : MovesPast id field d d' ∨
      ∃ h value, h.id = id ∧ Remote.setField h field value d = (.ok (), d') := by
  by_cases hlog : d'.calls = d.calls
  · exact .inl (.unlogged hmove hlog)
  cases hmove with
  | resume thread =>
    unfold Debuggee.resume at hlog
    split at hlog <;> exact absurd rfl hlog
  | suspend thread byEvent =>
    unfold Debuggee.suspend at hlog
    split at hlog <;> exact absurd rfl hlog
  | send r =>
    cases hr : r.writesField id field with
    | false => exact .inl (.send r hr)
    | true =>
      cases r with
      | setField h name value =>
        obtain ⟨hid, rfl⟩ : h.id = id ∧ name = field := by simpa [Request.writesField] using hr
        rcases Write.send_cases (.cell (.inObject h name) value) d with
          ⟨e, he⟩ | ⟨_, d', hset, -⟩
        · exact absurd (congrArg (·.2.calls) he) hlog
        · refine .inr ⟨h, value, hid, ?_⟩
          change (Write.cell (.inObject h name) value).send d =
            (.ok (), ((Write.cell (.inObject h name) value).send d).2)
          rw [hset]
      | _ => cases hr
  | _ => exact absurd rfl hlog

abbrev EvolvesPast (id : ObjectId) (field : String) : Debuggee η → Debuggee η → Prop :=
  Relation.ReflTransGen (MovesPast id field)

def HoldsField (d : Debuggee η) (id : ObjectId) (field : String) (found : Option Value) : Prop :=
  ∃ object, d.objects.get? id = some object ∧
    object.content.fields?.bind (·.get? field) = found

/-- An object in a debuggee in a proper state keeps what it has for a field. -/
def SparesField (id : ObjectId) (field : String) (d d' : Debuggee η) : Prop :=
  d.Sound → d'.Sound ∧ ∀ found, d.HoldsField id field found → d'.HoldsField id field found

instance : IsPreorder (Debuggee η) (SparesField id field) where
  refl d hd := ⟨hd, fun _ h => h⟩
  trans d₁ d₂ d₃ h h' hd := by
    obtain ⟨hd', hfield⟩ := h hd
    obtain ⟨hd'', hfield'⟩ := h' hd'
    exact ⟨hd'', fun found hfound => hfield' found (hfield found hfound)⟩

theorem Spares.sparesField {d d' : Debuggee η} (h : Spares id d d') :
    SparesField id field d d' := by
  intro hd
  obtain ⟨hd', -, -, hobjects⟩ := h hd
  refine ⟨hd', ?_⟩
  rintro found ⟨object, ho, hfound⟩
  exact ⟨object, hobjects object ho, hfound⟩

theorem SparesField.allowsOuterChanges :
    Remote.AllowsOuterChanges (@SparesField η id field) where
  newString d text := (Spares.allowsOuterChanges.newString d text).sparesField
  arrayType d name hnone := (Spares.allowsOuterChanges.arrayType d name hnone).sparesField
  log d entry := (d.spares_log entry).sparesField
  newObject d _ := (d.spares_allocate _ _).sparesField
  newArrayOf d _ _ := (d.spares_allocate _ _).sparesField
  putStatic d owner name value :=
    (Spares.allowsOuterChanges.putStatic d owner name value).sparesField
  thread d id t := (Spares.allowsOuterChanges.thread d id t).sparesField

theorem sparesField_content {d : Debuggee η} {other : ObjectId} {content : HeapContent}
    (ho : d.objects.get? other = some object)
    (hcontent : other = id → content.fields?.bind (·.get? field) =
      object.content.fields?.bind (·.get? field)) :
    SparesField id field d
      { d with objects := d.objects.insert other { object with content } } := by
  intro hd
  refine ⟨hd.insert ho _, ?_⟩
  rintro found ⟨object', ho', hfound⟩
  by_cases hid : other = id
  · subst hid
    obtain rfl : object = object' := Option.some.inj (ho.symm.trans ho')
    exact ⟨_, Table.get?_insert_self _ _ _, (hcontent rfl).trans hfound⟩
  · exact ⟨object', (Table.get?_insert_of_ne _ hid _).trans ho', hfound⟩

end Debuggee

open Debuggee (SparesField)

theorem Request.sparesField_send (r : Request η α) (hr : r.writesField id field = false) :
    Keeps (SparesField id field) r.send := by
  have houter : Remote.AllowsOuterChanges (@SparesField η id field) :=
    SparesField.allowsOuterChanges
  cases r with
  | setField h name value =>
    apply Remote.keeps_setField_of houter
    intro d object fields ho hfields _
    apply Debuggee.sparesField_content ho
    intro hid
    have hne : name ≠ field := by simpa [writesField, hid] using hr
    rw [hfields]
    exact Table.get?_insert_of_ne fields hne value
  | setElement h index value =>
    apply Remote.keeps_setElement_of houter
    intro d object elements ho helements
    apply Debuggee.sparesField_content ho
    intro _
    rw [helements]
    rfl
  | _ => exact keeps_send_outer houter _ rfl

namespace Debuggee

/-- What leaves no entry in the log leaves all objects as they are. -/
theorem Moves.objects_of_unlogged {d d' : Debuggee η} (h : Moves d d') (hd : d.Sound)
    (hlog : d'.calls = d.calls) (ho : d.objects.get? id = some object) :
    d'.objects.get? id = some object := by
  cases h with
  | resume thread =>
    unfold Debuggee.resume
    split <;> exact ho
  | suspend thread byEvent =>
    unfold Debuggee.suspend
    split <;> exact ho
  | newObject typeName => exact (Kept.allocate hd _ _).objects ho
  | newString text => exact (Kept.allocate hd _ _).objects ho
  | newArrayOf typeName elements => exact (Kept.allocate hd _ _).objects ho
  | send r => exact ((r.recorded_send d).untouched hd hlog).objects ho
  | _ => exact ho

theorem MovesPast.sparesField {d d' : Debuggee η} (h : MovesPast id field d d') :
    SparesField id field d d' := by
  cases h with
  | unlogged hmove hlog =>
    intro hd
    refine ⟨hmove.sound hd, ?_⟩
    rintro found ⟨object, ho, hfound⟩
    exact ⟨object, hmove.objects_of_unlogged hd hlog ho, hfound⟩
  | send r hr => exact r.sparesField_send hr d

theorem EvolvesPast.sparesField {d d' : Debuggee η} (h : EvolvesPast id field d d') :
    SparesField id field d d' := by
  induction h with
  | refl => exact refl d
  | tail _ hmove ih => exact IsTrans.trans _ _ _ ih hmove.sparesField

/-- From now on an object reads each of its fields as the table says until the field is written,
and has no fields but those in the table. -/
def ReadsAs (d : Debuggee η) (id : ObjectId) (fields : Table String Value) : Prop :=
  ∀ field d', EvolvesPast id field d d' → d'.alive = true → d'.connected = true →
    ∀ h : Handle, h.id = id → Remote.getField h field d' =
      ((fields.get? field).elim (.error (.noSuchField h.typeName field)) .ok, d')

theorem getField_of_holdsField {d : Debuggee η} {h : Handle} (ha : d.alive = true)
    (hc : d.connected = true) (hfound : d.HoldsField h.id field found) :
    Remote.getField h field d =
      (found.elim (.error (.noSuchField h.typeName field)) .ok, d) := by
  obtain ⟨object, ho, hfield⟩ := hfound
  have hheap := Remote.heapObject_eq_ok.2 ⟨rfl, ha, hc, ho⟩
  rw [Remote.getField, Action.bind_of_ok hheap, hfield]
  cases found <;> rfl

theorem readsAs_newObject {d : Debuggee η} (hd : d.Sound) (T : String) :
    (d.newObject T).2.ReadsAs (d.newObject T).1.id (d.classes.initialFields T) := by
  intro field d' hpast ha hc h hid
  have hheld : (d.newObject T).2.HoldsField (d.newObject T).1.id field
      ((d.classes.initialFields T).get? field) :=
    ⟨_, Table.get?_insert_self _ _ _, rfl⟩
  have hkept := (hpast.sparesField (hd.allocate _ _)).2 _ hheld
  rw [← hid] at hkept
  exact getField_of_holdsField ha hc hkept

end Debuggee

theorem Remote.construct_eq_ok {d d' : Debuggee η}
    (h : construct type signature args thread d = (.ok v, d')) :
    ∃ entry, v = .object ((d.log entry).newObject type.name).1 ∧
      d' = ((d.log entry).newObject type.name).2 := by
  simp only [construct, Action.bind_eq_ok, checkInvocable_eq_ok, Action.demand_eq_ok,
    Action.require_eq_ok] at h
  obtain ⟨_, _, ⟨rfl, -⟩, _, _, ⟨rfl, -⟩, _, _, ⟨rfl, -⟩, _, _, ⟨rfl, -⟩, _, _, hlog, _, _, hnew,
    hdone⟩ := h
  cases hlog
  cases hnew
  cases hdone
  exact ⟨_, rfl, rfl⟩

/-- A type starts with the fields that the classes searched for it declare, and the first of
them that declares a field decides, by the last value it gives. So along the chain of
superclasses a field hides those of the same name farther up. Every object made from outside, by
a constructor or to be thrown reads each of its fields so while nothing happens that is a write
to the field. -/
theorem ClassTable.initialFields_in_order (c : ClassTable η) (T : String) :
    (∀ field, (c.initialFields T).contains field = true ↔
      ∃ D ∈ c.ancestry T, c.DeclaresField D field) ∧
    (∀ field value, (c.initialFields T).get? field = some value ↔
      ∃ before D after, c.ancestry T = before ++ D :: after ∧
        (∀ E ∈ before, ¬c.DeclaresField E field) ∧ c.GivesLast D field value) ∧
    (∀ before D after field value, c.SuperclassChain [] T (before ++ D :: after) →
      (∀ E ∈ before, ¬c.DeclaresField E field) → c.GivesLast D field value →
      (c.initialFields T).get? field = some value) ∧
    (∀ id field (d d' : Debuggee η), d.Moves d' → d.MovesPast id field d' ∨
      ∃ h value, h.id = id ∧ Remote.setField h field value d = (.ok (), d')) ∧
    ∀ d : Debuggee η, d.Reachable → d.classes = c →
      (d.newObject T).2.ReadsAs (d.newObject T).1.id (c.initialFields T) ∧
      (∀ type signature args thread v d', type.name = T →
        Remote.construct type signature args thread d = (.ok v, d') →
        ∃ h, v = .object h ∧ d'.ReadsAs h.id (c.initialFields T)) ∧
      ∀ (κ : Type) (hooks : Hooks η κ) (args : List Value) (w : World η κ), w.debuggee = d →
        ∃ h w', World.runBehavior hooks (.throws T) args w = (.error (.error (.threw h)), w') ∧
          w'.debuggee.ReadsAs h.id (c.initialFields T) := by
  refine ⟨fun field => contains_initialFields_iff, fun field value => initialFields_eq_some_iff,
    fun before D after field value => initialFields_of_chain,
    fun id field d d' hmove => hmove.past_or_written id field, ?_⟩
  rintro d hd rfl
  refine ⟨Debuggee.readsAs_newObject hd.sound T, ?_, ?_⟩
  · rintro type signature args thread v d' rfl hmade
    obtain ⟨entry, rfl, rfl⟩ := Remote.construct_eq_ok hmade
    exact ⟨_, rfl, Debuggee.readsAs_newObject (hd.sound.log entry) type.name⟩
  · rintro κ hooks args w rfl
    exact ⟨_, _, rfl, Debuggee.readsAs_newObject hd.sound T⟩

/-- A field of the first class hides that of its superclass, whose other field comes before that
of the interface. -/
def shadowing : Debuggee Unit :=
  let classes : List (ClassDef Unit) :=
    [{ name := "Base", fields := [("x", .int 1), ("y", .int 2)] },
     { ClassDef.interface "I" with fields := [("y", .int 9), ("z", .int 5)] },
     { name := "T", superclass := some "Base", interfaces := ["I"], constructors := ["()V"]
       fields := [("x", .int 3), ("x", .int 4)] }]
  (classes.foldl (fun d c => (d.addClass c).2) Debuggee.initial).addThread 1 []

def shadowingWorld : World Unit Unit :=
  { (World.initial () : World Unit Unit) with debuggee := shadowing }

theorem ClassTable.initialFields_in_order_shadowing :
    let fields := shadowing.classes.initialFields "T"
    let object : Handle := ⟨6, "T"⟩
    let made := Remote.construct ⟨5, "T", .classType⟩ "()V" [] 1 shadowing
    let written := (Remote.setField object "y" (.int 7) made.2).2
    let thrown := World.runBehavior (fun _ _ => pure .null) (.throws "T") [] shadowingWorld
    shadowing.Reachable ∧
    shadowing.classes.SuperclassChain [] "T" ["T", "Base", objectType] ∧
    fields.get? "x" = some (.int 4) ∧ fields.get? "y" = some (.int 2) ∧
    fields.contains "w" = false ∧
    made.1 = .ok (.object object) ∧
    Remote.getField object "x" written = (.ok (.int 4), written) ∧
    thrown.1 = .error (.error (.threw object)) ∧
    Remote.getField object "z" thrown.2.debuggee = (.ok (.int 5), thrown.2.debuggee) := by
  intro fields object made written thrown
  have hreachable : shadowing.Reachable :=
    (((Debuggee.Reachable.initial.tail (.addClass _)).tail (.addClass _)).tail (.addClass _)).tail
      (.addThread 1 [])
  have hchain : shadowing.classes.SuperclassChain [] "T" ["T", "Base", objectType] :=
    .up rfl (by decide) rfl (.up rfl (by decide) rfl (.top rfl (by decide) rfl))
  obtain ⟨hdeclared, hfirst, hhides, -, hobjects⟩ := initialFields_in_order shadowing.classes "T"
  obtain ⟨-, hmade, hthrown⟩ := hobjects shadowing hreachable rfl
  have hx : fields.get? "x" = some (.int 4) :=
    hhides [] "T" ["Base", objectType] "x" (.int 4) hchain (List.forall_mem_nil _)
      ⟨[("x", .int 3)], [], rfl, List.forall_mem_nil _⟩
  have hy : fields.get? "y" = some (.int 2) := by
    refine hhides ["T"] "Base" [objectType] "y" (.int 2) hchain ?_
      ⟨[("x", .int 1)], [], rfl, List.forall_mem_nil _⟩
    decide
  have hw : fields.contains "w" = false := by
    rw [← Bool.not_eq_true, hdeclared]
    decide
  have hz : fields.get? "z" = some (.int 5) :=
    (hfirst "z" (.int 5)).2 ⟨["T", "Base", objectType], "I", [], rfl, by decide,
      [("y", .int 9)], [], rfl, List.forall_mem_nil _⟩
  have hobject : made.1 = .ok (.object object) := rfl
  obtain ⟨h, hh, hreads⟩ := hmade _ "()V" [] 1 (.object object) made.2 rfl (Prod.ext hobject rfl)
  cases hh
  have hpast : Debuggee.EvolvesPast 6 "x" made.2 written :=
    .single (.send (.setField object "y" (.int 7)) rfl)
  have hgetx := hreads "x" written hpast rfl rfl object rfl
  rw [hx] at hgetx
  obtain ⟨h', w', hrun, hreads'⟩ := hthrown Unit (fun _ _ => pure .null) [] shadowingWorld rfl
  cases hrun
  have hgetz := hreads' "z" _ .refl rfl rfl object rfl
  rw [hz] at hgetz
  exact ⟨hreachable, hchain, hx, hy, hw, hobject, hgetx, rfl, hgetz⟩

end Probe
