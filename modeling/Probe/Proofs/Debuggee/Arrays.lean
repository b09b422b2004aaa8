import Probe.Proofs.Debuggee.Handles
import Probe.Proofs.Debuggee.Untouched

namespace Probe
set_option autoImplicit true

open Probe.Action (Keeps)

namespace Debuggee
variable {n : Nat} {get get' : Int → Value} {id : ObjectId}

/-- The first elements of a sequence. -/
def elementsOf (n : Nat) (get : Int → Value) : List Value :=
  (List.range n).map fun i : Nat => get i

@[simp]
theorem length_elementsOf (n : Nat) (get : Int → Value) : (elementsOf n get).length = n := by
  simp [elementsOf]

theorem getElem?_elementsOf (get : Int → Value) (h : i < n) :
    (elementsOf n get)[i]? = some (get i) := by
  simp [elementsOf, h]

theorem elementsOf_congr (h : ∀ i : Nat, i < n → get i = get' i) :
    elementsOf n get = elementsOf n get' :=
  List.map_congr_left fun i hi => h i (List.mem_range.1 hi)

theorem elementsOf_const (n : Nat) (v : Value) :
    elementsOf n (fun _ => v) = List.replicate n v := by
  rw [elementsOf, List.map_const', List.length_range]

theorem set_elementsOf (n : Nat) (get : Int → Value) (k : Nat) (v : Value) :
    (elementsOf n get).set k v = elementsOf n fun i => if i = k then v else get i := by
  apply List.ext_getElem?
  intro i
  by_cases hi : i < n
  · rw [List.getElem?_set, getElem?_elementsOf _ hi, getElem?_elementsOf _ hi, length_elementsOf]
    by_cases hk : k = i
    · simp [hk, hi]
    · have hik : (i : Int) ≠ k := by omega
      simp [hk, hik]
  · rw [List.getElem?_eq_none (by simpa using hi), List.getElem?_eq_none (by simpa using hi)]

/-- The debuggee answers, and the object is an array with the first elements of a sequence. -/
structure HoldsArray (d : Debuggee η) (id : ObjectId) (n : Nat) (get : Int → Value) : Prop where
  alive : d.alive = true
  connected : d.connected = true
  sound : d.Sound
  object : ∃ typeName, d.objects.get? id = some ⟨typeName, .elements (elementsOf n get)⟩

/-- Nothing happens to one object of a debuggee in a proper state. -/
def Spares (id : ObjectId) (d d' : Debuggee η) : Prop :=
  d.Sound → d'.Sound ∧ d'.alive = d.alive ∧ d'.connected = d.connected ∧
    ∀ object, d.objects.get? id = some object → d'.objects.get? id = some object

instance : IsPreorder (Debuggee η) (Spares id) where
  refl d hd := ⟨hd, rfl, rfl, fun _ h => h⟩
  trans d₁ d₂ d₃ h h' hd := by
    obtain ⟨hd', ha, hc, ho⟩ := h hd
    obtain ⟨hd'', ha', hc', ho'⟩ := h' hd'
    exact ⟨hd'', ha'.trans ha, hc'.trans hc, fun object hobject => ho' _ (ho _ hobject)⟩

theorem Kept.spares {d d' : Debuggee η} (h : Kept d d') (hd' : d'.Sound) : Spares id d d' :=
  fun _ => ⟨hd', h.alive, h.connected, fun _ => h.objects⟩

theorem Spared.spares {d d' : Debuggee η} (h : Spared d d') : Spares id d d' := by
  intro hd
  obtain ⟨hd', huntouched⟩ := h hd
  exact huntouched.toKept.spares hd' hd

theorem spares_allocate (d : Debuggee η) (typeName : String) (content : HeapContent) :
    Spares id d (d.allocate typeName content).2 :=
  fun hd => (Kept.allocate hd _ _).spares (hd.allocate _ _) hd

theorem kept_log (d : Debuggee η) (entry : String) : Kept d (d.log entry) :=
  ⟨rfl, rfl, rfl, rfl, fun h => h, fun h => h, Nat.le_refl _⟩

theorem Sound.log {d : Debuggee η} (hd : d.Sound) (entry : String) : (d.log entry).Sound :=
  ⟨hd.objects_lt⟩

theorem spares_log (d : Debuggee η) (entry : String) : Spares id d (d.log entry) :=
  fun hd => (d.kept_log entry).spares (hd.log entry) hd

theorem Spares.allowsOuterChanges : Remote.AllowsOuterChanges (@Spares η id) where
  newString d text := (Spared.allowsAdditions.newString d text).spares
  arrayType d name hnone := (Spared.allowsAdditions.arrayType d name hnone).spares
  log := spares_log
  newObject d _ := d.spares_allocate _ _
  newArrayOf d _ _ := d.spares_allocate _ _
  putStatic _ _ _ _ hd := ⟨⟨hd.objects_lt⟩, rfl, rfl, fun _ h => h⟩
  thread _ _ _ hd := ⟨⟨hd.objects_lt⟩, rfl, rfl, fun _ h => h⟩

def rewrite (d : Debuggee η) (id : ObjectId) (typeName : String) (l : List Value)
    (entry : String) : Debuggee η :=
  Debuggee.log { d with objects := d.objects.insert id ⟨typeName, .elements l⟩ } entry

theorem get?_rewrite_self (d : Debuggee η) (id : ObjectId) (typeName : String) (l : List Value)
    (entry : String) :
    (d.rewrite id typeName l entry).objects.get? id = some ⟨typeName, .elements l⟩ :=
  Table.get?_insert_self _ _ _

theorem get?_rewrite_of_ne {other : ObjectId} (h : other ≠ id) (d : Debuggee η)
    (typeName : String) (l : List Value) (entry : String) :
    (d.rewrite other typeName l entry).objects.get? id = d.objects.get? id :=
  Table.get?_insert_of_ne _ h _

theorem Sound.rewrite {d : Debuggee η} (hd : d.Sound) (ho : d.objects.get? id = some object)
    (typeName : String) (l : List Value) (entry : String) :
    (d.rewrite id typeName l entry).Sound :=
  (hd.insert ho _).log entry

theorem spares_rewrite {d : Debuggee η} {other : ObjectId}
    (ho : d.objects.get? other = some object) (hne : other ≠ id) (typeName : String)
    (l : List Value) (entry : String) : Spares id d (d.rewrite other typeName l entry) :=
  fun hd => ⟨hd.rewrite ho typeName l entry, rfl, rfl,
    fun _ h => (get?_rewrite_of_ne hne d typeName l entry).trans h⟩

theorem HoldsArray.of_spares {d d' : Debuggee η} (h : d.HoldsArray id n get)
    (hd : Spares id d d') : d'.HoldsArray id n get := by
  obtain ⟨hsound, ha, hc, ho⟩ := hd h.sound
  obtain ⟨typeName, hobject⟩ := h.object
  exact ⟨ha.trans h.alive, hc.trans h.connected, hsound, typeName, ho _ hobject⟩

theorem HoldsArray.congr {d : Debuggee η} (h : d.HoldsArray id n get)
    (hget : ∀ i : Nat, i < n → get i = get' i) : d.HoldsArray id n get' := by
  obtain ⟨ha, hc, hd, hobject⟩ := h
  rw [elementsOf_congr hget] at hobject
  exact ⟨ha, hc, hd, hobject⟩

end Debuggee

open Debuggee (Spares)

namespace Remote

theorem elements_eq_ok {d d' : Debuggee η} :
    elements a d = (.ok l, d') ↔ d' = d ∧ d.alive = true ∧ d.connected = true ∧
      ∃ typeName, d.objects.get? a.id = some ⟨typeName, .elements l⟩ := by
  simp only [elements, Action.bind_eq_ok, heapObject_eq_ok]
  constructor
  · rintro ⟨⟨typeName, content⟩, _, ⟨rfl, ha, hc, ho⟩, hl⟩
    cases content with
    | elements l =>
      cases hl
      exact ⟨rfl, ha, hc, typeName, ho⟩
    | fields | text => cases hl
  · rintro ⟨rfl, ha, hc, typeName, ho⟩
    exact ⟨_, d', ⟨rfl, ha, hc, ho⟩, rfl⟩

theorem arrayLength_of_elements {d : Debuggee η} (h : elements a d = (.ok l, d)) :
    arrayLength a d = (.ok l.length, d) :=
  Action.bind_of_ok h _

theorem getElement_of_elements {d : Debuggee η} (h : elements a d = (.ok l, d))
    (hv : l[i]? = some v) : getElement a i d = (.ok v, d) := by
  rw [getElement, Action.bind_of_ok h, hv]
  rfl

theorem setElement_of_elements {d : Debuggee η} (ha : d.alive = true) (hc : d.connected = true)
    (ho : d.objects.get? a.id = some ⟨typeName, .elements l⟩) (hi : i < l.length) (v : Value) :
    ∃ entry, setElement a i v d = (.ok (), d.rewrite a.id typeName (l.set i v) entry) := by
  have hobject := heapObject_eq_ok.2 ⟨rfl, ha, hc, ho⟩
  refine ⟨"set " ++ a.typeName ++ "[" ++ toString i ++ "] = " ++ v.describe, ?_⟩
  rw [setElement, Action.bind_of_ok hobject]
  simp only [Action.bind_apply, Action.require, hi, if_true]
  rfl

/-- A new array is an object of its own and holds the default of its component type
everywhere. -/
theorem newArray_of_component {d : Debuggee η} (hd : d.Sound) (ha : d.alive = true)
    (hc : d.connected = true) (hname : type.name = component ++ "[]") (n : Nat) :
    ∃ h d', newArray type n d = (.ok h, d') ∧ h.typeName = component ++ "[]" ∧ h.id = d.nextId ∧
      d.Kept d' ∧ d'.HoldsArray h.id n fun _ => .default component := by
  have halive : checkAlive d = (.ok (), d) := checkAlive_eq_ok.2 ⟨rfl, ha, hc⟩
  obtain ⟨entry, hnew⟩ : ∃ entry, newArray type n d = (.ok ⟨d.nextId, component ++ "[]"⟩,
      ((d.log entry).newArrayOf (component ++ "[]")
        (List.replicate n (.default component))).2) := by
    refine ⟨"new " ++ component ++ "[" ++ toString n ++ "]", ?_⟩
    rw [newArray, Action.bind_of_ok halive, hname, TypeName.component?_array]
    rfl
  refine ⟨_, _, hnew, rfl, rfl, (d.kept_log entry).trans (.allocate (hd.log entry) _ _), ?_⟩
  refine ⟨ha, hc, (hd.log entry).allocate _ _, component ++ "[]", ?_⟩
  rw [Debuggee.elementsOf_const]
  exact Table.get?_insert_self _ _ _

theorem spares_newArray (id : ObjectId) (type : TypeRef) (n : Nat) :
    Keeps (Spares id) (newArray type n : Remote η Handle) :=
  keeps_newArray Spares.allowsOuterChanges type n

end Remote

end Probe
