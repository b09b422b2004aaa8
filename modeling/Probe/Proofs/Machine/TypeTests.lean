import Probe.Proofs.Debuggee.Handles
import Probe.Proofs.Debuggee.Subtyping
import Probe.Proofs.Machine.Compatible

namespace Probe
set_option autoImplicit true

open Debuggee (SameButTypes)

namespace Remote

theorem classByName_eq_ok {d d' : Debuggee η} :
    classByName name d = (.ok type, d') ↔
      d.alive = true ∧ d.connected = true ∧ typeNamed name d = (.ok type, d') := by
  simp only [classByName, Action.bind_eq_ok, checkAlive_eq_ok]
  constructor
  · rintro ⟨-, _, ⟨rfl, halive, hconnected⟩, h⟩
    exact ⟨halive, hconnected, h⟩
  · rintro ⟨halive, hconnected, h⟩
    exact ⟨(), d, ⟨rfl, halive, hconnected⟩, h⟩

theorem exists_classByName_iff {d : Debuggee η} :
    (∃ type d', classByName name d = (.ok type, d')) ↔
      d.alive = true ∧ d.connected = true ∧ d.classes.Loadable name := by
  simp only [classByName_eq_ok]
  constructor
  · rintro ⟨type, d', halive, hconnected, h⟩
    exact ⟨halive, hconnected, (typeNamed_eq_ok h).1⟩
  · rintro ⟨halive, hconnected, h⟩
    obtain ⟨type, d', htype, -⟩ := typeNamed_of_loadable h
    exact ⟨type, d', halive, hconnected, htype⟩

theorem exists_classByName_of_same {d d' : Debuggee η} (h : SameButTypes d d') :
    (∃ type d'', classByName name d' = (.ok type, d'')) ↔
      ∃ type d'', classByName name d = (.ok type, d'') := by
  rw [SameButTypes] at h
  rw [exists_classByName_iff, exists_classByName_iff, h]

theorem heapObject_of_same {d d' : Debuggee η} (h : SameButTypes d d') :
    heapObject o d' = (.ok object, d') ↔ heapObject o d = (.ok object, d) := by
  rw [SameButTypes] at h
  rw [heapObject_eq_ok, heapObject_eq_ok, h]
  exact ⟨fun h => ⟨rfl, h.2⟩, fun h => ⟨rfl, h.2⟩⟩

theorem isAssignable_eq_ok {d d' : Debuggee η} {type : TypeRef} :
    isAssignable o type d = (.ok holds, d') ↔ d' = d ∧ ∃ object,
      heapObject o d = (.ok object, d) ∧
      d.classes.isSubtype object.typeName type.name = holds := by
  simp only [isAssignable, Action.bind_eq_ok]
  constructor
  · rintro ⟨object, d₁, ho, h⟩
    obtain ⟨rfl, -⟩ := heapObject_eq_ok.1 ho
    cases h
    exact ⟨rfl, object, ho, rfl⟩
  · rintro ⟨rfl, object, ho, rfl⟩
    exact ⟨object, d', ho, rfl⟩

end Remote

namespace Machine

theorem remote_eq_ok {r : Remote η α} {s s' : State η κ} :
    remote r s = (.ok a, s') ↔ ∃ d', r s.world.debuggee = (.ok a, d') ∧
    s' = s.withDebuggee d' := by
  rw [remote_apply]
  rcases r s.world.debuggee with ⟨e | b, d⟩
  · constructor
    · rintro ⟨⟩
    · rintro ⟨d', ⟨⟩, -⟩
  · constructor
    · rintro ⟨⟩
      exact ⟨d, rfl, rfl⟩
    · rintro ⟨d', ⟨⟩, rfl⟩
      rfl

theorem instanceOf_eq_ok {s s' : State η κ} :
    instanceOf o T s = (.ok holds, s') ↔ ∃ type object d',
      Remote.classByName T s.world.debuggee = (.ok type, d') ∧
      Remote.heapObject o s.world.debuggee = (.ok object, s.world.debuggee) ∧
      s.world.debuggee.classes.isSubtype object.typeName T = holds ∧
      s' = s.withDebuggee d' := by
  simp only [instanceOf, Action.bind_eq_ok, remote_eq_ok]
  have hsame {type : TypeRef} {d' : Debuggee η}
      (h : Remote.classByName T s.world.debuggee = (.ok type, d')) :
      type.name = T ∧ SameButTypes s.world.debuggee d' :=
    (Remote.typeNamed_eq_ok (Remote.classByName_eq_ok.1 h).2.2).2
  constructor
  · rintro ⟨type, _, ⟨d', htype, rfl⟩, d'', htest, rfl⟩
    obtain ⟨rfl, object, ho, rfl⟩ := Remote.isAssignable_eq_ok.1 htest
    obtain ⟨rfl, hd⟩ := hsame htype
    rw [← hd.classes]
    exact ⟨type, object, _, htype, (Remote.heapObject_of_same hd).1 ho, rfl, rfl⟩
  · rintro ⟨type, object, d', htype, ho, rfl, rfl⟩
    obtain ⟨rfl, hd⟩ := hsame htype
    have htest : Remote.isAssignable o type d' =
        (.ok (s.world.debuggee.classes.isSubtype object.typeName type.name), d') := by
      rw [← hd.classes]
      exact Remote.isAssignable_eq_ok.2 ⟨rfl, object, (Remote.heapObject_of_same hd).2 ho, rfl⟩
    exact ⟨type, _, ⟨d', htype, rfl⟩, d', htest, rfl⟩

theorem instanceOf_of_isSubtype {s s' : State η κ} (hc : s.world.debuggee.classes.Regular)
    (h : instanceOf o S s = (.ok true, s'))
    (hST : s.world.debuggee.classes.isSubtype S T = true)
    (hT : ∃ type d', Remote.classByName T s.world.debuggee = (.ok type, d')) :
    ∃ s'', instanceOf o T s = (.ok true, s'') := by
  obtain ⟨-, object, -, -, ho, hS, -⟩ := instanceOf_eq_ok.1 h
  obtain ⟨type, d', htype⟩ := hT
  exact ⟨_, instanceOf_eq_ok.2 ⟨type, object, d', htype, ho, hc.isSubtype_trans hS hST, rfl⟩⟩

/-- The tests come out the same after any other test. -/
theorem instanceOf_again {s s' : State η κ} (h : instanceOf o S s = (.ok holds, s'))
    (hT : ∃ s'', instanceOf o T s = (.ok holds', s'')) :
    ∃ s'', instanceOf o T s' = (.ok holds', s'') := by
  obtain ⟨_, _, d', hS, -, -, rfl⟩ := instanceOf_eq_ok.1 h
  obtain ⟨_, hT⟩ := hT
  obtain ⟨type, object, d₁, hT, ho, hsub, -⟩ := instanceOf_eq_ok.1 hT
  have hd := (Remote.typeNamed_eq_ok (Remote.classByName_eq_ok.1 hS).2.2).2.2
  obtain ⟨type', d₂, hT'⟩ := (Remote.exists_classByName_of_same hd).2 ⟨type, d₁, hT⟩
  rw [← hd.classes] at hsub
  exact ⟨_, instanceOf_eq_ok.2 ⟨type', object, d₂, hT', (Remote.heapObject_of_same hd).2 ho, hsub,
    rfl⟩⟩

theorem cast_of_instanceOf {s s' : State η κ} (h : instanceOf o T s = (.ok true, s')) :
    cast (.object o) (.reference T) s = (.ok (.object o), s') :=
  Action.bind_of_ok h _

/-- Subtyping is a preorder, whatever the links between the classes: the search above a class
always comes to its end. It orders arrays as it orders their components, a primitive array is
below no other array, and the top class is above all arrays. So an object that passes the test
for a type passes those for the types above it, and a cast to them leaves it as it is. -/
theorem subtyping_preorder (c : ClassTable η) (hc : c.Regular) :
    (∀ T, c.Walks [T] [] (c.ancestry T)) ∧
    (∀ A B, c.isSubtype A B = true ↔ c.Subtypes A B) ∧
    (∀ T, c.isSubtype T T = true) ∧
    (∀ A B C, c.isSubtype A B = true → c.isSubtype B C = true → c.isSubtype A C = true) ∧
    (∀ X Y, c.isSubtype (X ++ "[]") (Y ++ "[]") = c.isSubtype X Y) ∧
    (∀ X Y, isPrimitiveName X = true →
      (c.isSubtype (X ++ "[]") (Y ++ "[]") = true ↔ X ++ "[]" = Y ++ "[]")) ∧
    (∀ X, c.isSubtype (X ++ "[]") objectType = true) ∧
    ∀ (s : State η κ) (o : Handle) (S T : String) (s' : State η κ),
      s.world.debuggee.classes = c → testType (.object o) S s = (.ok true, s') →
      c.isSubtype S T = true →
      (∃ type d', Remote.classByName T s.world.debuggee = (.ok type, d')) →
      ∀ s₁, s₁ = s ∨ s₁ = s' →
        (testType (.object o) T s₁).1 = .ok true ∧
        (cast (.object o) (.reference T) s₁).1 = .ok (.object o) := by
  refine ⟨c.walks_ancestry, fun A B => hc.isSubtype_iff, c.isSubtype_refl,
    fun A B C => hc.isSubtype_trans, hc.isSubtype_array, ?_, hc.array_below_top, ?_⟩
  · intro X Y hX
    rw [hc.isSubtype_array, hc.isSubtype_of_primitive (.inl hX), beq_iff_eq,
      String.append_left_inj]
  · rintro s o S T s' rfl hS hST hT s₁ hs₁
    have hpassed := instanceOf_of_isSubtype hc hS hST hT
    have hpassed₁ : ∃ s'', instanceOf o T s₁ = (.ok true, s'') := by
      rcases hs₁ with rfl | rfl
      · exact hpassed
      · exact instanceOf_again hS hpassed
    obtain ⟨s'', htest⟩ := hpassed₁
    exact ⟨congrArg Prod.fst htest, congrArg Prod.fst (cast_of_instanceOf htest)⟩

/-- Two classes that extend each other, and an array of arrays of the first one. Its interface
is not loaded, that of the second one is. -/
def circle : Debuggee Unit :=
  let classes : List (ClassDef Unit) :=
    [.interface "I", { name := "A", superclass := some "B", interfaces := ["J"] },
     { name := "B", superclass := some "A", interfaces := ["I"] }]
  let d := classes.foldl (fun d c => (d.addClass c).2) Debuggee.initial
  (d.newArrayOf "A[][]" []).2

def circleState : State Unit Unit := ⟨[], .empty, ⟨circle, .empty, [], ⟨0, [], []⟩, ()⟩⟩

def circleArray : Handle := ⟨6, "A[][]"⟩

theorem circle_regular : circle.classes.Regular :=
  ClassTable.regular_of_keys (by decide) rfl

theorem subtyping_preorder_circle :
    circle.classes.Regular ∧ circle.classes.Below "A" "A" ∧
    (testType (.object circleArray) "B[][]" circleState).1 = .ok true ∧
    circle.classes.isSubtype "B[][]" "I[][]" = true ∧
    (testType (.object circleArray) "I[][]" circleState).1 = .ok true ∧
    (cast (.object circleArray) (.reference "I[][]") circleState).1 =
      .ok (.object circleArray) := by
  have hcycle : circle.classes.Below "A" "A" := by
    apply Relation.TransGen.tail (b := "B")
    · exact .single (by decide)
    · exact (by decide : circle.classes.Extends "B" "A")
  have hB : (testType (.object circleArray) "B[][]" circleState).1 = .ok true := by rfl
  have hI : circle.classes.isSubtype "B[][]" "I[][]" = true := by decide
  have hloadable : circle.classes.Loadable ("I" ++ "[]" ++ "[]") := .array (.array (.loaded rfl))
  obtain ⟨-, -, -, -, -, -, -, htests⟩ :=
    subtyping_preorder (κ := Unit) circle.classes circle_regular
  have hpassed := htests circleState circleArray "B[][]" "I[][]" _ rfl (Prod.ext hB rfl) hI
    (Remote.exists_classByName_iff.2 ⟨rfl, rfl, hloadable⟩) circleState (.inl rfl)
  exact ⟨circle_regular, hcycle, hB, hI, hpassed⟩

end Machine

end Probe
