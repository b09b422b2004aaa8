import Probe.Proofs.Operator.Comparison
import Probe.Proofs.Operator.Typing

namespace Probe
set_option autoImplicit true

namespace Value

def IsNaN : Value → Prop
  | float x => x.isNaN = true
  | double x => x.isNaN = true
  | _ => False

/-- Two values of one kind, with what they hold. -/
inductive SameKind : Value → Value → Prop
  | null : SameKind null null
  | void : SameKind void void
  | boolean (x y : Bool) : SameKind (boolean x) (boolean y)
  | byte (x y : Int8) : SameKind (byte x) (byte y)
  | char (x y : UInt16) : SameKind (char x) (char y)
  | short (x y : Int16) : SameKind (short x) (short y)
  | int (x y : Int32) : SameKind (int x) (int y)
  | long (x y : Int64) : SameKind (long x) (long y)
  | float (x y : Float32) : SameKind (float x) (float y)
  | double (x y : Float) : SameKind (double x) (double y)
  | object (x y : Handle) : SameKind (object x) (object y)

theorem sameKind_of_operandType (h : operandType a = operandType b) : SameKind a b := by
  cases a <;> cases b <;> first | constructor | cases h

theorem operandType_of_beq {a b : Value} (h : (a == b) = true) :
    a.operandType = b.operandType := by
  cases a <;> cases b <;> first | rfl | cases h

/-- The ways for values to be equal. Only floating numbers and objects can be so without being
the same value. -/
inductive Equal : Value → Value → Prop
  | same (hn : ¬IsNaN a) : Equal a a
  | float {x y : Float32} (h : (x == y) = true) : Equal (float x) (float y)
  | double {x y : Float} (h : (x == y) = true) : Equal (double x) (double y)
  | object {x y : Handle} (h : x.id = y.id) : Equal (object x) (object y)

theorem beq_self_iff (a : Value) : (a == a) = true ↔ ¬IsNaN a := by
  cases a with
  | null | void => exact iff_of_true rfl not_false
  | boolean x => exact iff_of_true (BEq.refl x) not_false
  | byte x => exact iff_of_true (BEq.refl x) not_false
  | char x => exact iff_of_true (BEq.refl x) not_false
  | short x => exact iff_of_true (BEq.refl x) not_false
  | int x => exact iff_of_true (BEq.refl x) not_false
  | long x => exact iff_of_true (BEq.refl x) not_false
  | object h => exact iff_of_true (BEq.refl h.id) not_false
  | float x =>
    change (x == x) = true ↔ ¬x.isNaN = true
    rw [Float32.beq_self_iff, Float32.isNaN_eq_decide_eq_nan, decide_eq_true_eq]
  | double x =>
    change (x == x) = true ↔ ¬x.isNaN = true
    rw [Float.beq_self_iff, Float.isNaN_eq_decide_eq_nan, decide_eq_true_eq]

theorem beq_object (x y : Handle) : (object x == object y) = true ↔ x.id = y.id :=
  beq_iff_eq (a := x.id)

theorem equal_of_beq {a b : Value} (h : (a == b) = true) : Equal a b := by
  cases sameKind_of_operandType (operandType_of_beq h) with
  | null | void => exact .same not_false
  | boolean x y => exact eq_of_beq (a := x) h ▸ .same not_false
  | byte x y => exact eq_of_beq (a := x) h ▸ .same not_false
  | char x y => exact eq_of_beq (a := x) h ▸ .same not_false
  | short x y => exact eq_of_beq (a := x) h ▸ .same not_false
  | int x y => exact eq_of_beq (a := x) h ▸ .same not_false
  | long x y => exact eq_of_beq (a := x) h ▸ .same not_false
  | float x y => exact .float h
  | double x y => exact .double h
  | object x y => exact .object ((beq_object x y).1 h)

theorem beq_iff_equal {a b : Value} : (a == b) = true ↔ Equal a b := by
  constructor
  · exact equal_of_beq
  · intro h
    cases h with
    | same hn => exact (beq_self_iff a).2 hn
    | float h => exact h
    | double h => exact h
    | object h => exact (beq_object _ _).2 h

theorem Equal.symm (h : Equal a b) : Equal b a := by
  cases h with
  | same hn => exact .same hn
  | float h => exact .float (BEq.symm h)
  | double h => exact .double (BEq.symm h)
  | object h => exact .object h.symm

theorem Equal.trans (h : Equal a b) (h' : Equal b c) : Equal a c := by
  cases h with
  | same => exact h'
  | float h =>
    cases h' with
    | same => exact .float h
    | float h' => exact .float (BEq.trans h h')
  | double h =>
    cases h' with
    | same => exact .double h
    | double h' => exact .double (BEq.trans h h')
  | object h =>
    cases h' with
    | same => exact .object h
    | object h' => exact .object (h.trans h')

/-- Floating numbers that are equal and not the same are zeros, and these are hashed alike. -/
theorem Equal.hashed (h : Equal a b) : a.hashed = b.hashed := by
  cases h with
  | same => rfl
  | float h =>
    obtain ⟨-, -, rfl | ⟨rfl, rfl⟩ | ⟨rfl, rfl⟩⟩ := Float32.beq_iff_ne_nan_and_eq.1 h
    · rfl
    · decide
    · decide
  | double h =>
    obtain ⟨-, -, rfl | ⟨rfl, rfl⟩ | ⟨rfl, rfl⟩⟩ := Float.beq_iff_ne_nan_and_eq.1 h
    · rfl
    · decide
    · decide
  | object h => rw [Value.hashed, Value.hashed, h]

theorem hashed_object (x y : Handle) : hashed (object x) = hashed (object y) ↔ x.id = y.id := by
  simp only [Value.hashed, Prod.mk.injEq, Content.identity.injEq, true_and]

theorem Denotes.beq (ha : Denotes a k m) (hb : Denotes b k n) : (a == b) = decide (m = n) := by
  have hiff : (a == b) = true ↔ m = n := by
    constructor
    · intro h
      cases equal_of_beq h with
      | same => exact ha.integer_eq hb
      | float | double | object => cases ha
    · rintro rfl
      rw [ha.unique hb, beq_self_iff]
      cases hb <;> exact not_false
  rw [Bool.eq_iff_iff, hiff, decide_eq_true_eq]

theorem Denotes.equal?_eq_beq (ha : Denotes a k m) (hb : Denotes b k n) :
    a.equal? b = some (a == b) := by
  rw [ha.equal? hb, ha.beq hb]

theorem equal?_of_operandType (h : operandType a = operandType b) (hv : a ≠ void) :
    a.equal? b = some (a == b) := by
  cases sameKind_of_operandType h with
  | void => exact absurd rfl hv
  | byte x y => exact (Denotes.byte rfl).equal?_eq_beq (.byte rfl)
  | char x y => exact (Denotes.char rfl).equal?_eq_beq (.char rfl)
  | short x y => exact (Denotes.short rfl).equal?_eq_beq (.short rfl)
  | null | boolean | int | long | float | double | object => rfl

instance : PartialEquivBEq Value where
  symm h := beq_iff_equal.2 (beq_iff_equal.1 h).symm
  trans h h' := beq_iff_equal.2 ((beq_iff_equal.1 h).trans (beq_iff_equal.1 h'))

/-- Equality of values is symmetric and transitive, holds of a value and itself unless it is not
a number, and tells the kinds apart. Equal values are hashed alike, among them zeros of both
signs and handles that know different types of one object. Nothing but its identity is hashed of
an object. Between values of one kind, the equality of the language is equality of values. -/
theorem equality_consistent :
    (∀ a b : Value, (a == b) = (b == a)) ∧
    (∀ a b c : Value, (a == b) = true → (b == c) = true → (a == c) = true) ∧
    (∀ a : Value, (a == a) = true ↔ ¬IsNaN a) ∧
    (∀ a b : Value, (a == b) = true → a.operandType = b.operandType ∧ a.hashed = b.hashed) ∧
    (∀ x y : Handle, (object x == object y) = true ↔ x.id = y.id) ∧
    (∀ x y : Handle, hashed (object x) = hashed (object y) ↔ x.id = y.id) ∧
    (float 0.0 == float (-0.0)) = true ∧ (double 0.0 == double (-0.0)) = true ∧
    ∀ a b : Value, a.operandType = b.operandType → a ≠ void →
      BinaryOp.eq.apply a b = .ok (.boolean (a == b)) := by
  refine ⟨fun a b => BEq.comm, fun a b c => BEq.trans, beq_self_iff, fun a b h => ?_,
    beq_object, hashed_object, rfl, rfl, fun a b h hv => ?_⟩
  · exact ⟨operandType_of_beq h, (equal_of_beq h).hashed⟩
  · simp only [BinaryOp.apply, equal?_of_operandType h hv, Option.elim_some]

theorem equality_consistent_zeros :
    (double 0.0).operandType = (double (-0.0)).operandType ∧
    hashed (double 0.0) = hashed (double (-0.0)) ∧
    BinaryOp.eq.apply (double 0.0) (double (-0.0)) = .ok (.boolean true) ∧
    hashed (object ⟨7, "java.lang.Object"⟩) = hashed (object ⟨7, "Point"⟩) ∧
    hashed (object ⟨7, "Point"⟩) ≠ hashed (object ⟨8, "Point"⟩) := by
  obtain ⟨-, -, -, hhash, hobject, hidentity, -, hzero, happly⟩ := equality_consistent
  have heq := happly (double 0.0) (double (-0.0)) rfl (by decide)
  rw [hzero] at heq
  exact ⟨rfl, (hhash _ _ hzero).2, heq, (hhash _ _ ((hobject _ _).2 rfl)).2,
    fun h => absurd ((hidentity _ _).1 h) (by decide)⟩

end Value

end Probe
