import Probe.Proofs.Operator.Arithmetic

namespace Probe
set_option autoImplicit true

/-- The type of an operand, as far as the operators tell types apart. -/
inductive OperandType where
  | null
  | void
  | object
  | primitive (k : Kind)
  deriving Repr, DecidableEq

def Value.operandType : Value → OperandType
  | null => .null
  | void => .void
  | object _ => .object
  | boolean _ => .primitive .boolean
  | byte _ => .primitive .byte
  | char _ => .primitive .char
  | short _ => .primitive .short
  | int _ => .primitive .int
  | long _ => .primitive .long
  | float _ => .primitive .float
  | double _ => .primitive .double

theorem Value.kind?_of_operandType (h : operandType v = .primitive k) : v.kind? = some k := by
  cases v <;> cases h <;> rfl

/-- Both are numbers, both are booleans, or both are references. -/
def OperandType.comparable : OperandType → OperandType → Bool
  | primitive .boolean, primitive .boolean => true
  | primitive l, primitive r => l.isNumeric && r.isNumeric
  | null, null | null, object | object, null | object, object => true
  | _, _ => false

/-- The kind of the results for an operand of the type; none if the operator is undefined
there. -/
def UnaryOp.resultKind? : UnaryOp → OperandType → Option Kind
  | plus, .primitive k | minus, .primitive k => if k.isNumeric then some k.promoted else none
  | complement, .primitive k => if k.isIntegral then some k.promoted else none
  | not, .primitive .boolean => some .boolean
  | _, _ => none

/-- The kind of the results for operands of the types; none if the operator is undefined
there. -/
def BinaryOp.resultKind? : BinaryOp → OperandType → OperandType → Option Kind
  | arith _, .primitive l, .primitive r => l.promotedWith? r
  | shift _, .primitive l, .primitive r =>
    if l.isIntegral && r.isIntegral then some l.promoted else none
  | bit _, .primitive .boolean, .primitive .boolean => some .boolean
  | bit _, .primitive l, .primitive r =>
    if l.isIntegral && r.isIntegral then l.promotedWith? r else none
  | order _, .primitive l, .primitive r =>
    if l.isNumeric && r.isNumeric then some .boolean else none
  | eq, l, r | ne, l, r => if l.comparable r then some .boolean else none
  | _, _, _ => none

/-- A quotient or remainder of integers with divisor zero. -/
def BinaryOp.DividesByZero (op : BinaryOp) (l r : Value) : Prop :=
  (op = arith .div ∨ op = arith .rem) ∧ (∃ k a, l.Denotes k a) ∧ ∃ k, r.Denotes k 0

/-- The outcome is a value of the given kind or, where there is none, the error. -/
def Typed (x : Except ExpressionError Value) (kind? : Option Kind) (e : ExpressionError) :
    Prop :=
  kind?.elim (x = .error e) fun k => ∃ v, x = .ok v ∧ v.kind? = some k

theorem typed_elim {x : Option α} {f : α → Value}
    (h : x.map (fun a => (f a).operandType) = kind?.map .primitive) (e : ExpressionError) :
    Typed (x.elim (.error e) fun a => .ok (f a)) kind? e := by
  cases x with
  | none =>
    rw [Option.map_none, eq_comm, Option.map_eq_none_iff] at h
    subst h
    rfl
  | some a =>
    rw [Option.map_some, eq_comm, Option.map_eq_some_iff] at h
    obtain ⟨k, rfl, hk⟩ := h
    exact ⟨f a, rfl, Value.kind?_of_operandType hk.symm⟩

theorem UnaryOp.operandType_result? (op : UnaryOp) (v : Value) :
    (op.result? v).map Value.operandType = (op.resultKind? v.operandType).map .primitive := by
  cases op <;> cases v <;> rfl

theorem ShiftOp.operandType_result? (op : ShiftOp) (l r : Value) :
    (op.result? l r).map Value.operandType =
      ((BinaryOp.shift op).resultKind? l.operandType r.operandType).map .primitive := by
  cases l <;> cases r <;> rfl

theorem BitOp.operandType_result? (op : BitOp) (l r : Value) :
    (op.result? l r).map Value.operandType =
      ((BinaryOp.bit op).resultKind? l.operandType r.operandType).map .primitive := by
  cases l <;> cases r <;> rfl

theorem OrderOp.operandType_onPair (op : OrderOp) (l r : Value) :
    (l.pair? r).map (fun p => (Value.boolean (op.onPair p)).operandType) =
      ((BinaryOp.order op).resultKind? l.operandType r.operandType).map .primitive := by
  cases l <;> cases r <;> rfl

theorem Value.operandType_equal? (f : Bool → Bool) (l r : Value) :
    (l.equal? r).map (fun b => (boolean (f b)).operandType) =
      (BinaryOp.eq.resultKind? l.operandType r.operandType).map .primitive := by
  cases l <;> cases r <;> rfl

def NumberPair.kind : NumberPair → Kind
  | ints .. => .int
  | longs .. => .long
  | floats .. => .float
  | doubles .. => .double

theorem Value.kind_pair? (op : ArithOp) (l r : Value) :
    (l.pair? r).map NumberPair.kind =
      (BinaryOp.arith op).resultKind? l.operandType r.operandType := by
  cases l <;> cases r <;> rfl

theorem NumberPair.onPair_typed (op : ArithOp) (p : NumberPair)
    (h : ¬(op.Divides ∧ ∃ k a, p.Denotes k a 0)) :
    ∃ v, op.onPair p = .ok v ∧ v.kind? = some p.kind := by
  have hintegral {k a b} (hp : p.Denotes k a b) :
      ∃ v, op.onPair p = .ok v ∧ v.kind? = some k := by
    have hb : ¬op.Divides ∨ b ≠ 0 := by
      by_contra hzero
      rw [not_or, not_not, not_not] at hzero
      obtain ⟨hop, rfl⟩ := hzero
      exact h ⟨hop, k, a, hp⟩
    obtain ⟨v, hv, hvk⟩ := hp.onPair hb
    exact ⟨v, hv, hvk.kind?⟩
  cases p with
  | ints x y => exact hintegral (.ints rfl rfl)
  | longs x y => exact hintegral (.longs rfl rfl)
  | floats x y => exact ⟨_, rfl, rfl⟩
  | doubles x y => exact ⟨_, rfl, rfl⟩

namespace BinaryOp

theorem apply_of_dividesByZero (h : DividesByZero op l r) :
    op.apply l r = .error .divisionByZero := by
  obtain ⟨rfl | rfl, ⟨k, a, hl⟩, k', hr⟩ := h
  · exact hl.arith_zero hr (.inl rfl)
  · exact hl.arith_zero hr (.inr rfl)

theorem arith_typed (op : ArithOp) (l r : Value) (h : ¬(arith op).DividesByZero l r) :
    Typed ((arith op).apply l r) ((arith op).resultKind? l.operandType r.operandType)
      (.undefined (arith op).symbol [l, r]) := by
  rw [← Value.kind_pair?]
  cases hp : l.pair? r with
  | none =>
    rw [BinaryOp.apply, hp]
    rfl
  | some p =>
    rw [arith_of_pair? op hp]
    apply p.onPair_typed op
    rintro ⟨hop, k, a, hpa⟩
    obtain ⟨⟨kl, hl⟩, hr⟩ := Value.denotes_of_pair? hp hpa
    exact h ⟨hop.imp (congrArg arith) (congrArg arith), ⟨kl, a, hl⟩, hr⟩

theorem apply_typed (op : BinaryOp) (l r : Value) (h : ¬op.DividesByZero l r) :
    Typed (op.apply l r) (op.resultKind? l.operandType r.operandType)
      (.undefined op.symbol [l, r]) := by
  cases op with
  | arith op => exact arith_typed op l r h
  | shift op => exact typed_elim (op.operandType_result? l r) _
  | bit op => exact typed_elim (op.operandType_result? l r) _
  | order op => exact typed_elim (op.operandType_onPair l r) _
  | eq => exact typed_elim (l.operandType_equal? id r) _
  | ne => exact typed_elim (l.operandType_equal? not r) _

end BinaryOp

/-- The types of the operands decide whether an operator is defined and which kind its result
has. Where it is undefined, the error names its symbol and the types of the operands in order.
Only the division of integers by zero fails besides. -/
theorem operators_typed :
    (∀ (op : UnaryOp) (v : Value),
      Typed (op.apply v) (op.resultKind? v.operandType) (.invalidOperand op.symbol [v.typeName])) ∧
    ∀ (op : BinaryOp) (l r : Value),
      op.DividesByZero l r ∧ op.apply l r = .error .divisionByZero ∨
      ¬op.DividesByZero l r ∧
        Typed (op.apply l r) (op.resultKind? l.operandType r.operandType)
          (.invalidOperand op.symbol [l.typeName, r.typeName]) := by
  constructor
  · intro op v
    exact typed_elim (op.operandType_result? v) _
  · intro op l r
    by_cases h : op.DividesByZero l r
    · exact .inl ⟨h, BinaryOp.apply_of_dividesByZero h⟩
    · exact .inr ⟨h, op.apply_typed l r h⟩

end Probe
