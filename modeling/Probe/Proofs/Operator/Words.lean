import Probe.Operator.Apply
import Probe.Proofs.Operator.Integral

namespace Probe
set_option autoImplicit true

namespace ArithOp

/-- The result on integers. The quotient is cut toward zero, and the remainder is what is then
left. -/
def onIntegers : ArithOp → Int → Int → Int
  | add, a, b => a + b
  | sub, a, b => a - b
  | mul, a, b => a * b
  | div, a, b => a.tdiv b
  | rem, a, b => a.tmod b

/-- The operators that need a divisor other than zero. -/
def Divides (op : ArithOp) : Prop := op = div ∨ op = rem

instance (op : ArithOp) : Decidable op.Divides := inferInstanceAs (Decidable (op = div ∨ op = rem))

end ArithOp

def OrderOp.onIntegers : OrderOp → Int → Int → Bool
  | lt, a, b => a < b
  | le, a, b => a ≤ b
  | gt, a, b => a > b
  | ge, a, b => a ≥ b

/-- The operator on patterns of one width. -/
def BitOp.onPatterns : BitOp → BitVec w → BitVec w → BitVec w
  | and, x, y => x &&& y
  | or, x, y => x ||| y
  | xor, x, y => x ^^^ y

section
variable {α : Type} [OfNat α 0] [Add α] [Sub α] [Mul α] [Div α] [Mod α] [Neg α] [Complement α]
  [AndOp α] [OrOp α] [XorOp α] [LT α] [LE α]

/-- Machine words that are patterns of a kind with a sign, with the operations on patterns. -/
structure Words (k : Kind) (pattern : α → BitVec k.width) : Prop where
  signed : k ≠ .char := by decide
  inj : ∀ {x y}, pattern x = pattern y → x = y
  zero : pattern 0 = 0#k.width := by rfl
  add : ∀ x y, pattern (x + y) = pattern x + pattern y := by exact fun _ _ => rfl
  sub : ∀ x y, pattern (x - y) = pattern x - pattern y := by exact fun _ _ => rfl
  mul : ∀ x y, pattern (x * y) = pattern x * pattern y := by exact fun _ _ => rfl
  div : ∀ x y, pattern (x / y) = (pattern x).sdiv (pattern y) := by exact fun _ _ => rfl
  mod : ∀ x y, pattern (x % y) = (pattern x).srem (pattern y) := by exact fun _ _ => rfl
  neg : ∀ x, pattern (-x) = -pattern x := by exact fun _ => rfl
  not : ∀ x, pattern (~~~x) = ~~~pattern x := by exact fun _ => rfl
  and : ∀ x y, pattern (x &&& y) = pattern x &&& pattern y := by exact fun _ _ => rfl
  or : ∀ x y, pattern (x ||| y) = pattern x ||| pattern y := by exact fun _ _ => rfl
  xor : ∀ x y, pattern (x ^^^ y) = pattern x ^^^ pattern y := by exact fun _ _ => rfl
  lt : ∀ x y, x < y ↔ (pattern x).slt (pattern y) = true := by exact fun _ _ => Iff.rfl
  le : ∀ x y, x ≤ y ↔ (pattern x).sle (pattern y) = true := by exact fun _ _ => Iff.rfl

namespace Words
variable {k : Kind} {pattern : α → BitVec k.width} (h : Words k pattern)
include h

theorem holds (x : α) : k.Holds (pattern x).toInt := by
  rw [Kind.toInt_eq_wrap h.signed]
  exact k.holds_wrap _

theorem toInt_inj (x y : α) : (pattern x).toInt = (pattern y).toInt ↔ x = y := by
  rw [BitVec.toInt_inj]
  exact ⟨h.inj, congrArg pattern⟩

theorem toInt_neg (x : α) : (pattern (-x)).toInt = k.wrap (-(pattern x).toInt) := by
  rw [h.neg, BitVec.toInt_neg, Kind.wrap_eq_bmod h.signed]

theorem toInt_not (x : α) : (pattern (~~~x)).toInt = -(pattern x).toInt - 1 := by
  have hholds : k.Holds (-(pattern x).toInt - 1) := by
    have hx := h.holds x
    have hmiddle := Kind.two_mul_least h.signed
    unfold Kind.Holds at hx ⊢
    omega
  have hresidue : 2 ^ k.width - 1 - ((pattern x).toNat : Int) ≡ -(pattern x).toInt - 1
      [ZMOD 2 ^ k.width] :=
    calc 2 ^ k.width - 1 - ((pattern x).toNat : Int)
        = -(pattern x).toNat - 1 + 2 ^ k.width := by omega
      _ ≡ -(pattern x).toNat - 1 [ZMOD 2 ^ k.width] := Int.add_modEq_right
      _ ≡ -(pattern x).toInt - 1 [ZMOD 2 ^ k.width] :=
        (Kind.toNat_modEq_toInt h.signed _).neg.sub_right 1
  rw [h.not, BitVec.toInt_not, ← Kind.wrap_eq_bmod h.signed, Kind.wrap_congr hresidue,
    hholds.wrap_eq]

theorem toInt_mod (x y : α) :
    (pattern (x % y)).toInt = (pattern x).toInt.tmod (pattern y).toInt := by
  rw [h.mod, BitVec.toInt_srem]

theorem arith_of_ne_zero [DecidableEq α] (x y : α)
    (hy : ¬ArithOp.Divides op ∨ (pattern y).toInt ≠ 0) : ∃ z, op.onWords x y = .ok z ∧
      (pattern z).toInt = k.wrap (op.onIntegers (pattern x).toInt (pattern y).toInt) := by
  have hzero (hop : op.Divides) : y ≠ 0 := by
    rintro rfl
    exact hy.resolve_left (not_not_intro hop) (by rw [h.zero, BitVec.toInt_zero])
  have hwrap := Kind.wrap_eq_bmod h.signed
  cases op with
  | add => exact ⟨_, rfl, by rw [h.add, BitVec.toInt_add, ← hwrap, ArithOp.onIntegers]⟩
  | sub => exact ⟨_, rfl, by rw [h.sub, BitVec.toInt_sub, ← hwrap, ArithOp.onIntegers]⟩
  | mul => exact ⟨_, rfl, by rw [h.mul, BitVec.toInt_mul, ← hwrap, ArithOp.onIntegers]⟩
  | div =>
    refine ⟨_, if_neg (hzero (.inl rfl)), ?_⟩
    rw [h.div, BitVec.toInt_sdiv, ← hwrap, ArithOp.onIntegers]
  | rem =>
    refine ⟨_, if_neg (hzero (.inr rfl)), ?_⟩
    rw [ArithOp.onIntegers, ← h.toInt_mod, (h.holds _).wrap_eq]

theorem order [DecidableLT α] [DecidableLE α] (op : OrderOp) (x y : α) :
    op.compare x y = op.onIntegers (pattern x).toInt (pattern y).toInt := by
  cases op with
  | lt | gt =>
    simp only [OrderOp.compare, OrderOp.onIntegers, h.lt, BitVec.slt_iff_toInt_lt, gt_iff_lt]
  | le | ge =>
    simp only [OrderOp.compare, OrderOp.onIntegers, h.le, BitVec.sle_iff_toInt_le, ge_iff_le]

theorem bit (op : BitOp) (x y : α) : (pattern (op.onWords x y)).toInt =
    (op.onPatterns (.ofInt k.width (pattern x).toInt)
      (.ofInt k.width (pattern y).toInt)).toInt := by
  rw [BitVec.ofInt_toInt, BitVec.ofInt_toInt]
  cases op with
  | and => rw [BitOp.onWords, h.and, BitOp.onPatterns]
  | or => rw [BitOp.onWords, h.or, BitOp.onPatterns]
  | xor => rw [BitOp.onWords, h.xor, BitOp.onPatterns]

end Words

end

theorem ArithOp.onWords_zero {α : Type} [Add α] [Sub α] [Mul α] [Div α] [Mod α] [OfNat α 0]
    [DecidableEq α] (x : α) (hop : Divides op) : op.onWords x 0 = .error .divisionByZero := by
  rcases hop with rfl | rfl <;> exact if_pos rfl

theorem Words.int : Words .int Int32.toBitVec where
  inj := Int32.toBitVec_inj.1

theorem Words.long : Words .long Int64.toBitVec where
  inj := Int64.toBitVec_inj.1

end Probe
