import Probe.Proofs.Operator.Conversion
import Probe.Proofs.Operator.Words

namespace Probe
set_option autoImplicit true

namespace NumberPair.Denotes

theorem onPair (h : Denotes p k a b) (hb : ¬ArithOp.Divides op ∨ b ≠ 0) :
    Yields (op.onPair p) k (k.wrap (op.onIntegers a b)) := by
  cases h with
  | ints hx hy =>
    subst hx hy
    obtain ⟨z, hz, hzn⟩ := Words.arith_of_ne_zero .int _ _ hb
    exact ⟨_, congrArg (Except.map Value.int) hz, .int hzn⟩
  | longs hx hy =>
    subst hx hy
    obtain ⟨z, hz, hzn⟩ := Words.arith_of_ne_zero .long _ _ hb
    exact ⟨_, congrArg (Except.map Value.long) hz, .long hzn⟩

theorem onPair_zero (h : Denotes p k a 0) (hop : ArithOp.Divides op) :
    op.onPair p = .error .divisionByZero := by
  cases h with
  | ints _ hy =>
    obtain rfl := Int32.toInt.inj (hy.trans Int32.toInt_zero.symm)
    exact congrArg (Except.map Value.int) (ArithOp.onWords_zero _ hop)
  | longs _ hy =>
    obtain rfl := Int64.toInt.inj (hy.trans Int64.toInt_zero.symm)
    exact congrArg (Except.map Value.long) (ArithOp.onWords_zero _ hop)

theorem holds_left (h : Denotes p k a b) : k.Holds a := by
  cases h with
  | ints hx => exact hx ▸ Words.holds .int _
  | longs hx => exact hx ▸ Words.holds .long _

theorem holds_tmod (h : Denotes p k a b) : k.Holds (a.tmod b) := by
  cases h with
  | ints hx hy =>
    subst hx hy
    exact Words.toInt_mod .int _ _ ▸ Words.holds .int _
  | longs hx hy =>
    subst hx hy
    exact Words.toInt_mod .long _ _ ▸ Words.holds .long _

end NumberPair.Denotes

namespace Number.Denotes

theorem minus (h : Denotes p k n) :
    ∃ q, UnaryOp.minus.onNumber? p = some q ∧ q.Denotes k (k.wrap (-n)) := by
  cases h with
  | int h => exact ⟨_, rfl, .int (h ▸ Words.toInt_neg .int _)⟩
  | long h => exact ⟨_, rfl, .long (h ▸ Words.toInt_neg .long _)⟩

theorem complement (h : Denotes p k n) :
    ∃ q, UnaryOp.complement.onNumber? p = some q ∧ q.Denotes k (-n - 1) := by
  cases h with
  | int h => exact ⟨_, rfl, .int (h ▸ Words.toInt_not .int _)⟩
  | long h => exact ⟨_, rfl, .long (h ▸ Words.toInt_not .long _)⟩

end Number.Denotes

theorem BinaryOp.arith_of_pair? (op : ArithOp) (h : Value.pair? l r = some p) :
    (arith op).apply l r = op.onPair p := by
  simp only [BinaryOp.apply, h, Option.elim_some]

theorem UnaryOp.apply_of_number? (op : UnaryOp) (h : Value.number? v = some p)
    (hq : op.onNumber? p = some q) : op.apply v = .ok q.toValue := by
  have hresult : op.result? v = (op.onNumber? p).map Number.toValue := by
    cases v <;> cases h <;> cases op <;> rfl
  rw [UnaryOp.apply, hresult, hq]
  rfl

namespace Value.Denotes

theorem arith (op : ArithOp) (hl : Denotes l kl a) (hr : Denotes r kr b)
    (hb : ¬op.Divides ∨ b ≠ 0) :
    Yields ((BinaryOp.arith op).apply l r) (kl.joined kr)
      ((kl.joined kr).wrap (op.onIntegers a b)) := by
  obtain ⟨p, hp, hpab⟩ := hl.pair? hr
  rw [BinaryOp.arith_of_pair? op hp]
  exact hpab.onPair hb

theorem arith_zero (hl : Denotes l kl a) (hr : Denotes r kr 0) (hop : ArithOp.Divides op) :
    (BinaryOp.arith op).apply l r = .error .divisionByZero := by
  obtain ⟨p, hp, hpab⟩ := hl.pair? hr
  rw [BinaryOp.arith_of_pair? op hp]
  exact hpab.onPair_zero hop

theorem arith_eq_divisionByZero_iff (hl : Denotes l kl a) (hr : Denotes r kr b)
    (hop : ArithOp.Divides op) :
    (BinaryOp.arith op).apply l r = .error .divisionByZero ↔ b = 0 := by
  constructor
  · intro herror
    by_contra hb
    obtain ⟨v, hv, -⟩ := hl.arith op hr (.inr hb)
    rw [hv] at herror
    cases herror
  · rintro rfl
    exact hl.arith_zero hr hop

theorem rem (hl : Denotes l kl a) (hr : Denotes r kr b) (hb : b ≠ 0) :
    Yields ((BinaryOp.arith .rem).apply l r) (kl.joined kr) (a.tmod b) := by
  obtain ⟨p, -, hpab⟩ := hl.pair? hr
  have hrem : Yields ((BinaryOp.arith .rem).apply l r) (kl.joined kr)
    ((kl.joined kr).wrap (a.tmod b)) := hl.arith .rem hr (.inr hb)
  rwa [hpab.holds_tmod.wrap_eq] at hrem

theorem minus (h : Denotes v k n) :
    Yields (UnaryOp.minus.apply v) k.promoted (k.promoted.wrap (-n)) := by
  obtain ⟨p, hp, hpn⟩ := h.number?
  obtain ⟨q, hq, hqn⟩ := hpn.minus
  exact ⟨_, UnaryOp.apply_of_number? _ hp hq, hqn.toValue⟩

theorem complement (h : Denotes v k n) :
    Yields (UnaryOp.complement.apply v) k.promoted (-n - 1) := by
  obtain ⟨p, hp, hpn⟩ := h.number?
  obtain ⟨q, hq, hqn⟩ := hpn.complement
  exact ⟨_, UnaryOp.apply_of_number? _ hp hq, hqn.toValue⟩

theorem holds_joined (hl : Denotes l kl a) (hr : Denotes r kr b) : (kl.joined kr).Holds a := by
  obtain ⟨p, -, hpab⟩ := hl.pair? hr
  exact hpab.holds_left

theorem convert_joined (hl : Denotes l kl a) (hr : Denotes r kr b) :
    Yields (l.convert (kl.joined kr)) (kl.joined kr) a :=
  hl.convert_of_holds (Kind.isIntegral_joined kl kr) (hl.holds_joined hr)

/-- The steps by which a dividend is made up of quotient and remainder may each be wrapped. -/
theorem wrap_quotient_and_remainder (k : Kind) (a b : Int) :
    k.wrap (k.wrap (k.wrap (a.tdiv b) * b) + a.tmod b) = k.wrap a := by
  apply Kind.wrap_congr
  calc k.wrap (k.wrap (a.tdiv b) * b) + a.tmod b
      ≡ k.wrap (a.tdiv b) * b + a.tmod b [ZMOD 2 ^ k.width] := (k.wrap_modEq _).add_right _
    _ ≡ a.tdiv b * b + a.tmod b [ZMOD 2 ^ k.width] := ((k.wrap_modEq _).mul_right b).add_right _
    _ = a := Int.tdiv_mul_add_tmod a b

theorem quotient_and_remainder (hl : Denotes l kl a) (hr : Denotes r kr b) (hb : b ≠ 0) :
    (do
      let quotient ← (BinaryOp.arith .div).apply l r
      let product ← (BinaryOp.arith .mul).apply quotient r
      let remainder ← (BinaryOp.arith .rem).apply l r
      (BinaryOp.arith .add).apply product remainder) = l.convert (kl.joined kr) := by
  -- Both sides are values of the promoted kind, so it is enough that they stand for one integer.
  refine Yields.eq ?_ (hl.convert_joined hr)
  refine (hl.arith .div hr (.inr hb)).bind fun quotient hquotient => ?_
  have hproduct := hquotient.arith .mul hr (.inl (by decide))
  rw [Kind.joined_joined_right] at hproduct
  refine hproduct.bind fun product hproduct => (hl.rem hr hb).bind fun remainder hremainder => ?_
  have hsum := hproduct.arith .add hremainder (.inl (by decide))
  rw [Kind.joined_self] at hsum
  have ha := wrap_quotient_and_remainder (kl.joined kr) a b
  rw [(hl.holds_joined hr).wrap_eq] at ha
  exact ha ▸ hsum

end Value.Denotes

/-- The arithmetic operators work on the integers and wrap what they get into the promoted kind,
which is `long` if one of the operands is a `long`, and `int` otherwise. Only a divisor zero has
no quotient and no remainder. For all others the two make up the dividend. -/
theorem Value.integral_arithmetic_wraps (hl : Denotes l kl a) (hr : Denotes r kr b)
    (hk : kl.promotedWith? kr = some k) :
    k = (if kl = .long ∨ kr = .long then .long else .int) ∧
    Yields ((BinaryOp.arith .add).apply l r) k (k.wrap (a + b)) ∧
    Yields ((BinaryOp.arith .sub).apply l r) k (k.wrap (a - b)) ∧
    Yields ((BinaryOp.arith .mul).apply l r) k (k.wrap (a * b)) ∧
    ((BinaryOp.arith .div).apply l r = .error .divisionByZero ↔ b = 0) ∧
    ((BinaryOp.arith .rem).apply l r = .error .divisionByZero ↔ b = 0) ∧
    (b ≠ 0 →
      Yields ((BinaryOp.arith .div).apply l r) k (k.wrap (a.tdiv b)) ∧
      Yields ((BinaryOp.arith .rem).apply l r) k (a.tmod b) ∧
      Yields (l.convert k) k a ∧
      (do
        let quotient ← (BinaryOp.arith .div).apply l r
        let product ← (BinaryOp.arith .mul).apply quotient r
        let remainder ← (BinaryOp.arith .rem).apply l r
        (BinaryOp.arith .add).apply product remainder) = l.convert k) ∧
    Yields (UnaryOp.minus.apply l) kl.promoted (kl.promoted.wrap (-a)) ∧
    Yields (UnaryOp.complement.apply l) kl.promoted (-a - 1) := by
  rw [Kind.promotedWith?_of_integral hl.isIntegral hr.isIntegral, Option.some_inj] at hk
  subst hk
  refine ⟨rfl, hl.arith .add hr (.inl (by decide)), hl.arith .sub hr (.inl (by decide)),
    hl.arith .mul hr (.inl (by decide)), hl.arith_eq_divisionByZero_iff hr (.inl rfl),
    hl.arith_eq_divisionByZero_iff hr (.inr rfl), ?_, hl.minus, hl.complement⟩
  intro hb
  exact ⟨hl.arith .div hr (.inr hb), hl.rem hr hb, hl.convert_joined hr,
    hl.quotient_and_remainder hr hb⟩

/-- The one quotient that is out of range. -/
theorem Value.integral_arithmetic_wraps_least :
    Denotes (int (-2147483648)) .int (-2147483648) ∧ Denotes (byte (-1)) .byte (-1) ∧
    Kind.int.promotedWith? .byte = some .int ∧ (-1 : Int) ≠ 0 ∧
    Yields ((BinaryOp.arith .div).apply (int (-2147483648)) (byte (-1))) .int (-2147483648) ∧
    Yields ((BinaryOp.arith .rem).apply (int (-2147483648)) (byte (-1))) .int 0 := by
  have hl : Denotes (int (-2147483648)) .int (-2147483648) := .int (by decide)
  have hr : Denotes (byte (-1)) .byte (-1) := .byte (by decide)
  obtain ⟨-, -, -, -, -, -, hdivide, -⟩ := integral_arithmetic_wraps hl hr rfl
  obtain ⟨hquotient, hremainder, -⟩ := hdivide (by decide)
  exact ⟨hl, hr, rfl, by decide, hquotient, hremainder⟩

end Probe
