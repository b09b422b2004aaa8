import Probe.Proofs.Operator.Words

namespace Probe
set_option autoImplicit true

namespace ShiftOp

/-- What a shift by so many places does to a pattern. -/
def onPattern : ShiftOp → BitVec w → Nat → BitVec w
  | left, x, d => x <<< d
  | right, x, d => x.sshiftRight d
  | rightZero, x, d => x >>> d

/-- What a shift by so many places does to an integer of the kind. A division rounds down. Where
zeros are shifted in, the pattern of the integer is divided as if it had no sign. -/
def onInteger (k : Kind) (d : Nat) : ShiftOp → Int → Int
  | left, a => k.wrap (a * 2 ^ d)
  | right, a => a.fdiv (2 ^ d)
  | rightZero, a => k.wrap (a % 2 ^ k.width / 2 ^ d)

theorem toInt_onPattern {k : Kind} (hk : k ≠ .char) (op : ShiftOp) (x : BitVec k.width)
    (d : Nat) :
    (op.onPattern x d).toInt = op.onInteger k d x.toInt := by
  have hx := Kind.toNat_modEq_toInt hk x
  cases op with
  | left =>
    rw [Kind.toInt_eq_wrap hk]
    apply Kind.wrap_congr
    calc ((x <<< d).toNat : Int) = x.toNat * 2 ^ d % 2 ^ k.width := by
          rw [BitVec.toNat_shiftLeft, Nat.shiftLeft_eq]
          push_cast
          rfl
      _ ≡ x.toNat * 2 ^ d [ZMOD 2 ^ k.width] := Int.mod_modEq _ _
      _ ≡ x.toInt * 2 ^ d [ZMOD 2 ^ k.width] := hx.mul_right _
  | right =>
    calc (x.sshiftRight d).toInt = x.toInt / 2 ^ d := by
          rw [BitVec.toInt_sshiftRight, Int.shiftRight_eq_div_pow]
          push_cast
          rfl
      _ = x.toInt.fdiv (2 ^ d) := (Int.fdiv_eq_ediv_of_nonneg _ (Int.pow_nonneg (by decide))).symm
  | rightZero =>
    have hunsigned : x.toInt % 2 ^ k.width = x.toNat := by
      rw [← hx.eq]
      exact Int.emod_eq_of_lt (Int.natCast_nonneg _) (by exact_mod_cast x.isLt)
    rw [Kind.toInt_eq_wrap hk, onInteger, hunsigned, onPattern, BitVec.toNat_ushiftRight,
      Nat.shiftRight_eq_div_pow]
    push_cast
    rfl

/-- The shifts of machine words, which reduce the distance by themselves. -/
def onWord (m : BitVec w) : ShiftOp → BitVec w → BitVec w → BitVec w
  | left, x, y => x <<< y.smod m
  | right, x, y => x.sshiftRight' (y.smod m)
  | rightZero, x, y => x >>> (y % m)

theorem smod_of_lt {x y : BitVec w} (hxy : x.toNat < y.toNat) (hy : 2 * y.toNat < 2 ^ w) :
    x.smod y = x := by
  apply BitVec.eq_of_toInt_eq
  rw [BitVec.toInt_smod, BitVec.toInt_eq_toNat_of_lt (by omega), BitVec.toInt_eq_toNat_of_lt hy]
  exact Int.fmod_eq_of_lt (Int.natCast_nonneg _) (Int.ofNat_lt.2 hxy)

/-- A distance that is masked already is not reduced further. -/
theorem onWord_of_lt {m y : BitVec w} (op : ShiftOp) (x : BitVec w) (hy : y.toNat < m.toNat)
    (hm : 2 * m.toNat < 2 ^ w) : op.onWord m x y = op.onPattern x y.toNat := by
  cases op with
  | left => rw [onWord, smod_of_lt hy hm, BitVec.shiftLeft_eq', onPattern]
  | right => rw [onWord, smod_of_lt hy hm, BitVec.sshiftRight_eq', onPattern]
  | rightZero =>
    rw [onWord, BitVec.ushiftRight_eq', BitVec.toNat_umod, Nat.mod_eq_of_lt hy, onPattern]

theorem toNat_mod (e : Int64) {m : Nat} (hm : (m : Int) ∣ 2 ^ 64) :
    e.toBitVec.toNat % m = (e.toInt % m).toNat := by
  have he : (e.toBitVec.toNat : Int) ≡ e.toInt [ZMOD m] :=
    (Kind.toNat_modEq_toInt (k := .long) (by decide) e.toBitVec).of_dvd hm
  rw [← he.eq, ← Int.natCast_emod, Int.toNat_natCast]

theorem toNat_distance_int (e : Int64) :
    (e &&& 0x1f).toInt32.toBitVec.toNat = (e.toInt % 32).toNat := by
  have hmask : (e &&& 0x1f).toBitVec.toNat = e.toBitVec.toNat % 32 :=
    Nat.and_two_pow_sub_one_eq_mod _ 5
  rw [Int64.toBitVec_toInt32, BitVec.signExtend_eq_setWidth_of_le _ (by decide),
    BitVec.toNat_setWidth, hmask, toNat_mod e (by decide)]
  exact Nat.mod_eq_of_lt (by omega)

theorem toNat_distance_long (e : Int64) :
    (e &&& 0x3f).toBitVec.toNat = (e.toInt % 64).toNat := by
  have hmask : (e &&& 0x3f).toBitVec.toNat = e.toBitVec.toNat % 64 :=
    Nat.and_two_pow_sub_one_eq_mod _ 6
  rw [hmask, toNat_mod e (by decide)]
  rfl

theorem toInt_onInt (op : ShiftOp) (v : Int32) (e : Int64) :
    (op.onInt v e).toInt = op.onInteger .int (e.toInt % 32).toNat v.toInt := by
  have hd := toNat_distance_int e
  have hword : (op.onInt v e).toBitVec = op.onWord 32 v.toBitVec (e &&& 0x1f).toInt32.toBitVec := by
    cases op <;> rfl
  have hlt : (e &&& 0x1f).toInt32.toBitVec.toNat < 32 := by omega
  rw [← Int32.toInt_toBitVec, hword, op.onWord_of_lt _ hlt (by decide), hd]
  exact toInt_onPattern (k := .int) (by decide) op _ _

theorem toInt_onLong (op : ShiftOp) (v e : Int64) :
    (op.onLong v e).toInt = op.onInteger .long (e.toInt % 64).toNat v.toInt := by
  have hd := toNat_distance_long e
  have hword : (op.onLong v e).toBitVec = op.onWord 64 v.toBitVec (e &&& 0x3f).toBitVec := by
    cases op <;> rfl
  have hlt : (e &&& 0x3f).toBitVec.toNat < 64 := by omega
  rw [← Int64.toInt_toBitVec, hword, op.onWord_of_lt _ hlt (by decide), hd]
  exact toInt_onPattern (k := .long) (by decide) op _ _

theorem result?_of_denotes (op : ShiftOp) (hl : Value.number? l = some p) (hp : p.Denotes k a)
    (hr : (Value.number? r).bind distance? = some e) :
    ∃ v, op.result? l r = some v ∧
      v.Denotes k (op.onInteger k (e.toInt % k.width).toNat a) := by
  cases hp with
  | @int _ x h =>
    refine ⟨.int (op.onInt x e), ?_, .int ?_⟩
    · simp only [result?, hl, hr]
    · rw [toInt_onInt, h]
      rfl
  | @long _ x h =>
    refine ⟨.long (op.onLong x e), ?_, .long ?_⟩
    · simp only [result?, hl, hr]
    · rw [toInt_onLong, h]
      rfl

end ShiftOp

theorem Number.Denotes.distance? (h : Denotes p k n) :
    ∃ e, ShiftOp.distance? p = some e ∧ e.toInt = n := by
  cases h with
  | int h => exact ⟨_, rfl, (Int32.toInt_toInt64 _).trans h⟩
  | long h => exact ⟨_, rfl, h⟩

theorem BitOp.result?_of_denotes (op : BitOp) (hp : Value.pair? l r = some p)
    (h : p.Denotes k a b) :
    ∃ v, op.result? l r = some v ∧
      v.Denotes k (op.onPatterns (.ofInt k.width a) (.ofInt k.width b)).toInt := by
  cases h with
  | @ints _ _ x y hx hy =>
    subst hx hy
    refine ⟨.int (op.onWords x y), ?_, .int (Words.bit .int op x y)⟩
    unfold result?
    split
    · cases hp
    · simp only [hp]
  | @longs _ _ x y hx hy =>
    subst hx hy
    refine ⟨.long (op.onWords x y), ?_, .long (Words.bit .long op x y)⟩
    unfold result?
    split
    · cases hp
    · simp only [hp]

namespace Value.Denotes

theorem shift (op : ShiftOp) (hl : Denotes l kl a) (hr : Denotes r kr b) :
    Yields ((BinaryOp.shift op).apply l r) kl.promoted
      (op.onInteger kl.promoted (b % kl.promoted.width).toNat a) := by
  obtain ⟨p, hp, hpa⟩ := hl.number?
  obtain ⟨q, hq, hqb⟩ := hr.number?
  obtain ⟨e, he, heb⟩ := hqb.distance?
  obtain ⟨v, hv, hva⟩ := op.result?_of_denotes hp hpa (by rw [hq, Option.bind_some, he])
  rw [heb] at hva
  exact ⟨v, by simp only [BinaryOp.apply, hv, Option.elim_some], hva⟩

theorem bit (op : BitOp) (hl : Denotes l kl a) (hr : Denotes r kr b) :
    Yields ((BinaryOp.bit op).apply l r) (kl.joined kr)
      (op.onPatterns (.ofInt (kl.joined kr).width a) (.ofInt (kl.joined kr).width b)).toInt := by
  obtain ⟨p, hp, hpab⟩ := hl.pair? hr
  obtain ⟨v, hv, hvab⟩ := op.result?_of_denotes hp hpab
  exact ⟨v, by simp only [BinaryOp.apply, hv, Option.elim_some], hvab⟩

end Value.Denotes

/-- A shift has the kind of the promoted left operand, and of the distance only the residue
modulo the width of that kind counts. To the left, the integer is multiplied and wrapped; to the
right it is divided and rounded down, with zeros shifted in as if its pattern had no sign. The
bitwise operators combine the patterns of the integers in the width of the promoted kind of
both. -/
theorem Value.shifts_and_patterns {w d : Nat} (hl : Denotes l kl a) (hr : Denotes r kr b)
    (hw : w = if kl = .long then 64 else 32) (hd : d = (b % w).toNat)
    (hk : k = if kl = .long ∨ kr = .long then .long else .int) :
    Yields ((BinaryOp.shift .left).apply l r) kl.promoted (kl.promoted.wrap (a * 2 ^ d)) ∧
    Yields ((BinaryOp.shift .right).apply l r) kl.promoted (a.fdiv (2 ^ d)) ∧
    Yields ((BinaryOp.shift .rightZero).apply l r) kl.promoted
      (kl.promoted.wrap (a % 2 ^ w / 2 ^ d)) ∧
    kl.promoted.width = w ∧
    ∀ op, Yields ((BinaryOp.bit op).apply l r) k
      (op.onPatterns (.ofInt k.width a) (.ofInt k.width b)).toInt := by
  have hwidth : w = kl.promoted.width := by
    rw [hw]
    cases hl <;> rfl
  subst hwidth hd hk
  exact ⟨hl.shift .left hr, hl.shift .right hr, hl.shift .rightZero hr, rfl,
    fun op => hl.bit op hr⟩

theorem Value.shifts_and_patterns_negative :
    Denotes (byte (-8)) .byte (-8) ∧ Denotes (long (-1)) .long (-1) ∧
    Yields ((BinaryOp.shift .right).apply (byte (-8)) (long (-1))) .int (-1) ∧
    Yields ((BinaryOp.shift .rightZero).apply (byte (-8)) (long (-1))) .int 1 ∧
    Yields ((BinaryOp.bit .xor).apply (byte (-8)) (long (-1))) .long 7 := by
  have hl : Denotes (byte (-8)) .byte (-8) := .byte (by decide)
  have hr : Denotes (long (-1)) .long (-1) := .long (by decide)
  obtain ⟨-, hright, hzero, -, hbit⟩ := shifts_and_patterns hl hr rfl rfl rfl
  exact ⟨hl, hr, hright, hzero, hbit .xor⟩

end Probe
