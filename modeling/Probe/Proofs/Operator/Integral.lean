import Mathlib.Data.Int.ModEq
import Probe.Operator.Promotion

namespace Probe
set_option autoImplicit true

namespace Kind

def width : Kind → Nat
  | boolean => 1
  | byte => 8
  | char | short => 16
  | int | float => 32
  | long | double => 64

/-- The least integer of an integral kind; only `char` has no negative ones. -/
def least (k : Kind) : Int := if k = char then 0 else -2 ^ (k.width - 1)

def Holds (k : Kind) (n : Int) : Prop := k.least ≤ n ∧ n < k.least + 2 ^ k.width

/-- The integer in the range of the kind that differs by a multiple of `2 ^ width`. -/
def wrap (k : Kind) (n : Int) : Int := k.least + (n - k.least) % 2 ^ k.width

theorem wrap_modEq (k : Kind) (n : Int) : k.wrap n ≡ n [ZMOD 2 ^ k.width] := by
  have h : (n - k.least) % 2 ^ k.width ≡ n - k.least [ZMOD 2 ^ k.width] := Int.mod_modEq _ _
  simpa only [wrap, add_sub_cancel] using h.add_left k.least

theorem holds_wrap (k : Kind) (n : Int) : k.Holds (k.wrap n) := by
  have hpos : (0 : Int) < 2 ^ k.width := Int.pow_pos (by decide)
  have hnonneg := Int.emod_nonneg (n - k.least) (Int.ne_of_gt hpos)
  have hlt := Int.emod_lt_of_pos (n - k.least) hpos
  unfold Holds wrap
  omega

theorem Holds.eq_of_modEq {k : Kind} (hm : k.Holds m) (hn : k.Holds n)
    (h : m ≡ n [ZMOD 2 ^ k.width]) : m = n := by
  obtain ⟨hm, hm'⟩ := hm
  obtain ⟨hn, hn'⟩ := hn
  have hmod := (h.sub_right k.least).eq
  rw [Int.emod_eq_of_lt (by omega) (by omega), Int.emod_eq_of_lt (by omega) (by omega)] at hmod
  omega

theorem Holds.wrap_eq {k : Kind} (h : k.Holds n) : k.wrap n = n :=
  (k.holds_wrap n).eq_of_modEq h (k.wrap_modEq n)

theorem wrap_congr {k : Kind} (h : m ≡ n [ZMOD 2 ^ k.width]) : k.wrap m = k.wrap n :=
  (k.holds_wrap m).eq_of_modEq (k.holds_wrap n)
    ((k.wrap_modEq m).trans (h.trans (k.wrap_modEq n).symm))

theorem wrap_eq_bmod {k : Kind} (hk : k ≠ char) (n : Int) : k.wrap n = n.bmod (2 ^ k.width) := by
  rw [wrap, least, if_neg hk, Int.bmod_def]
  cases k <;> simp only [width] <;> omega

theorem two_mul_least {k : Kind} (hk : k ≠ char) : 2 * k.least = -2 ^ k.width := by
  rw [least, if_neg hk]
  cases k <;> rfl

theorem wrap_wrap {k m : Kind} (h : k.width ≤ m.width) (n : Int) :
    k.wrap (m.wrap n) = k.wrap n :=
  wrap_congr ((m.wrap_modEq n).of_dvd (pow_dvd_pow 2 h))

theorem toInt_eq_wrap {k : Kind} (hk : k ≠ char) (x : BitVec k.width) :
    x.toInt = k.wrap x.toNat := by
  rw [wrap_eq_bmod hk, BitVec.toInt_eq_toNat_bmod]

/-- Read with and without a sign, a pattern has the same residue. -/
theorem toNat_modEq_toInt {k : Kind} (hk : k ≠ char) (x : BitVec k.width) :
    x.toNat ≡ x.toInt [ZMOD 2 ^ k.width] := by
  rw [toInt_eq_wrap hk]
  exact (k.wrap_modEq _).symm

/-- The kind that two integral operands are promoted to. -/
def joined (l r : Kind) : Kind := if l = long ∨ r = long then long else int

theorem isIntegral_joined (l r : Kind) : (l.joined r).isIntegral = true := by
  unfold joined
  split <;> rfl

theorem joined_joined_right (l r : Kind) : (l.joined r).joined r = l.joined r := by
  cases l <;> cases r <;> rfl

theorem joined_self (l r : Kind) : (l.joined r).joined (l.joined r) = l.joined r := by
  cases l <;> cases r <;> rfl

theorem promoted_joined (l r : Kind) : l.promoted.joined r.promoted = l.joined r := by
  cases l <;> cases r <;> rfl

theorem promotedWith?_of_integral {l r : Kind} (hl : l.isIntegral = true)
    (hr : r.isIntegral = true) : l.promotedWith? r = some (l.joined r) := by
  cases l <;> cases hl <;> cases r <;> cases hr <;> rfl

end Kind

/-- The value is of the integral kind and stands for the integer. A `char` stands for the number
of its code unit. -/
inductive Value.Denotes : Value → Kind → Int → Prop
  | byte {x : Int8} (h : x.toInt = n) : Denotes (.byte x) .byte n
  | char {x : UInt16} (h : (x.toNat : Int) = n) : Denotes (.char x) .char n
  | short {x : Int16} (h : x.toInt = n) : Denotes (.short x) .short n
  | int {x : Int32} (h : x.toInt = n) : Denotes (.int x) .int n
  | long {x : Int64} (h : x.toInt = n) : Denotes (.long x) .long n

namespace Value

theorem Denotes.kind? (h : Denotes v k n) : v.kind? = some k := by
  cases h <;> rfl

theorem Denotes.isIntegral (h : Denotes v k n) : k.isIntegral = true := by
  cases h <;> rfl

theorem exists_denotes (h : kind? v = some k) (hk : k.isIntegral = true) :
    ∃ n, v.Denotes k n := by
  cases v with
  | byte x =>
    cases h
    exact ⟨_, .byte rfl⟩
  | char x =>
    cases h
    exact ⟨_, .char rfl⟩
  | short x =>
    cases h
    exact ⟨_, .short rfl⟩
  | int x =>
    cases h
    exact ⟨_, .int rfl⟩
  | long x =>
    cases h
    exact ⟨_, .long rfl⟩
  | boolean | float | double =>
    cases h
    cases hk
  | null | void | object => cases h

theorem Denotes.holds (h : Denotes v k n) : k.Holds n := by
  cases h with
  | byte h => exact h ▸ ⟨Int8.le_toInt _, Int8.toInt_lt _⟩
  | char h => exact h ▸ ⟨Int.natCast_nonneg _, Int.ofNat_lt.2 (UInt16.toNat_lt _)⟩
  | short h => exact h ▸ ⟨Int16.le_toInt _, Int16.toInt_lt _⟩
  | int h => exact h ▸ ⟨Int32.le_toInt _, Int32.toInt_lt _⟩
  | long h => exact h ▸ ⟨Int64.le_toInt _, Int64.toInt_lt _⟩

theorem Denotes.integer_eq (h : Denotes v k m) (h' : Denotes v k' n) : m = n := by
  cases h <;> cases h' <;> subst_vars <;> rfl

theorem Denotes.unique (hv : Denotes v k n) (hu : Denotes u k n) : v = u := by
  cases hv with
  | byte h =>
    cases hu with
    | byte h' => rw [Int8.toInt.inj (h.trans h'.symm)]
  | char h =>
    cases hu with
    | char h' => rw [UInt16.toNat.inj (Int.ofNat.inj (h.trans h'.symm))]
  | short h =>
    cases hu with
    | short h' => rw [Int16.toInt.inj (h.trans h'.symm)]
  | int h =>
    cases hu with
    | int h' => rw [Int32.toInt.inj (h.trans h'.symm)]
  | long h =>
    cases hu with
    | long h' => rw [Int64.toInt.inj (h.trans h'.symm)]

end Value

/-- The same for promoted operands. -/
inductive Number.Denotes : Number → Kind → Int → Prop
  | int {x : Int32} (h : x.toInt = n) : Denotes (.int x) .int n
  | long {x : Int64} (h : x.toInt = n) : Denotes (.long x) .long n

theorem Number.Denotes.toValue (h : Denotes p k n) : p.toValue.Denotes k n := by
  cases h with
  | int h => exact .int h
  | long h => exact .long h

theorem toInt_codeUnit (x : UInt16) : x.toUInt32.toInt32.toInt = x.toNat := by
  have hlt := x.toNat_lt
  calc x.toUInt32.toInt32.toInt = (x.toNat : Int).bmod (2 ^ 32) :=
        BitVec.toInt_setWidth x.toBitVec
    _ = x.toNat := Int.bmod_eq_of_le (by omega) (by omega)

theorem Value.Denotes.number? (h : Denotes v k n) :
    ∃ p, v.number? = some p ∧ p.Denotes k.promoted n := by
  cases h with
  | byte h => exact ⟨_, rfl, .int ((Int8.toInt_toInt32 _).trans h)⟩
  | char h => exact ⟨_, rfl, .int ((toInt_codeUnit _).trans h)⟩
  | short h => exact ⟨_, rfl, .int ((Int16.toInt_toInt32 _).trans h)⟩
  | int h => exact ⟨_, rfl, .int h⟩
  | long h => exact ⟨_, rfl, .long h⟩

/-- Only integral values are promoted to integral operands. -/
theorem Value.denotes_of_number? (h : number? v = some p) (hp : p.Denotes k n) :
    ∃ k', v.Denotes k' n := by
  have hkind : ∃ k', v.kind? = some k' ∧ k'.isIntegral = true := by
    cases v <;> cases h <;> cases hp <;> exact ⟨_, rfl, rfl⟩
  obtain ⟨k', hk, hintegral⟩ := hkind
  obtain ⟨n', hv⟩ := exists_denotes hk hintegral
  obtain ⟨p', hp', hpn⟩ := hv.number?
  obtain rfl : p = p' := Option.some.inj (h.symm.trans hp')
  rw [hp.toValue.integer_eq hpn.toValue]
  exact ⟨k', hv⟩

/-- Both operands are of the integral kind and stand for the two integers. -/
inductive NumberPair.Denotes : NumberPair → Kind → Int → Int → Prop
  | ints {x y : Int32} (hx : x.toInt = a) (hy : y.toInt = b) : Denotes (.ints x y) .int a b
  | longs {x y : Int64} (hx : x.toInt = a) (hy : y.toInt = b) : Denotes (.longs x y) .long a b

theorem Number.Denotes.pair (hp : Denotes p k a) (hq : Denotes q k' b) :
    (p.pair q).Denotes (k.joined k') a b := by
  cases hp with
  | int hx =>
    cases hq with
    | int hy => exact .ints hx hy
    | long hy => exact .longs ((Int32.toInt_toInt64 _).trans hx) hy
  | long hx =>
    cases hq with
    | int hy => exact .longs hx ((Int32.toInt_toInt64 _).trans hy)
    | long hy => exact .longs hx hy

theorem Value.Denotes.pair? (hl : Denotes l k a) (hr : Denotes r k' b) :
    ∃ p, l.pair? r = some p ∧ p.Denotes (k.joined k') a b := by
  obtain ⟨p, hp, hpa⟩ := hl.number?
  obtain ⟨q, hq, hqb⟩ := hr.number?
  refine ⟨p.pair q, by simp only [Value.pair?, hp, hq], ?_⟩
  rw [← Kind.promoted_joined]
  exact hpa.pair hqb

theorem Number.denotes_of_pair (h : (pair p q).Denotes k a b) :
    (∃ k, p.Denotes k a) ∧ ∃ k, q.Denotes k b := by
  cases p with
  | int x =>
    cases q with
    | int y =>
      cases h with
      | ints hx hy => exact ⟨⟨_, .int hx⟩, _, .int hy⟩
    | long y =>
      cases h with
      | longs hx hy => exact ⟨⟨_, .int ((Int32.toInt_toInt64 x).symm.trans hx)⟩, _, .long hy⟩
    | float | double => cases h
  | long x =>
    cases q with
    | int y =>
      cases h with
      | longs hx hy => exact ⟨⟨_, .long hx⟩, _, .int ((Int32.toInt_toInt64 y).symm.trans hy)⟩
    | long y =>
      cases h with
      | longs hx hy => exact ⟨⟨_, .long hx⟩, _, .long hy⟩
    | float | double => cases h
  | float | double => cases q <;> cases h

theorem Value.denotes_of_pair? (h : pair? l r = some p) (hp : p.Denotes k a b) :
    (∃ k, l.Denotes k a) ∧ ∃ k, r.Denotes k b := by
  unfold Value.pair? at h
  split at h
  · rename_i hl hr
    cases h
    obtain ⟨⟨_, hpa⟩, _, hqb⟩ := Number.denotes_of_pair hp
    exact ⟨denotes_of_number? hl hpa, denotes_of_number? hr hqb⟩
  · cases h

/-- The computation gives the value of the kind that stands for the integer. -/
def Yields (x : Except ε Value) (k : Kind) (n : Int) : Prop := ∃ v, x = .ok v ∧ v.Denotes k n

theorem Yields.eq {x y : Except ε Value} (hx : Yields x k n) (hy : Yields y k n) : x = y := by
  obtain ⟨v, rfl, hv⟩ := hx
  obtain ⟨u, rfl, hu⟩ := hy
  rw [hv.unique hu]

theorem Yields.bind {x : Except ε Value} {f : Value → Except ε Value} (hx : Yields x k n)
    (hf : ∀ v, v.Denotes k n → Yields (f v) k' n') : Yields (x >>= f) k' n' := by
  obtain ⟨v, rfl, hv⟩ := hx
  exact hf v hv

end Probe
