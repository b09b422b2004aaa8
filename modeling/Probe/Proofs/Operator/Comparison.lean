import Mathlib
import Probe.Proofs.Operator.Words

namespace Probe
set_option autoImplicit true

theorem OrderOp.onIntegers_trans {op : OrderOp} (h : op.onIntegers a b = true)
    (h' : op.onIntegers b c = true) : op.onIntegers a c = true := by
  cases op <;> simp only [onIntegers, decide_eq_true_eq] at h h' ⊢ <;> omega

namespace NumberPair

theorem Denotes.order (h : Denotes p k a b) (op : OrderOp) :
    op.onPair p = op.onIntegers a b := by
  cases h with
  | ints hx hy =>
    subst hx hy
    exact Words.order .int op _ _
  | longs hx hy =>
    subst hx hy
    exact Words.order .long op _ _

theorem Denotes.equal (h : Denotes p k a b) : p.equal = decide (a = b) := by
  cases h with
  | ints hx hy =>
    subst hx hy
    exact decide_eq_decide.2 (Words.toInt_inj .int _ _).symm
  | longs hx hy =>
    subst hx hy
    exact decide_eq_decide.2 (Words.toInt_inj .long _ _).symm

def swap : NumberPair → NumberPair
  | ints l r => ints r l
  | longs l r => longs r l
  | floats l r => floats r l
  | doubles l r => doubles r l

theorem equal_swap (p : NumberPair) : p.swap.equal = p.equal := by
  -- No smaller part of the library has this for floating numbers.
  cases p with
  | ints l r => exact BEq.comm
  | longs l r => exact BEq.comm
  | floats l r => exact BEq.comm
  | doubles l r => exact BEq.comm

end NumberPair

theorem Number.pair_swap (p q : Number) : q.pair p = (p.pair q).swap := by
  cases p <;> cases q <;> rfl

def BinaryOp.Relates (op : BinaryOp) (l r : Value) : Prop := op.apply l r = .ok (.boolean true)

namespace Value

theorem pair?_swap (l r : Value) : r.pair? l = (l.pair? r).map NumberPair.swap := by
  unfold pair?
  cases l.number? with
  | none => cases r.number? <;> rfl
  | some p =>
    cases r.number? with
    | none => rfl
    | some q => exact congrArg some (p.pair_swap q)

theorem equal?_comm (l r : Value) : r.equal? l = l.equal? r := by
  unfold equal?
  rw [pair?_swap l r]
  cases hp : l.pair? r with
  | some p => exact congrArg some p.equal_swap
  | none =>
    cases l with
    | boolean x =>
      cases r with
      | boolean y => exact congrArg some BEq.comm
      | _ => rfl
    | object h =>
      cases r with
      | object h' => exact congrArg some BEq.comm
      | _ => rfl
    | _ => cases r <;> rfl

namespace Denotes

theorem order (op : OrderOp) (hl : Denotes l kl a) (hr : Denotes r kr b) :
    (BinaryOp.order op).apply l r = .ok (.boolean (op.onIntegers a b)) := by
  obtain ⟨p, hp, hpab⟩ := hl.pair? hr
  simp only [BinaryOp.apply, hp, Option.elim_some, hpab.order op]

theorem equal? (hl : Denotes l kl a) (hr : Denotes r kr b) :
    l.equal? r = some (decide (a = b)) := by
  obtain ⟨p, hp, hpab⟩ := hl.pair? hr
  simp only [Value.equal?, hp, hpab.equal]

theorem eq (hl : Denotes l kl a) (hr : Denotes r kr b) :
    BinaryOp.eq.apply l r = .ok (.boolean (decide (a = b))) := by
  simp only [BinaryOp.apply, hl.equal? hr, Option.elim_some]

theorem ne (hl : Denotes l kl a) (hr : Denotes r kr b) :
    BinaryOp.ne.apply l r = .ok (.boolean (decide (a ≠ b))) := by
  simp only [BinaryOp.apply, hl.equal? hr, Option.elim_some, decide_not]

theorem relates_order_iff (op : OrderOp) (hl : Denotes l kl a) (hr : Denotes r kr b) :
    (BinaryOp.order op).Relates l r ↔ op.onIntegers a b = true := by
  simp only [BinaryOp.Relates, hl.order op hr, Except.ok.injEq, boolean.injEq]

theorem relates_eq_iff (hl : Denotes l kl a) (hr : Denotes r kr b) :
    BinaryOp.eq.Relates l r ↔ a = b := by
  simp only [BinaryOp.Relates, hl.eq hr, Except.ok.injEq, boolean.injEq, decide_eq_true_eq]

theorem trichotomy (hl : Denotes l kl a) (hr : Denotes r kr b) :
    ∃! op, op ∈ [BinaryOp.order .lt, .eq, .order .gt] ∧ op.Relates l r := by
  have hlt := hl.relates_order_iff .lt hr
  have hgt := hl.relates_order_iff .gt hr
  have heq := hl.relates_eq_iff hr
  simp only [OrderOp.onIntegers, decide_eq_true_eq] at hlt hgt
  obtain h | h | h := Int.lt_trichotomy a b
  · refine ⟨.order .lt, ⟨by simp, hlt.2 h⟩, ?_⟩
    grind
  · refine ⟨.eq, ⟨by simp, heq.2 h⟩, ?_⟩
    grind
  · refine ⟨.order .gt, ⟨by simp, hgt.2 h⟩, ?_⟩
    grind

end Denotes

def IsReference : Value → Prop
  | null | object _ => True
  | _ => False

theorem IsReference.equal? (hl : IsReference l) (hr : IsReference r) :
    ∃ b, l.equal? r = some b ∧ (b = true ↔ l = null ∧ r = null ∨
      ∃ h h', l = object h ∧ r = object h' ∧ h.id = h'.id) := by
  cases l with
  | null =>
    cases r with
    | null => exact ⟨true, rfl, by simp⟩
    | object h => exact ⟨false, rfl, by simp⟩
    | _ => cases hr
  | object h =>
    cases r with
    | null => exact ⟨false, rfl, by simp⟩
    | object h' => exact ⟨h.id == h'.id, rfl, by simp⟩
    | _ => cases hr
  | _ => cases hl

theorem equality_cases (l r : Value) :
    (∃ b, BinaryOp.eq.apply l r = .ok (.boolean b) ∧ BinaryOp.eq.apply r l = .ok (.boolean b) ∧
      BinaryOp.ne.apply l r = .ok (.boolean !b) ∧ BinaryOp.ne.apply r l = .ok (.boolean !b)) ∨
    ∀ op ∈ [BinaryOp.eq, .ne], op.apply l r = .error (.undefined op.symbol [l, r]) ∧
      op.apply r l = .error (.undefined op.symbol [r, l]) := by
  have hcomm := equal?_comm l r
  cases h : l.equal? r with
  | some b =>
    rw [h] at hcomm
    simp [BinaryOp.apply, h, hcomm]
  | none =>
    rw [h] at hcomm
    simp [BinaryOp.apply, h, hcomm]

/-- Integral values are compared as integers, whatever their kinds: of less, equal and greater
exactly one holds, and the comparisons other than inequality are transitive. Equality of any two
values is undefined in both orders of the operands or the same in both, with inequality as its
negation. References are equal if they are both null or are objects of one identity. -/
theorem comparisons_consistent :
    (∀ {l r kl kr a b}, Denotes l kl a → Denotes r kr b →
      (BinaryOp.order .lt).apply l r = .ok (.boolean (a < b)) ∧
      (BinaryOp.order .le).apply l r = .ok (.boolean (a ≤ b)) ∧
      (BinaryOp.order .gt).apply l r = .ok (.boolean (a > b)) ∧
      (BinaryOp.order .ge).apply l r = .ok (.boolean (a ≥ b)) ∧
      BinaryOp.eq.apply l r = .ok (.boolean (a = b)) ∧
      BinaryOp.ne.apply l r = .ok (.boolean (a ≠ b)) ∧
      ∃! op, op ∈ [BinaryOp.order .lt, .eq, .order .gt] ∧ op.Relates l r) ∧
    (∀ {l m r kl km kr a b c}, Denotes l kl a → Denotes m km b → Denotes r kr c →
      ∀ op ∈ [BinaryOp.order .lt, .order .le, .order .gt, .order .ge, .eq],
        op.Relates l m → op.Relates m r → op.Relates l r) ∧
    (∀ l r : Value,
      (∃ b, BinaryOp.eq.apply l r = .ok (.boolean b) ∧ BinaryOp.eq.apply r l = .ok (.boolean b) ∧
        BinaryOp.ne.apply l r = .ok (.boolean !b) ∧ BinaryOp.ne.apply r l = .ok (.boolean !b)) ∨
      ∀ op ∈ [BinaryOp.eq, .ne], op.apply l r = .error (.undefined op.symbol [l, r]) ∧
        op.apply r l = .error (.undefined op.symbol [r, l])) ∧
    ∀ {l r}, IsReference l → IsReference r → ∃ b, BinaryOp.eq.apply l r = .ok (.boolean b) ∧
      (b = true ↔ l = null ∧ r = null ∨
        ∃ h h', l = object h ∧ r = object h' ∧ h.id = h'.id) := by
  refine ⟨fun hl hr => ?_, fun hl hm hr op hop hlm hmr => ?_, equality_cases, fun hl hr => ?_⟩
  · exact ⟨hl.order .lt hr, hl.order .le hr, hl.order .gt hr, hl.order .ge hr,
      hl.eq hr, hl.ne hr, hl.trichotomy hr⟩
  · cases op with
    | order op =>
      rw [hl.relates_order_iff op hm] at hlm
      rw [hm.relates_order_iff op hr] at hmr
      exact (hl.relates_order_iff op hr).2 (OrderOp.onIntegers_trans hlm hmr)
    | eq =>
      rw [hl.relates_eq_iff hm] at hlm
      rw [hm.relates_eq_iff hr] at hmr
      exact (hl.relates_eq_iff hr).2 (hlm.trans hmr)
    | arith | shift | bit | ne => simp at hop
  · obtain ⟨b, hb, hiff⟩ := hl.equal? hr
    exact ⟨b, by simp only [BinaryOp.apply, hb, Option.elim_some], hiff⟩

theorem comparisons_consistent_mixed :
    Denotes (byte (-1)) .byte (-1) ∧ Denotes (char 0xffff) .char 65535 ∧
    Denotes (long 65535) .long 65535 ∧
    (BinaryOp.order .lt).apply (byte (-1)) (char 0xffff) = .ok (.boolean true) ∧
    BinaryOp.eq.apply (char 0xffff) (long 65535) = .ok (.boolean true) ∧
    (BinaryOp.order .le).Relates (byte (-1)) (long 65535) ∧
    BinaryOp.eq.apply (object ⟨7, "Point"⟩) (object ⟨7, "java.lang.Object"⟩) =
      .ok (.boolean true) := by
  have hbyte : Denotes (byte (-1)) .byte (-1) := .byte (by decide)
  have hchar : Denotes (char 0xffff) .char 65535 := .char (by decide)
  have hlong : Denotes (long 65535) .long 65535 := .long (by decide)
  obtain ⟨hcompare, htrans, -, href⟩ := comparisons_consistent
  obtain ⟨hlt, hle, -⟩ := hcompare hbyte hchar
  obtain ⟨-, hle', -, -, heq, -⟩ := hcompare hchar hlong
  obtain ⟨b, hb, hiff⟩ := href (l := object ⟨7, "Point"⟩) (r := object ⟨7, "java.lang.Object"⟩)
    trivial trivial
  obtain rfl : b = true := hiff.2 (.inr ⟨_, _, rfl, rfl, rfl⟩)
  exact ⟨hbyte, hchar, hlong, hlt, heq, htrans hbyte hchar hlong (.order .le) (by simp) hle hle',
    hb⟩

end Value

end Probe
