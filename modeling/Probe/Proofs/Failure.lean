import Probe.Error.Failure
import Probe.Operator.Apply
import Probe.Operator.Convert

namespace Probe
set_option autoImplicit true

theorem Failure.ofRemote_ne_malformed (e : RemoteError) (c : CodeError) :
    Failure.ofRemote e ≠ .malformed c := by
  cases e <;> simp [Failure.ofRemote]

/-- Only a debuggee that answers can give the reason for the error. -/
def ExpressionError.isAnswer : ExpressionError → Bool
  | .noSuchConstructor .. | .noSuchMethod .. | .unresolvedName _ | .unknownType _ | .exception _
  | .notAtEvent _ => true
  | _ => false

/-- What a run against a lost debuggee can fail with. -/
def Failure.Excused (loss : RemoteError) : Failure → Prop
  | .communication e => e = loss
  | .expression e => e.isAnswer = false
  | .crashed => False
  | _ => True

/-- The result is not an error that only the debuggee could have given a reason for. -/
def Independent (r : Except ExpressionError α) : Prop := ∀ e, r = .error e → e.isAnswer = false

namespace Independent

theorem ok (a : α) : Independent (.ok a) := by
  rintro e ⟨⟩

theorem error (h : e.isAnswer = false) : Independent (.error e : Except _ α) := by
  rintro _ ⟨⟩
  exact h

theorem elim {found : Option β} {f : β → Except ExpressionError α} (he : e.isAnswer = false)
    (hf : ∀ b, Independent (f b)) : Independent (found.elim (.error e) f) := by
  cases found with
  | none => exact error he
  | some b => exact hf b

theorem map {r : Except ExpressionError α} (hr : Independent r) (f : α → β) :
    Independent (r.map f) := by
  cases r with
  | ok a => exact ok (f a)
  | error e => exact error (hr e rfl)

theorem ite {c : Prop} [Decidable c] {r r' : Except ExpressionError α} (h : Independent r)
    (h' : Independent r') : Independent (if c then r else r') := by
  by_cases hc : c
  · rwa [if_pos hc]
  · rwa [if_neg hc]

end Independent

theorem independent_convert (v : Value) (target : Kind) : Independent (v.convert target) :=
  .elim rfl .ok

theorem independent_unary (op : UnaryOp) (v : Value) : Independent (op.apply v) := .elim rfl .ok

theorem independent_onWords {α : Type} [Add α] [Sub α] [Mul α] [Div α] [Mod α] [OfNat α 0]
    [DecidableEq α] (op : ArithOp) (l r : α) : Independent (op.onWords l r) := by
  cases op with
  | add | sub | mul => exact .ok _
  | div | rem => exact .ite (.error rfl) (.ok _)

theorem independent_binary (op : BinaryOp) (l r : Value) : Independent (op.apply l r) := by
  cases op with
  | arith op =>
    apply Independent.elim rfl
    intro pair
    cases pair with
    | ints l r => exact (independent_onWords op l r).map _
    | longs l r => exact (independent_onWords op l r).map _
    | floats l r => exact .ok _
    | doubles l r => exact .ok _
  | _ => exact .elim rfl fun _ => .ok _

end Probe
