import Probe.Error.Expression
import Probe.Operator.Promotion
import Probe.Operator.Symbol

namespace Probe

namespace ArithOp

variable {α : Type} [Add α] [Sub α] [Mul α] [Div α]

/-- On machine words, which wrap. -/
def onWords [Mod α] [OfNat α 0] [DecidableEq α] : ArithOp → α → α → Except ExpressionError α
  | add, l, r => .ok (l + r)
  | sub, l, r => .ok (l - r)
  | mul, l, r => .ok (l * r)
  | div, l, r => if r = 0 then .error .divisionByZero else .ok (l / r)
  | rem, l, r => if r = 0 then .error .divisionByZero else .ok (l % r)

/-- On floating numbers, whose remainder is given. -/
def onFloating (remainder : α → α → α) : ArithOp → α → α → α
  | add, l, r => l + r
  | sub, l, r => l - r
  | mul, l, r => l * r
  | div, l, r => l / r
  | rem, l, r => remainder l r

def onPair (op : ArithOp) : NumberPair → Except ExpressionError Value
  | .ints l r => (op.onWords l r).map .int
  | .longs l r => (op.onWords l r).map .long
  | .floats l r => .ok (.float (op.onFloating Floating.remSingle l r))
  | .doubles l r => .ok (.double (op.onFloating Floating.remDouble l r))

end ArithOp

namespace ShiftOp

/-- Shifts by the last five bits of the distance. -/
def onInt (op : ShiftOp) (v : Int32) (distance : Int64) : Int32 :=
  let d := (distance &&& 0x1f).toInt32
  match op with
  | left => v <<< d
  | right => v >>> d
  | rightZero => (v.toUInt32 >>> d.toUInt32).toInt32

/-- Shifts by the last six bits of the distance. -/
def onLong (op : ShiftOp) (v : Int64) (distance : Int64) : Int64 :=
  let d := distance &&& 0x3f
  match op with
  | left => v <<< d
  | right => v >>> d
  | rightZero => (v.toUInt64 >>> d.toUInt64).toInt64

/-- The distance given by a promoted operand, which has to be integral. -/
def distance? : Number → Option Int64
  | .int v => some v.toInt64
  | .long v => some v
  | _ => none

/-- A shift has the kind of its promoted left operand, whatever the kind of the distance. -/
def result? (op : ShiftOp) (l r : Value) : Option Value :=
  match l.number?, r.number?.bind distance? with
  | some (.int v), some d => some (.int (op.onInt v d))
  | some (.long v), some d => some (.long (op.onLong v d))
  | _, _ => none

end ShiftOp

namespace BitOp

def onBools : BitOp → Bool → Bool → Bool
  | and, l, r => l && r
  | or, l, r => l || r
  | xor, l, r => l ^^ r

def onWords {α : Type} [AndOp α] [OrOp α] [XorOp α] : BitOp → α → α → α
  | and, l, r => l &&& r
  | or, l, r => l ||| r
  | xor, l, r => l ^^^ r

def result? (op : BitOp) (l r : Value) : Option Value :=
  match l, r with
  | .boolean l, .boolean r => some (.boolean (op.onBools l r))
  | l, r =>
    match l.pair? r with
    | some (.ints l r) => some (.int (op.onWords l r))
    | some (.longs l r) => some (.long (op.onWords l r))
    | _ => none

end BitOp

namespace OrderOp

/-- No order holds with a value that is not a number. -/
def compare {α : Type} [LT α] [LE α] [DecidableLT α] [DecidableLE α] : OrderOp → α → α → Bool
  | lt, l, r => l < r
  | le, l, r => l ≤ r
  | gt, l, r => r < l
  | ge, l, r => r ≤ l

def onPair (op : OrderOp) : NumberPair → Bool
  | .ints l r => op.compare l r
  | .longs l r => op.compare l r
  | .floats l r => op.compare (Floating.widen l) (Floating.widen r)
  | .doubles l r => op.compare l r

end OrderOp

def NumberPair.equal : NumberPair → Bool
  | .ints l r => l == r
  | .longs l r => l == r
  | .floats l r => l == r
  | .doubles l r => l == r

/-- The language's equality; undefined between a boolean, a number and a reference. -/
def Value.equal? (l r : Value) : Option Bool :=
  match l.pair? r with
  | some pair => some pair.equal
  | none =>
    match l, r with
    | .boolean l, .boolean r => some (l == r)
    | .null, .null => some true
    | .null, .object _ => some false
    | .object _, .null => some false
    | .object l, .object r => some (l.id == r.id)
    | _, _ => none

def ExpressionError.undefined (symbol : String) (operands : List Value) : ExpressionError :=
  .invalidOperand symbol (operands.map Value.typeName)

def UnaryOp.onNumber? : UnaryOp → Number → Option Number
  | plus, n => some n
  | minus, .int v => some (.int (-v))
  | minus, .long v => some (.long (-v))
  | minus, .float v => some (.float (-v))
  | minus, .double v => some (.double (-v))
  | complement, .int v => some (.int (~~~v))
  | complement, .long v => some (.long (~~~v))
  | _, _ => none

def UnaryOp.result? : UnaryOp → Value → Option Value
  | .not, .boolean b => some (.boolean !b)
  | op, v => (v.number?.bind op.onNumber?).map Number.toValue

def UnaryOp.apply (op : UnaryOp) (v : Value) : Except ExpressionError Value :=
  (op.result? v).elim (.error (.undefined op.symbol [v])) .ok

def BinaryOp.apply (op : BinaryOp) (l r : Value) : Except ExpressionError Value :=
  let undefined := ExpressionError.undefined op.symbol [l, r]
  match op with
  | .eq => (l.equal? r).elim (.error undefined) fun b => .ok (.boolean b)
  | .ne => (l.equal? r).elim (.error undefined) fun b => .ok (.boolean !b)
  | .bit op => (op.result? l r).elim (.error undefined) .ok
  | .shift op => (op.result? l r).elim (.error undefined) .ok
  | .order op => (l.pair? r).elim (.error undefined) fun pair => .ok (.boolean (op.onPair pair))
  | .arith op => (l.pair? r).elim (.error undefined) op.onPair

end Probe
